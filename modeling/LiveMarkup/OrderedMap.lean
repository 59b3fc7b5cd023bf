/-
Maps from names to values that remember the order in which names came in.

Writing a name that is already there keeps its place; a new name goes to the end.  A map
is its list of entries, and every question about it is a question about that list.
-/

namespace LiveMarkup

/-- Named entries in order of arrival. -/
structure OrderedMap (β : Type) where
  entries : List (String × β) := []
  deriving DecidableEq, Repr

namespace OrderedMap

variable {β γ : Type}

instance : EmptyCollection (OrderedMap β) := ⟨⟨[]⟩⟩

instance : Inhabited (OrderedMap β) := ⟨∅⟩

/-- The names, in order. -/
def names (m : OrderedMap β) : List String := m.entries.map Prod.fst

/-- Whether there is no entry. -/
def isEmpty (m : OrderedMap β) : Bool := m.entries.isEmpty

/-- The value of a name. -/
def get? (m : OrderedMap β) (name : String) : Option β := m.entries.lookup name

/-- Whether a name has a value. -/
def contains (m : OrderedMap β) (name : String) : Bool := (m.get? name).isSome

/-- Write `value` into the entry of `name`, or at the end if there is none. -/
def insertEntry (name : String) (value : β) : List (String × β) → List (String × β)
  | [] => [(name, value)]
  | entry :: rest =>
    if entry.1 = name then (name, value) :: rest else entry :: insertEntry name value rest

/-- Write the value of a name; a name that was there keeps its place. -/
def insert (m : OrderedMap β) (name : String) (value : β) : OrderedMap β :=
  ⟨insertEntry name value m.entries⟩

/-- Write the value of a name unless it has one. -/
def insertNew (m : OrderedMap β) (name : String) (value : β) : OrderedMap β :=
  if m.contains name then m else ⟨m.entries ++ [(name, value)]⟩

/-- Take out a name; the others keep their order. -/
def erase (m : OrderedMap β) (name : String) : OrderedMap β :=
  ⟨m.entries.filter fun entry => entry.1 != name⟩

/-- The map with the given entries, a later one of the same name overwriting an earlier. -/
def ofList (entries : List (String × β)) : OrderedMap β :=
  entries.foldl (fun m entry => m.insert entry.1 entry.2) ∅

/-! ### Looking up -/

theorem lookup_cons {α : Type} [DecidableEq α] (first other : α) (held : β)
    (rest : List (α × β)) :
    ((first, held) :: rest).lookup other =
      if other = first then some held else rest.lookup other := by
  rw [List.lookup_cons]
  by_cases hother : other = first
  · rw [if_pos hother, beq_iff_eq.2 hother]
  · rw [if_neg hother, beq_eq_false_iff_ne.2 hother]

theorem lookup_insertEntry (name other : String) (value : β) (entries : List (String × β)) :
    (insertEntry name value entries).lookup other =
      if other = name then some value else entries.lookup other := by
  induction entries with
  | nil => exact lookup_cons name other value []
  | cons entry rest ih =>
    obtain ⟨first, held⟩ := entry
    by_cases hfirst : first = name
    · simp only [insertEntry, hfirst, if_true, lookup_cons]
      split <;> rfl
    · simp only [insertEntry, hfirst, if_false, lookup_cons, ih]
      by_cases hother : other = first
      · have hne : other ≠ name := fun hc => hfirst (hother ▸ hc)
        simp only [if_pos hother, if_neg hne]
      · simp only [if_neg hother]

/-- Writing a name changes what that name gives, and nothing else. -/
theorem get?_insert (m : OrderedMap β) (name other : String) (value : β) :
    (m.insert name value).get? other = if other = name then some value else m.get? other :=
  lookup_insertEntry name other value m.entries

theorem lookup_filter_ne (name other : String) (entries : List (String × β)) :
    (entries.filter fun entry => entry.1 != name).lookup other =
      if other = name then none else entries.lookup other := by
  induction entries with
  | nil => simp
  | cons entry rest ih =>
    obtain ⟨first, held⟩ := entry
    by_cases hfirst : first = name
    · subst hfirst
      have hout : (first != first) = false := by simp
      simp only [List.filter_cons, hout, Bool.false_eq_true, if_false, ih, lookup_cons]
      split <;> rfl
    · have hin : (first != name) = true := by simp [hfirst]
      simp only [List.filter_cons, hin, if_true, ih, lookup_cons]
      by_cases hother : other = first
      · have hne : other ≠ name := fun hc => hfirst (hother ▸ hc)
        simp only [if_pos hother, if_neg hne]
      · simp only [if_neg hother]

/-- Taking out a name leaves every other name as it was. -/
theorem get?_erase (m : OrderedMap β) (name other : String) :
    (m.erase name).get? other = if other = name then none else m.get? other :=
  lookup_filter_ne name other m.entries

/-! ### Order -/

theorem map_fst_insertEntry (name : String) (value : β) (entries : List (String × β)) :
    (insertEntry name value entries).map Prod.fst =
      if name ∈ entries.map Prod.fst then entries.map Prod.fst
      else entries.map Prod.fst ++ [name] := by
  induction entries with
  | nil => simp [insertEntry]
  | cons entry rest ih =>
    by_cases hfirst : entry.1 = name
    · simp [insertEntry, hfirst]
    · have hne : ¬ name = entry.1 := fun h => hfirst h.symm
      simp only [insertEntry, hfirst, if_false, List.map_cons, ih, List.mem_cons, hne, false_or]
      split <;> simp

/-- A name that was there keeps its place, and a new one goes to the end. -/
theorem names_insert (m : OrderedMap β) (name : String) (value : β) :
    (m.insert name value).names = if name ∈ m.names then m.names else m.names ++ [name] :=
  map_fst_insertEntry name value m.entries

/-- Taking out a name does not move the others. -/
theorem names_erase (m : OrderedMap β) (name : String) :
    (m.erase name).names = m.names.filter (· != name) := by
  simp [names, erase, List.filter_map, Function.comp_def]

end OrderedMap

end LiveMarkup
