/-
Maps written over and over.

The attributes of an element are written again by every update, each time by the same
list of names.  Two things are needed of such writing: what a first round makes of the
map, entry by entry (`edit_filterMap`), and that a later round leaves no trace of an
earlier one (`edit_edit`, `insertAll_insertAll`).

The second is shown by looking at names and values apart.  A map without repeated names
is known by the order of its names and by what each gives (`ext_get?`); a second round
finds every name it writes in its place and every name it erases gone, so the order
cannot change, and what a name gives is what was written last.
-/
import LiveMarkup.OrderedMap
import Mathlib.Data.List.Nodup

namespace LiveMarkup.OrderedMap

variable {β : Type} {m m' : OrderedMap β} {name other : String} {value : β}

/-- No name stands at two entries. -/
def Distinct (m : OrderedMap β) : Prop := m.names.Nodup

theorem distinct_empty : Distinct (∅ : OrderedMap β) := List.nodup_nil

theorem get?_eq_none_iff : m.get? name = none ↔ name ∉ m.names := by
  unfold get? names
  rw [List.lookup_eq_none_iff]
  constructor
  · intro h hmem
    obtain ⟨entry, hentry, rfl⟩ := List.mem_map.1 hmem
    simpa using h entry hentry
  · intro h entry hentry
    have hne : name ≠ entry.1 := fun hc => h (hc ▸ List.mem_map_of_mem hentry)
    simpa using hne

theorem mem_names_of_get? (h : m.get? name = some value) : name ∈ m.names := by
  by_contra hc
  rw [get?_eq_none_iff.2 hc] at h
  simp at h

theorem Distinct.insert (hm : m.Distinct) (name : String) (value : β) :
    (m.insert name value).Distinct := by
  unfold Distinct
  rw [names_insert]
  split
  · exact hm
  · next hmem =>
    rw [List.nodup_append]
    refine ⟨hm, List.nodup_singleton name, ?_⟩
    intro a ha b hb hab
    rw [List.mem_singleton] at hb
    exact hmem (hb ▸ hab ▸ ha)

theorem Distinct.erase (hm : m.Distinct) (name : String) : (m.erase name).Distinct := by
  unfold Distinct
  rw [names_erase]
  exact hm.filter _

theorem contains_iff : m.contains name = true ↔ name ∈ m.names := by
  unfold contains
  rw [Option.isSome_iff_ne_none, ne_eq, get?_eq_none_iff, not_not]

theorem mem_insertEntry {entry : String × β} {entries : List (String × β)}
    (h : entry ∈ insertEntry name value entries) : entry = (name, value) ∨ entry ∈ entries := by
  induction entries with
  | nil => exact Or.inl (List.mem_singleton.1 h)
  | cons first rest ih =>
    unfold insertEntry at h
    split at h
    · exact (List.mem_cons.1 h).imp_right (List.mem_cons_of_mem first)
    · rcases List.mem_cons.1 h with rfl | h
      · exact Or.inr List.mem_cons_self
      · exact (ih h).imp_right (List.mem_cons_of_mem first)

theorem mem_entries_insert {entry : String × β} (h : entry ∈ (m.insert name value).entries) :
    entry = (name, value) ∨ entry ∈ m.entries :=
  mem_insertEntry h

theorem insertNew_of_mem (h : name ∈ m.names) (value : β) : m.insertNew name value = m :=
  if_pos (contains_iff.2 h)

theorem insertNew_of_not_mem (h : name ∉ m.names) (value : β) :
    m.insertNew name value = ⟨m.entries ++ [(name, value)]⟩ :=
  if_neg (mt contains_iff.1 h)

theorem mem_entries_insertNew {entry : String × β} :
    entry ∈ (m.insertNew name value).entries ↔
      entry ∈ m.entries ∨ (name ∉ m.names ∧ entry = (name, value)) := by
  by_cases hname : name ∈ m.names
  · rw [insertNew_of_mem hname]
    simp [hname]
  · rw [insertNew_of_not_mem hname]
    simp [hname]

theorem mem_names_insertNew :
    other ∈ (m.insertNew name value).names ↔ other ∈ m.names ∨ other = name := by
  unfold names
  simp only [List.mem_map, mem_entries_insertNew]
  constructor
  · rintro ⟨entry, hentry | ⟨-, rfl⟩, rfl⟩
    · exact Or.inl ⟨entry, hentry, rfl⟩
    · exact Or.inr rfl
  · rintro (⟨entry, hentry, rfl⟩ | rfl)
    · exact ⟨entry, Or.inl hentry, rfl⟩
    · by_cases hname : other ∈ m.names
      · obtain ⟨entry, hentry, hother⟩ := List.mem_map.1 hname
        exact ⟨entry, Or.inl hentry, hother⟩
      · exact ⟨(other, value), Or.inr ⟨hname, rfl⟩, rfl⟩

theorem Distinct.insertNew (hm : m.Distinct) (name : String) (value : β) :
    (m.insertNew name value).Distinct := by
  by_cases hname : name ∈ m.names
  · rw [insertNew_of_mem hname]
    exact hm
  · rw [insertNew_of_not_mem hname]
    show (List.map Prod.fst (m.entries ++ [(name, value)])).Nodup
    rw [List.map_append, List.nodup_append]
    refine ⟨hm, List.nodup_singleton name, ?_⟩
    intro a ha b hb hab
    have hb' : b = name := by simpa using hb
    exact hname (hb' ▸ hab ▸ ha)

/-- **A map is known by the order of its names and by what each gives.** -/
theorem ext_get? (hm : m.Distinct) (hnames : m.names = m'.names)
    (hget : ∀ name, m.get? name = m'.get? name) : m = m' := by
  obtain ⟨es⟩ := m
  obtain ⟨es'⟩ := m'
  congr 1
  induction es generalizing es' with
  | nil =>
    cases es' with
    | nil => rfl
    | cons => simp [names] at hnames
  | cons e rest ih =>
    cases es' with
    | nil => simp [names] at hnames
    | cons e' rest' =>
      obtain ⟨k, v⟩ := e
      obtain ⟨k', v'⟩ := e'
      simp only [names, List.map_cons, List.cons.injEq] at hnames
      obtain ⟨rfl, hrest⟩ := hnames
      have hkRest : k ∉ rest.map Prod.fst := (List.nodup_cons.1 hm).1
      have hv : v = v' := by simpa [get?, lookup_cons] using hget k
      subst hv
      congr 1
      refine ih (List.nodup_cons.1 hm).2 rest' hrest fun other => ?_
      by_cases hother : other = k
      · subst hother
        rw [get?_eq_none_iff.2 hkRest, get?_eq_none_iff.2]
        unfold names
        rwa [← hrest]
      · simpa only [get?, lookup_cons, if_neg hother] using hget other

/-- Erasing what is not there changes nothing. -/
theorem erase_of_get? (h : m.get? name = none) : m.erase name = m := by
  have hname : name ∉ m.entries.map Prod.fst := get?_eq_none_iff.1 h
  unfold erase
  congr 1
  rw [List.filter_eq_self]
  intro entry hentry
  simpa using fun hc : entry.1 = name => hname (hc ▸ List.mem_map_of_mem hentry)

theorem insertEntry_append (pre post : List (String × β)) (old : β)
    (h : name ∉ pre.map Prod.fst) :
    insertEntry name value (pre ++ (name, old) :: post) = pre ++ (name, value) :: post := by
  induction pre with
  | nil => simp [insertEntry]
  | cons e rest ih =>
    simp only [List.map_cons, List.mem_cons, not_or] at h
    have he : e.1 ≠ name := fun hc => h.1 hc.symm
    simp [insertEntry, he, ih h.2]

/-! ### Writing several names -/

/-- Write several names, one after the other. -/
def insertAll (m : OrderedMap β) (entries : List (String × β)) : OrderedMap β :=
  entries.foldl (fun m entry => m.insert entry.1 entry.2) m

theorem insertAll_cons (m : OrderedMap β) (entry : String × β) (rest : List (String × β)) :
    m.insertAll (entry :: rest) = (m.insert entry.1 entry.2).insertAll rest := rfl

theorem Distinct.insertAll (hm : m.Distinct) (entries : List (String × β)) :
    (m.insertAll entries).Distinct := by
  induction entries generalizing m with
  | nil => exact hm
  | cons entry rest ih => exact ih (hm.insert _ _)

/-- The order of names depends on names alone. -/
theorem names_insertAll_congr {es es' : List (String × β)} (hm : m.names = m'.names)
    (h : es.map Prod.fst = es'.map Prod.fst) :
    (m.insertAll es).names = (m'.insertAll es').names := by
  induction es generalizing es' m m' with
  | nil =>
    have hnil : es' = [] := by simpa using h.symm
    rw [hnil]
    exact hm
  | cons e rest ih =>
    cases es' with
    | nil => simp at h
    | cons e' rest' =>
      simp only [List.map_cons, List.cons.injEq] at h
      rw [insertAll_cons, insertAll_cons]
      exact ih (by rw [names_insert, names_insert, hm, h.1]) h.2

theorem mem_names_insertAll {es : List (String × β)} :
    name ∈ (m.insertAll es).names ↔ name ∈ m.names ∨ name ∈ es.map Prod.fst := by
  induction es generalizing m with
  | nil => simp [insertAll]
  | cons e rest ih =>
    rw [insertAll_cons, ih, names_insert]
    by_cases he : e.1 ∈ m.names
    · rw [if_pos he]
      simp only [List.map_cons, List.mem_cons]
      constructor
      · rintro (h | h)
        · exact Or.inl h
        · exact Or.inr (Or.inr h)
      · rintro (h | rfl | h)
        · exact Or.inl h
        · exact Or.inl he
        · exact Or.inr h
    · rw [if_neg he]
      simp [or_assoc]

theorem names_insertAll_of_mem {es : List (String × β)}
    (h : ∀ e ∈ es, e.1 ∈ m.names) : (m.insertAll es).names = m.names := by
  induction es generalizing m with
  | nil => rfl
  | cons e rest ih =>
    have he : (m.insert e.1 e.2).names = m.names := by
      rw [names_insert, if_pos (h e (by simp))]
    rw [insertAll_cons, ih fun e' he' => he ▸ h e' (by simp [he']), he]

theorem get?_insertAll_of_not_mem {es : List (String × β)} (h : name ∉ es.map Prod.fst) :
    (m.insertAll es).get? name = m.get? name := by
  induction es generalizing m with
  | nil => rfl
  | cons e rest ih =>
    simp only [List.map_cons, List.mem_cons, not_or] at h
    rw [insertAll_cons, ih h.2, get?_insert, if_neg h.1]

/-- What a name gives that was written does not depend on what was there before. -/
theorem get?_insertAll_of_mem {es : List (String × β)} (h : name ∈ es.map Prod.fst) :
    (m.insertAll es).get? name = (m'.insertAll es).get? name := by
  induction es generalizing m m' with
  | nil => simp at h
  | cons e rest ih =>
    rw [insertAll_cons, insertAll_cons]
    by_cases hrest : name ∈ rest.map Prod.fst
    · exact ih hrest
    · have he : name = e.1 := by
        rcases List.mem_cons.1 h with h | h
        · exact h
        · exact absurd h hrest
      rw [get?_insertAll_of_not_mem hrest, get?_insertAll_of_not_mem hrest, get?_insert,
        get?_insert, if_pos he, if_pos he]

/-- **A second round of the same names leaves no trace of the first.** -/
theorem insertAll_insertAll (hm : m.Distinct) {es es' : List (String × β)}
    (h : es.map Prod.fst = es'.map Prod.fst) :
    (m.insertAll es).insertAll es' = m.insertAll es' := by
  refine ext_get? ((hm.insertAll es).insertAll es') ?_ fun name => ?_
  · rw [names_insertAll_of_mem, names_insertAll_congr rfl h]
    intro e he
    exact mem_names_insertAll.2 (Or.inr (h ▸ List.mem_map_of_mem he))
  · by_cases hname : name ∈ es'.map Prod.fst
    · exact get?_insertAll_of_mem hname
    · rw [get?_insertAll_of_not_mem hname, get?_insertAll_of_not_mem hname,
        get?_insertAll_of_not_mem (h ▸ hname)]

/-! ### Writing some names and erasing others -/

/-- Write the names that come with a value and erase the others, one after the other. -/
def edit (m : OrderedMap β) (edits : List (String × Option β)) : OrderedMap β :=
  edits.foldl
    (fun m edit => match edit.2 with
      | some value => m.insert edit.1 value
      | none => m.erase edit.1) m

theorem edit_cons_some (m : OrderedMap β) (name : String) (value : β)
    (rest : List (String × Option β)) :
    m.edit ((name, some value) :: rest) = (m.insert name value).edit rest := rfl

theorem edit_cons_none (m : OrderedMap β) (name : String) (rest : List (String × Option β)) :
    m.edit ((name, none) :: rest) = (m.erase name).edit rest := rfl

theorem Distinct.edit (hm : m.Distinct) (edits : List (String × Option β)) :
    (m.edit edits).Distinct := by
  induction edits generalizing m with
  | nil => exact hm
  | cons e rest ih =>
    obtain ⟨k, v | v⟩ := e
    · exact ih (hm.erase _)
    · exact ih (hm.insert _ _)

theorem get?_edit_of_not_mem {edits : List (String × Option β)}
    (h : name ∉ edits.map Prod.fst) : (m.edit edits).get? name = m.get? name := by
  induction edits generalizing m with
  | nil => rfl
  | cons e rest ih =>
    obtain ⟨k, v⟩ := e
    simp only [List.map_cons, List.mem_cons, not_or] at h
    cases v with
    | none => rw [edit_cons_none, ih h.2, get?_erase, if_neg h.1]
    | some v => rw [edit_cons_some, ih h.2, get?_insert, if_neg h.1]

/-- A name gives what was written, and nothing if it was erased. -/
theorem get?_edit_of_mem {edits : List (String × Option β)} (hedits : (edits.map Prod.fst).Nodup)
    {value : Option β} (h : (name, value) ∈ edits) : (m.edit edits).get? name = value := by
  induction edits generalizing m with
  | nil => simp at h
  | cons e rest ih =>
    obtain ⟨hk, hrest⟩ := List.nodup_cons.1 hedits
    rcases List.mem_cons.1 h with rfl | hmem
    · cases value with
      | none => rw [edit_cons_none, get?_edit_of_not_mem hk, get?_erase, if_pos rfl]
      | some v => rw [edit_cons_some, get?_edit_of_not_mem hk, get?_insert, if_pos rfl]
    · obtain ⟨k, v | v⟩ := e
      · rw [edit_cons_none]
        exact ih hrest hmem
      · rw [edit_cons_some]
        exact ih hrest hmem

/-- The order of names depends on the names and on which of them are written. -/
theorem names_edit_congr {es es' : List (String × Option β)} (hm : m.names = m'.names)
    (h : es.map (fun e => (e.1, e.2.isSome)) = es'.map fun e => (e.1, e.2.isSome)) :
    (m.edit es).names = (m'.edit es').names := by
  induction es generalizing es' m m' with
  | nil =>
    have hnil : es' = [] := by simpa using h.symm
    rw [hnil]
    exact hm
  | cons e rest ih =>
    cases es' with
    | nil => simp at h
    | cons e' rest' =>
      obtain ⟨k, v⟩ := e
      obtain ⟨k', v'⟩ := e'
      simp only [List.map_cons, List.cons.injEq, Prod.mk.injEq] at h
      obtain ⟨⟨rfl, hv⟩, hrest⟩ := h
      cases v with
      | none =>
        cases v' with
        | none =>
          rw [edit_cons_none, edit_cons_none]
          exact ih (by rw [names_erase, names_erase, hm]) hrest
        | some => simp at hv
      | some =>
        cases v' with
        | none => simp at hv
        | some =>
          rw [edit_cons_some, edit_cons_some]
          exact ih (by rw [names_insert, names_insert, hm]) hrest

/-- Writing names that are there and erasing names that are not keeps the order. -/
theorem names_edit_of_present {es : List (String × Option β)}
    (h : ∀ e ∈ es, e.2.isSome = true ↔ e.1 ∈ m.names) : (m.edit es).names = m.names := by
  induction es generalizing m with
  | nil => rfl
  | cons e rest ih =>
    obtain ⟨k, v⟩ := e
    have hk := h (k, v) (by simp)
    have hrest : ∀ e ∈ rest, e.2.isSome = true ↔ e.1 ∈ m.names := fun e he => h e (by simp [he])
    cases v with
    | none =>
      have hgone : m.erase k = m := erase_of_get? (get?_eq_none_iff.2 (by simpa using hk))
      rw [edit_cons_none, hgone, ih hrest]
    | some v =>
      have hnames : (m.insert k v).names = m.names := by
        rw [names_insert, if_pos (hk.1 rfl)]
      rw [edit_cons_some, ih fun e he => by rw [hnames]; exact hrest e he, hnames]

/-- **A second round of edits leaves no trace of the first**, where it writes only names
that were written, erases only names that were erased, and leaves out only some of the
latter. -/
theorem edit_edit (hm : m.Distinct) {es es' es'' : List (String × Option β)}
    (hes : (es.map Prod.fst).Nodup)
    (hsame : es.map (fun e => (e.1, e.2.isSome)) = es''.map fun e => (e.1, e.2.isSome))
    (hsub : ∀ e ∈ es', e ∈ es'') (hnodup : (es'.map Prod.fst).Nodup)
    (hleft : ∀ e ∈ es'', e ∉ es' → e.2 = none) :
    (m.edit es).edit es' = m.edit es'' := by
  have hkeys : es.map Prod.fst = es''.map Prod.fst := by
    simpa [Function.comp_def] using congrArg (List.map Prod.fst) hsame
  have hes'' : (es''.map Prod.fst).Nodup := hkeys ▸ hes
  -- Whatever is in the last round was written or erased by the first in the same way.
  have hfirst : ∀ e ∈ es'', ∃ v, (e.1, v) ∈ es ∧ v.isSome = e.2.isSome := by
    intro e he
    have hmem : (e.1, e.2.isSome) ∈ es.map fun e => (e.1, e.2.isSome) := by
      rw [hsame]
      exact List.mem_map_of_mem (f := fun e : String × Option β => (e.1, e.2.isSome)) he
    obtain ⟨⟨k, v⟩, hkv, heq⟩ := List.mem_map.1 hmem
    simp only [Prod.mk.injEq] at heq
    obtain ⟨rfl, hv⟩ := heq
    exact ⟨v, hkv, hv⟩
  refine ext_get? ((hm.edit es).edit es') ?_ fun name => ?_
  · rw [names_edit_of_present, names_edit_congr rfl hsame]
    intro e he
    obtain ⟨v, hv, hsome⟩ := hfirst e (hsub e he)
    have hget := get?_edit_of_mem (m := m) hes hv
    rw [← hsome]
    cases v with
    | none => simpa using get?_eq_none_iff.1 hget
    | some v => simpa using mem_names_of_get? hget
  · by_cases hname : name ∈ es'.map Prod.fst
    · obtain ⟨⟨k, v⟩, hkv, rfl⟩ := List.mem_map.1 hname
      rw [get?_edit_of_mem hnodup hkv, get?_edit_of_mem hes'' (hsub _ hkv)]
    · rw [get?_edit_of_not_mem hname]
      by_cases hname'' : name ∈ es''.map Prod.fst
      · obtain ⟨⟨k, v⟩, hkv, rfl⟩ := List.mem_map.1 hname''
        have hv : v = none := hleft _ hkv fun hc => hname (List.mem_map_of_mem hc)
        obtain ⟨w, hw, hsome⟩ := hfirst _ hkv
        have hw' : w = none := by
          rw [hv] at hsome
          simpa using hsome
        rw [get?_edit_of_mem hes hw, get?_edit_of_mem hes'' hkv, hw', hv]
      · rw [get?_edit_of_not_mem hname'', get?_edit_of_not_mem (hkeys ▸ hname'')]

/-- **A first round of edits, entry by entry.**  `change` gives the edit of an entry, if it
has one. -/
theorem edit_filterMap {entries : List (String × β)} (hm : (entries.map Prod.fst).Nodup)
    (change : String × β → Option (Option β)) :
    (⟨entries⟩ : OrderedMap β).edit
        (entries.filterMap fun e => (change e).map fun new => (e.1, new)) =
      ⟨entries.filterMap fun e => match change e with
        | none => some e
        | some new => new.map fun value => (e.1, value)⟩ := by
  -- The entries are edited one after the other; `done` are those already passed.
  suffices hall : ∀ (todo done : List (String × β)), ((done ++ todo).map Prod.fst).Nodup →
      (⟨done ++ todo⟩ : OrderedMap β).edit
          (todo.filterMap fun e => (change e).map fun new => (e.1, new)) =
        ⟨done ++ todo.filterMap fun e => match change e with
          | none => some e
          | some new => new.map fun value => (e.1, value)⟩ from
    hall entries [] hm
  intro todo
  induction todo with
  | nil => intro done _; simp [edit]
  | cons e rest ih =>
    intro done hnodup
    obtain ⟨k, v⟩ := e
    have hmiddle : ((k, v) :: (done ++ rest)).map Prod.fst |>.Nodup :=
      (List.perm_middle.map Prod.fst).nodup_iff.1 hnodup
    obtain ⟨hk, hothers⟩ := List.nodup_cons.1 hmiddle
    rw [List.map_append, List.mem_append, not_or] at hk
    cases hchange : change (k, v) with
    | none =>
      have hstep := ih (done ++ [(k, v)]) (by simpa using hnodup)
      simpa [hchange] using hstep
    | some new =>
      cases new with
      | none =>
        have hgone : (⟨done ++ (k, v) :: rest⟩ : OrderedMap β).erase k = ⟨done ++ rest⟩ := by
          unfold erase
          congr 1
          have hkeep : ∀ es : List (String × β), k ∉ es.map Prod.fst →
              es.filter (fun entry => entry.1 != k) = es := by
            intro es hes
            rw [List.filter_eq_self]
            intro entry hentry
            simpa using fun hc : entry.1 = k => hes (hc ▸ List.mem_map_of_mem hentry)
          simp [List.filter_append, hkeep done hk.1, hkeep rest hk.2]
        have hstep := ih done hothers
        simpa [hchange, edit_cons_none, hgone] using hstep
      | some w =>
        have hwrite : (⟨done ++ (k, v) :: rest⟩ : OrderedMap β).insert k w =
            ⟨done ++ (k, w) :: rest⟩ := by
          unfold insert
          rw [insertEntry_append done rest v hk.1]
        have hstep := ih (done ++ [(k, w)]) (by simpa using hnodup)
        simpa [hchange, edit_cons_some, hwrite] using hstep

/-! ### Entries of other names -/

/-- The entries whose names are not among `names`, in order. -/
def entriesExcept (m : OrderedMap β) (names : List String) : List (String × β) :=
  m.entries.filter fun entry => !names.contains entry.1

theorem filter_insertEntry {keep : String × β → Bool} {name : String} {value : β}
    (hkeep : ∀ held, keep (name, held) = false) (entries : List (String × β)) :
    (insertEntry name value entries).filter keep = entries.filter keep := by
  induction entries with
  | nil => simp [insertEntry, hkeep]
  | cons entry rest ih =>
    obtain ⟨first, held⟩ := entry
    by_cases hfirst : first = name
    · subst hfirst
      simp [insertEntry, hkeep]
    · simp only [insertEntry, hfirst, if_false, List.filter_cons, ih]

/-- Writing one of the names leaves the others as they are, and in their places. -/
theorem entriesExcept_insert {names : List String} (h : name ∈ names) (m : OrderedMap β)
    (value : β) : (m.insert name value).entriesExcept names = m.entriesExcept names :=
  filter_insertEntry (fun _ => by simp [h]) m.entries

/-- So does taking it out. -/
theorem entriesExcept_erase {names : List String} (h : name ∈ names) (m : OrderedMap β) :
    (m.erase name).entriesExcept names = m.entriesExcept names := by
  unfold entriesExcept erase
  rw [List.filter_filter]
  refine List.filter_congr fun entry _ => ?_
  by_cases hname : entry.1 = name
  · simp [hname, h]
  · simp [hname]

end LiveMarkup.OrderedMap
