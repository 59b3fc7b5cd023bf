/-
What the table of parts answers.

The table is filled one note at a time, and a note goes where the order of the slots wants
it.  A later note must not hide an earlier one, which it could if the slots were out of
order; so the order is kept along (`Ascending`).  In the end it matters of the table that
under a slot stand the positions of exactly the parts that read it (`mem_partsFor_ofParts`),
and for those who look at it that all is in order: the slots, and the positions under
each, since parts are noted from front to back (`Orderly`).
-/
import LiveMarkup.Part.Registry

namespace LiveMarkup

namespace Registry

open OrderedMap (lookup_cons)

variable {entries : List (Nat × List Nat)} {slot position other : Nat}

/-- The slots are in ascending order. -/
def Ascending (entries : List (Nat × List Nat)) : Prop :=
  (entries.map Prod.fst).Pairwise (· < ·)

theorem ascending_cons {positions : List Nat} :
    Ascending ((slot, positions) :: entries) ↔
      (∀ other ∈ entries.map Prod.fst, slot < other) ∧ Ascending entries :=
  List.pairwise_cons

theorem lookup_of_below (h : ∀ other ∈ entries.map Prod.fst, slot < other) :
    entries.lookup slot = none := by
  rw [List.lookup_eq_none_iff]
  intro entry hentry
  have hlt := h entry.1 (List.mem_map_of_mem hentry)
  have hne : slot ≠ entry.1 := Nat.ne_of_lt hlt
  simp [hne]

/-! ### One note -/

theorem mem_slots_registerIn :
    other ∈ (registerIn slot position entries).map Prod.fst ↔
      other = slot ∨ other ∈ entries.map Prod.fst := by
  induction entries with
  | nil => simp [registerIn]
  | cons entry rest ih =>
    unfold registerIn
    split
    · simp
    · split
      · next hsame => simp [← hsame]
      · rw [List.map_cons, List.mem_cons, ih, List.map_cons, List.mem_cons]
        exact or_left_comm

theorem Ascending.registerIn (h : Ascending entries) (slot position : Nat) :
    Ascending (registerIn slot position entries) := by
  induction entries with
  | nil => exact List.pairwise_singleton ..
  | cons entry rest ih =>
    obtain ⟨hbelow, hrest⟩ := ascending_cons.1 h
    unfold Registry.registerIn
    split
    · next hlt =>
      refine ascending_cons.2 ⟨fun other hother => ?_, h⟩
      rw [List.map_cons, List.mem_cons] at hother
      rcases hother with rfl | hother
      · exact hlt
      · exact Nat.lt_trans hlt (hbelow other hother)
    · next hnot =>
      split
      · exact ascending_cons.2 ⟨hbelow, hrest⟩
      · next hne =>
        refine ascending_cons.2 ⟨fun other hother => ?_, ih hrest⟩
        rcases mem_slots_registerIn.1 hother with rfl | hother
        · omega
        · exact hbelow other hother

/-- A note is found under its slot, and the other slots say what they said. -/
theorem lookup_registerIn (h : Ascending entries) :
    (registerIn slot position entries).lookup other =
      if other = slot then
        let positions := (entries.lookup slot).getD []
        some (if positions.contains position then positions else positions ++ [position])
      else entries.lookup other := by
  induction entries with
  | nil => simp only [registerIn, lookup_cons, List.lookup_nil]; rfl
  | cons entry rest ih =>
    obtain ⟨key, positions⟩ := entry
    obtain ⟨hbelow, hrest⟩ := ascending_cons.1 h
    unfold registerIn
    by_cases hlt : slot < key
    · have hnone : ((key, positions) :: rest).lookup slot = none :=
        lookup_of_below fun other hother => by
          rw [List.map_cons, List.mem_cons] at hother
          rcases hother with rfl | hother
          · exact hlt
          · exact Nat.lt_trans hlt (hbelow other hother)
      rw [if_pos hlt, hnone, lookup_cons]
      rfl
    · rw [if_neg hlt]
      by_cases hsame : slot = key
      · subst hsame
        simp only [if_true, lookup_cons, Option.getD_some]
        split <;> rfl
      · simp only [if_neg hsame, lookup_cons, ih hrest]
        by_cases hother : other = slot
        · subst hother
          simp only [if_neg hsame, if_true]
        · simp only [if_neg hother]

theorem mem_partsFor_register {r : Registry} (h : Ascending r.entries) {i : Nat} :
    i ∈ (r.register slot position).partsFor other ↔
      i ∈ r.partsFor other ∨ other = slot ∧ i = position := by
  unfold register partsFor
  rw [lookup_registerIn h]
  by_cases hother : other = slot
  · subst hother
    rw [if_pos rfl]
    by_cases hmem : position ∈ (r.entries.lookup other).getD []
    · have hkeep : i = position → i ∈ (r.entries.lookup other).getD [] := fun hc => hc ▸ hmem
      simp [hmem, or_iff_left_of_imp hkeep]
    · simp [hmem]
  · simp [hother]

/-! ### The whole table -/

/-- The notes of one part. -/
theorem registerAll (r : Registry) (h : Ascending r.entries) (slots : List Nat) (position : Nat) :
    Ascending (slots.foldl (fun r slot => r.register slot position) r).entries ∧
      ∀ other i, i ∈ (slots.foldl (fun r slot => r.register slot position) r).partsFor other ↔
        i ∈ r.partsFor other ∨ other ∈ slots ∧ i = position := by
  induction slots generalizing r with
  | nil => exact ⟨h, fun other i => by simp⟩
  | cons slot rest ih =>
    obtain ⟨hascending, hmem⟩ := ih (r.register slot position) (h.registerIn slot position)
    refine ⟨hascending, fun other i => ?_⟩
    rw [List.foldl_cons, hmem, mem_partsFor_register h, List.mem_cons, or_and_right, or_assoc]

theorem mem_partsFor_foldl (r : Registry) (h : Ascending r.entries) (parts : List (Part × Nat))
    (other i : Nat) :
    i ∈ (parts.foldl (fun r (part, position) =>
        part.indices.foldl (fun r slot => r.register slot position) r) r).partsFor other ↔
      i ∈ r.partsFor other ∨ ∃ p, (p, i) ∈ parts ∧ other ∈ p.indices := by
  induction parts generalizing r with
  | nil => simp
  | cons entry rest ih =>
    obtain ⟨part, position⟩ := entry
    obtain ⟨hascending, hmem⟩ := registerAll r h part.indices position
    rw [List.foldl_cons, ih _ hascending, hmem]
    simp only [List.mem_cons, Prod.mk.injEq]
    constructor
    · rintro ((hi | ⟨hother, rfl⟩) | ⟨p, hp, hother⟩)
      · exact Or.inl hi
      · exact Or.inr ⟨part, Or.inl ⟨rfl, rfl⟩, hother⟩
      · exact Or.inr ⟨p, Or.inr hp, hother⟩
    · rintro (hi | ⟨p, ⟨rfl, rfl⟩ | hp, hother⟩)
      · exact Or.inl (Or.inl hi)
      · exact Or.inl (Or.inr ⟨hother, rfl⟩)
      · exact Or.inr ⟨p, hp, hother⟩

/-- **Under a slot stand the positions of the parts that read it, and no others.** -/
theorem mem_partsFor_ofParts (parts : List Part) (slot position : Nat) :
    position ∈ (ofParts parts).partsFor slot ↔
      ∃ p, parts[position]? = some p ∧ slot ∈ p.indices := by
  unfold ofParts
  rw [mem_partsFor_foldl {} List.Pairwise.nil]
  simp [partsFor, List.mem_zipIdx_iff_getElem?]

theorem mem_slots_registerAll (r : Registry) (slots : List Nat) (position other : Nat) :
    other ∈ (slots.foldl (fun r slot => r.register slot position) r).slots ↔
      other ∈ r.slots ∨ other ∈ slots := by
  induction slots generalizing r with
  | nil => simp
  | cons slot rest ih =>
    rw [List.foldl_cons, ih, slots, register, mem_slots_registerIn, List.mem_cons,
      or_comm (a := other = slot), or_assoc]
    exact Iff.rfl

/-- **The slots of the table are those that some part reads.** -/
theorem mem_slots_ofParts (parts : List Part) (slot : Nat) :
    slot ∈ (ofParts parts).slots ↔ ∃ p ∈ parts, slot ∈ p.indices := by
  have hfold : ∀ (r : Registry) (n : Nat), slot ∈ ((parts.zipIdx n).foldl (fun r (part, position) =>
      part.indices.foldl (fun r slot => r.register slot position) r) r).slots ↔
        slot ∈ r.slots ∨ ∃ p ∈ parts, slot ∈ p.indices := by
    induction parts with
    | nil => simp
    | cons part rest ih =>
      intro r n
      rw [List.zipIdx_cons, List.foldl_cons, ih, mem_slots_registerAll, or_assoc]
      simp only [List.mem_cons, exists_eq_or_imp]
  unfold ofParts
  rw [hfold]
  exact or_iff_right List.not_mem_nil

/-! ### Order -/

/-- Positions in ascending order, none of them beyond `last`. -/
def Upto (last : Nat) (positions : List Nat) : Prop :=
  positions.Pairwise (· < ·) ∧ ∀ k ∈ positions, k ≤ last

theorem Upto.mono {last last' : Nat} {positions : List Nat} (h : Upto last positions)
    (hle : last ≤ last') : Upto last' positions :=
  ⟨h.1, fun k hk => Nat.le_trans (h.2 k hk) hle⟩

/-- The part that is noted last comes last. -/
theorem Upto.note {positions : List Nat} (h : Upto position positions) :
    Upto position
      (if positions.contains position then positions else positions ++ [position]) := by
  split
  · exact h
  · next hnot =>
    have hout : position ∉ positions := fun hc => hnot (List.contains_iff_mem.2 hc)
    refine ⟨List.pairwise_append.2 ⟨h.1, List.pairwise_singleton .., fun k hk last hlast => ?_⟩,
      fun k hk => ?_⟩
    · rw [List.mem_singleton.1 hlast]
      exact Nat.lt_of_le_of_ne (h.2 k hk) fun hc => hout (hc ▸ hk)
    · rcases List.mem_append.1 hk with hk | hk
      · exact h.2 k hk
      · exact Nat.le_of_eq (List.mem_singleton.1 hk)

theorem upto_registerIn (h : ∀ entry ∈ entries, Upto position entry.2) (slot : Nat) :
    ∀ entry ∈ registerIn slot position entries, Upto position entry.2 := by
  have hnone : Upto position [] := ⟨.nil, nofun⟩
  have hnew : Upto position [position] := hnone.note
  induction entries with
  | nil => exact List.forall_mem_singleton.2 hnew
  | cons entry rest ih =>
    obtain ⟨hentry, hrest⟩ := List.forall_mem_cons.1 h
    unfold registerIn
    split
    · exact List.forall_mem_cons.2 ⟨hnew, h⟩
    · split
      · exact List.forall_mem_cons.2 ⟨hentry.note, hrest⟩
      · exact List.forall_mem_cons.2 ⟨hentry, ih hrest⟩

/-- The table when the parts up to `last` are noted. -/
structure Orderly (last : Nat) (r : Registry) : Prop where
  ascending : Ascending r.entries
  positions : ∀ entry ∈ r.entries, Upto last entry.2

theorem Orderly.mono {r : Registry} {last last' : Nat} (h : r.Orderly last)
    (hle : last ≤ last') : r.Orderly last' :=
  ⟨h.ascending, fun entry hentry => (h.positions entry hentry).mono hle⟩

theorem Orderly.registerAll {r : Registry} (h : r.Orderly position) (slots : List Nat) :
    (slots.foldl (fun r slot => r.register slot position) r).Orderly position := by
  induction slots generalizing r with
  | nil => exact h
  | cons slot rest ih =>
    exact ih ⟨h.ascending.registerIn slot position, upto_registerIn h.positions slot⟩

theorem exists_orderly_ofParts (parts : List Part) : ∃ last, (ofParts parts).Orderly last := by
  have hfold : ∀ (r : Registry) (n : Nat), r.Orderly n →
      ∃ last, ((parts.zipIdx n).foldl (fun r (part, position) =>
        part.indices.foldl (fun r slot => r.register slot position) r) r).Orderly last := by
    induction parts with
    | nil => exact fun r n h => ⟨n, h⟩
    | cons part rest ih =>
      intro r n h
      rw [List.zipIdx_cons, List.foldl_cons]
      exact ih _ (n + 1) ((h.registerAll part.indices).mono (Nat.le_succ n))
  exact hfold {} 0 ⟨.nil, nofun⟩

/-- **Slots stand in ascending order.** -/
theorem pairwise_slots_ofParts (parts : List Part) : (ofParts parts).slots.Pairwise (· < ·) := by
  obtain ⟨last, horderly⟩ := exists_orderly_ofParts parts
  exact horderly.ascending

/-- **So do the positions under a slot**, without repeats. -/
theorem pairwise_partsFor_ofParts (parts : List Part) (slot : Nat) :
    ((ofParts parts).partsFor slot).Pairwise (· < ·) := by
  obtain ⟨last, horderly⟩ := exists_orderly_ofParts parts
  unfold partsFor
  cases hlookup : (ofParts parts).entries.lookup slot with
  | none => exact .nil
  | some positions =>
    obtain ⟨before, after, heq, -⟩ := List.lookup_eq_some_iff.1 hlookup
    have hentry : (slot, positions) ∈ (ofParts parts).entries := by simp [heq]
    exact (horderly.positions _ hentry).1

/-- A slot that no part reads may be listed as changed or not. -/
theorem concerns_congr (r : Registry) {unread : Nat} (hunread : r.partsFor unread = [])
    {changed changed' : List Nat}
    (hchanged : ∀ slot, slot ≠ unread → (slot ∈ changed' ↔ slot ∈ changed)) (position : Nat) :
    r.concerns changed' position = r.concerns changed position := by
  have hothers : ∀ slot, (r.partsFor slot).contains position = true → slot ≠ unread := by
    rintro slot hslot rfl
    rw [hunread] at hslot
    cases hslot
  unfold concerns
  rw [Bool.eq_iff_iff, List.any_eq_true, List.any_eq_true]
  exact exists_congr fun slot => and_congr_left fun hslot => hchanged slot (hothers slot hslot)

end Registry

end LiveMarkup
