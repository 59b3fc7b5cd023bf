/-
Finding one text inside another, over lists of characters.

`breakAt pat s` cuts `s` around the first place where `pat` occurs.  The two facts
that everything else rests on are that nothing is lost by the cut (`eq_of_breakAt`)
and that a missing cut means a missing occurrence (`breakAt_eq_none_iff`); with
them no later proof looks inside the recursion.
-/

namespace LiveMarkup.Text

/-- The text before the first occurrence of `pat` and the text after it. -/
def breakAt (pat : List Char) : List Char → Option (List Char × List Char)
  | [] => if pat.isEmpty then some ([], []) else none
  | c :: cs =>
    if pat.isPrefixOf (c :: cs) then some ([], (c :: cs).drop pat.length)
    else (breakAt pat cs).map fun cut => (c :: cut.1, cut.2)

/-- The text that follows `pat` at the front of `s`. -/
def afterLead? (pat s : List Char) : Option (List Char) :=
  if pat.isPrefixOf s then some (s.drop pat.length) else none

/-- The text that precedes `pat` at the end of `s`. -/
def beforeTail? (pat s : List Char) : Option (List Char) :=
  if pat.isSuffixOf s then some (s.take (s.length - pat.length)) else none

/-! ### What a cut means -/

private theorem eq_append_drop {pat s : List Char} (h : pat.isPrefixOf s = true) :
    s = pat ++ s.drop pat.length := by
  obtain ⟨t, rfl⟩ := List.isPrefixOf_iff_prefix.1 h
  rw [List.drop_left]

/-- Nothing is lost by cutting. -/
theorem eq_of_breakAt {pat s before after : List Char}
    (h : breakAt pat s = some (before, after)) : s = before ++ pat ++ after := by
  induction s generalizing before with
  | nil =>
    cases pat with
    | nil => simp_all [breakAt]
    | cons => simp [breakAt] at h
  | cons c cs ih =>
    simp only [breakAt] at h
    split at h
    · next hp =>
      simp only [Option.some.injEq, Prod.mk.injEq] at h
      obtain ⟨rfl, rfl⟩ := h
      simpa using eq_append_drop hp
    · obtain ⟨⟨b, a⟩, hcut, heq⟩ := Option.map_eq_some_iff.1 h
      simp only [Prod.mk.injEq] at heq
      obtain ⟨rfl, rfl⟩ := heq
      simp [ih hcut]

/-- The rest after a cut is shorter than the whole by at least the pattern. -/
theorem length_after_breakAt {pat s before after : List Char}
    (h : breakAt pat s = some (before, after)) : after.length + pat.length ≤ s.length := by
  rw [eq_of_breakAt h]
  simp only [List.length_append]
  omega

/-- A text is not cut exactly when the pattern occurs nowhere in it. -/
theorem breakAt_eq_none_iff {pat s : List Char} : breakAt pat s = none ↔ ¬ pat <:+: s := by
  induction s with
  | nil => cases pat <;> simp [breakAt]
  | cons c cs ih =>
    simp only [breakAt]
    split
    · next hp =>
      have := (List.isPrefixOf_iff_prefix.1 hp).isInfix
      simp [this]
    · next hp =>
      have hp' : ¬ pat <+: c :: cs := fun h => hp (List.isPrefixOf_iff_prefix.2 h)
      simp [ih, List.infix_cons_iff, hp']

end LiveMarkup.Text
