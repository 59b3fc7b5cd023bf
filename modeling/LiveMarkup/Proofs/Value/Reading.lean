/-
Values read back from what they show.

A bound attribute holds the text of a value, or it is absent for a falsy one.  So nothing that is
truthy may show as the empty text (`display_ne_empty`), which would read as if nothing had been
written; and the text of an integer has to be read as this integer, both limits included
(`readNumber_displayInt`).
-/
import LiveMarkup.Element.Coercion
import LiveMarkup.Proofs.Value

namespace LiveMarkup

open Decimal

/-! ### Texts that are not empty -/

namespace Decimal

theorem Tens.positional_ne_empty (t : Tens) (whole : String) : t.positional whole ≠ "" := by
  have hdigits : t.chars ≠ [] := Nat.toDigits_ne_nil
  rw [← String.toList_inj.ne]
  unfold Tens.positional
  simp only
  split
  · simp
  · split
    · simp
    · simp [hdigits]

end Decimal

namespace Value

variable {H : Type} {v : Value H}

theorem displayFloat_ne_empty (x : Float) : displayFloat x ≠ "" := by
  unfold displayFloat
  split
  · decide
  · rw [← String.toList_inj.ne]
    simp
  · decide
  · next negative magnitude _ =>
    have hplaces := magnitude.shortest.positional_ne_empty ""
    rw [← String.toList_inj.ne] at hplaces ⊢
    simpa using fun _ => hplaces

theorem toList_displayInt (n : Int64) :
    (displayInt n).toList =
      (if n.toInt < 0 then ['-'] else []) ++ Nat.toDigits 10 n.toInt.natAbs := by
  unfold displayInt
  rw [Int.toString_eq_repr, Int.repr_eq_if]
  by_cases h : n.toInt < 0
  · rw [if_neg (by omega), if_pos h, String.toList_append, Nat.toList_repr]
    have habs : (-n.toInt).toNat = n.toInt.natAbs := by omega
    rw [habs]
    rfl
  · rw [if_pos (by omega), if_neg h, Nat.toList_repr, List.nil_append]
    have habs : n.toInt.toNat = n.toInt.natAbs := by omega
    rw [habs]

/-- **A truthy value shows something.** -/
theorem display_ne_empty (h : v.isTruthy = true) : v.display ≠ "" := by
  cases v with
  | null => cases h
  | undefined => cases h
  | bool b =>
    show displayBool b ≠ ""
    cases b <;> decide
  | int n =>
    rw [← String.toList_inj.ne]
    show (displayInt n).toList ≠ _
    simp [toList_displayInt, Nat.toDigits_ne_nil]
  | float x => exact displayFloat_ne_empty x
  | text s =>
    rintro rfl
    cases h
  | handler =>
    show "[handler]" ≠ ""
    decide

end Value

/-! ### Integers -/

namespace Text

/-- A text without white space has none to lose. -/
theorem trim_of_forall_not_isBlank {text : List Char} (h : ∀ c ∈ text, isBlank c = false) :
    trim text = text := by
  have hfront : ∀ cs : List Char, (∀ c ∈ cs, isBlank c = false) → cs.dropWhile isBlank = cs := by
    intro cs hcs
    cases cs with
    | nil => rfl
    | cons c rest => exact List.dropWhile_cons_of_neg (by simp [hcs c (List.mem_cons_self ..)])
  unfold trim
  rw [hfront text h, hfront text.reverse fun c hc => h c (List.mem_reverse.1 hc),
    List.reverse_reverse]

theorem isBlank_of_isDigit {c : Char} (h : c.isDigit = true) : isBlank c = false := by
  have hrange : 48 ≤ c.toNat ∧ c.toNat ≤ 57 := Char.isDigit_iff_toNat.1 h
  simp only [isBlank, inRanges, blankRanges, List.any_cons, List.any_nil, Bool.or_false,
    Bool.or_eq_false_iff, Bool.and_eq_false_imp, decide_eq_true_eq, decide_eq_false_iff_not]
  omega

end Text

namespace Decimal

theorem readDigits?_toDigits (n : Nat) : readDigits? (Nat.toDigits 10 n) = some n := by
  have hdigits : (Nat.toDigits 10 n).all Char.isDigit = true :=
    List.all_eq_true.2 fun c hc => Nat.isDigit_of_mem_toDigits (by decide) (by decide) hc
  have hnonempty : (Nat.toDigits 10 n).isEmpty = false :=
    List.isEmpty_eq_false_iff.2 Nat.toDigits_ne_nil
  unfold readDigits?
  rw [hdigits, hnonempty, Nat.ofDigitChars_toDigits (by decide) (by decide)]
  rfl

/-- Digits start with no sign. -/
theorem splitSign_toDigits (n : Nat) :
    splitSign (Nat.toDigits 10 n) = (false, Nat.toDigits 10 n) := by
  have hdigits : ∀ c ∈ Nat.toDigits 10 n, c.isDigit = true :=
    fun c hc => Nat.isDigit_of_mem_toDigits (by decide) (by decide) hc
  unfold splitSign
  split
  · next heq => exact absurd (hdigits '-' (heq ▸ List.mem_cons_self ..)) (by decide)
  · next heq => exact absurd (hdigits '+' (heq ▸ List.mem_cons_self ..)) (by decide)
  · rfl

end Decimal

namespace Value

/-- **An integer is read from its text as it was**, both limits included. -/
theorem readInt?_displayInt (n : Int64) : readInt? (displayInt n).toList = some n := by
  have hsigned : readSigned? (displayInt n).toList = some n.toInt := by
    rw [toList_displayInt]
    unfold readSigned?
    by_cases h : n.toInt < 0
    · have hsplit : splitSign (['-'] ++ Nat.toDigits 10 n.toInt.natAbs) =
          (true, Nat.toDigits 10 n.toInt.natAbs) := rfl
      rw [if_pos h, hsplit]
      simp only [readDigits?_toDigits]
      show some (-(n.toInt.natAbs : Int)) = some n.toInt
      congr 1
      omega
    · rw [if_neg h, List.nil_append, splitSign_toDigits]
      simp only [readDigits?_toDigits]
      show some (n.toInt.natAbs : Int) = some n.toInt
      congr 1
      omega
  unfold readInt?
  rw [hsigned, Option.bind_some, if_pos ⟨Int64.minValue_le_toInt n, Int64.toInt_le n⟩,
    Int64.ofInt_toInt]

theorem readNumber_displayInt {H : Type} (n : Int64) :
    (Coercion.readNumber (displayInt n) : Value H) = .int n := by
  have hplain : ∀ c ∈ (displayInt n).toList, Text.isBlank c = false := by
    intro c hc
    rw [toList_displayInt, List.mem_append] at hc
    rcases hc with hsign | hdigit
    · split at hsign
      · rw [List.mem_singleton.1 hsign]
        decide
      · cases hsign
    · exact Text.isBlank_of_isDigit (Nat.isDigit_of_mem_toDigits (by decide) (by decide) hdigit)
  have hnonempty : (displayInt n).toList.isEmpty = false := by
    simp [toList_displayInt, Nat.toDigits_ne_nil]
  unfold Coercion.readNumber
  rw [Text.trim_of_forall_not_isBlank hplain]
  simp only [hnonempty, readInt?_displayInt, Bool.false_eq_true, if_false]

end Value

end LiveMarkup
