/-
Equal values show alike.

For most values that is plain, since equal values are the same.  Numbers are the exception:
the two zeros are equal and have different bits.  So what a number shows is first read off
the taken-apart number that its comparison goes by (`ofBits_eq`), and there equality is
easy to see through: equal numbers are the same, or both are zeros (`eq_or_zeros_of_beq`).
-/
import LiveMarkup.Value
import Mathlib

namespace LiveMarkup

open Float.Model UnpackedFloat

namespace Decimal.Binary64

/-- The number that is meant by a number taken apart for comparison. -/
def ofUnpacked : UnpackedFloat → Binary64
  | .notANumber => .nan
  | .infinity s => .infinite (s == .negative)
  | .zero s => .zero (s == .negative)
  | .finite s m e _ => .finite (s == .negative) ⟨m, e⟩

variable (b : BitVec Format.binary64.numBits)

theorem toNat_unpackMantissa : (unpackMantissa b).toNat = b.toNat % Nat.pow 2 storedBits := by
  simp [unpackMantissa, storedBits]

theorem toNat_unpackExponent :
    (unpackExponent b).toNat = b.toNat / Nat.pow 2 storedBits % Nat.pow 2 11 := by
  simp [unpackExponent, storedBits, Nat.shiftRight_eq_div_pow]

theorem toNat_unpackSign : (unpackSign b).toNat = b.toNat / Nat.pow 2 63 % 2 := by
  simp [unpackSign, BitVec.extractLsb, Nat.shiftRight_eq_div_pow]

theorem ofBitVec_beq_negative (v : BitVec 1) :
    (Sign.ofBitVec v == .negative) = (v.toNat == 1) := by
  revert v
  decide

theorem ofBits_eq : ofBits b.toNat = ofUnpacked (UnpackedFloat.unpack Format.binary64 b) := by
  have hm := toNat_unpackMantissa b
  have he := toNat_unpackExponent b
  have hs : (Sign.ofBitVec (unpackSign b) == .negative) = (b.toNat / Nat.pow 2 63 % 2 == 1) := by
    rw [ofBitVec_beq_negative, toNat_unpackSign]
  unfold ofBits UnpackedFloat.unpack
  simp only [← hm, ← he, ← hs]
  by_cases hall : unpackExponent b = -1#_
  · have hall' : (unpackExponent b).toNat = 2047 := by rw [hall]; rfl
    rw [if_pos hall, if_pos hall']
    by_cases hzero : unpackMantissa b = 0#_
    · have hzero' : (unpackMantissa b).toNat = 0 := by rw [hzero]; rfl
      rw [if_pos hzero, if_pos hzero']
      rfl
    · have hzero' : (unpackMantissa b).toNat ≠ 0 := fun hc => hzero (BitVec.eq_of_toNat_eq hc)
      rw [if_neg hzero, if_neg hzero']
      rfl
  · have hall' : (unpackExponent b).toNat ≠ 2047 := fun hc => hall (BitVec.eq_of_toNat_eq hc)
    rw [if_neg hall, if_neg hall']
    by_cases hnone : unpackExponent b = 0#_
    · have hnone' : (unpackExponent b).toNat = 0 := by rw [hnone]; rfl
      rw [if_pos hnone, if_pos hnone']
      by_cases hzero : unpackMantissa b = 0#_
      · have hzero' : (unpackMantissa b).toNat = 0 := by rw [hzero]; rfl
        rw [dif_pos hzero, if_pos hzero']
        rfl
      · have hzero' : (unpackMantissa b).toNat ≠ 0 := fun hc => hzero (BitVec.eq_of_toNat_eq hc)
        rw [dif_neg hzero, if_neg hzero', hnone']
        rfl
    · have hnone' : (unpackExponent b).toNat ≠ 0 := fun hc => hnone (BitVec.eq_of_toNat_eq hc)
      rw [if_neg hnone, if_neg hnone']
      -- The leading bit of the significand is not stored.
      have happend : (1#1 ++ unpackMantissa b).toNat =
          Nat.pow 2 storedBits + (unpackMantissa b).toNat := by
        rw [BitVec.toNat_append, ← Nat.shiftLeft_add_eq_or_of_lt (unpackMantissa b).isLt]
        rfl
      have hexponent : ((unpackExponent b).toNat : Int) + leastExponent - 1 =
          (unpackExponent b).toNat - ((1023 : Int) + 52) := by
        unfold leastExponent
        omega
      rw [← happend, hexponent]
      rfl

theorem ofFloat_eq (x : Float) : ofFloat x = ofUnpacked x.toModel.unpack :=
  ofBits_eq x.toModel.toBits.toBitVec

end Decimal.Binary64

open Decimal

/-! ### Equal numbers -/

theorem eq_of_compare {e e' : Int} {m m' : Nat}
    (h : (compare e e').then (compare m m') = .eq) : e = e' ∧ m = m' := by
  rw [Ordering.then_eq_eq] at h
  exact ⟨compare_eq_iff_eq.1 h.1, compare_eq_iff_eq.1 h.2⟩

theorem eq_or_zeros_of_beq {u v : UnpackedFloat} (h : u.beq v = true) :
    u = v ∨ ∃ s s', u = .zero s ∧ v = .zero s' := by
  unfold UnpackedFloat.beq at h
  rw [beq_iff_eq] at h
  cases u with
  | notANumber => cases h
  | infinity s =>
    cases v with
    | infinity s' => cases s <;> cases s' <;> first | exact Or.inl rfl | cases h
    | notANumber | zero | finite => cases s <;> cases h
  | zero s =>
    cases v with
    | zero s' => exact Or.inr ⟨s, s', rfl, rfl⟩
    | infinity s' | finite s' => cases s' <;> cases h
    | notANumber => cases h
  | finite s m e hm =>
    cases v with
    | notANumber => cases s <;> cases h
    | infinity s' => cases s <;> cases s' <;> cases h
    | zero => cases s <;> cases h
    | finite s' m' e' hm' =>
      have hsame : s = s' ∧ e = e' ∧ m = m' := by
        cases s <;> cases s'
        · exact ⟨rfl, eq_of_compare (Ordering.swap_inj.1 (Option.some.inj h))⟩
        · cases h
        · cases h
        · exact ⟨rfl, eq_of_compare (Option.some.inj h)⟩
      obtain ⟨rfl, rfl, rfl⟩ := hsame
      exact Or.inl rfl

theorem unpack_eq_or_zeros {x y : Float} (h : (x == y) = true) :
    x.toModel.unpack = y.toModel.unpack ∨
      ∃ s s', x.toModel.unpack = .zero s ∧ y.toModel.unpack = .zero s' :=
  eq_or_zeros_of_beq h

namespace Value

variable {H : Type}

theorem displayFloat_of_beq {x y : Float} (h : (x == y) = true) :
    displayFloat x = displayFloat y := by
  unfold displayFloat
  rw [Binary64.ofFloat_eq, Binary64.ofFloat_eq]
  rcases unpack_eq_or_zeros h with hsame | ⟨s, s', hx, hy⟩
  · rw [hsame]
  · rw [hx, hy]
    rfl

/-- Equal numbers compare alike. -/
theorem float_beq_congr {x y : Float} (h : (x == y) = true) (z : Float) :
    (x == z) = (y == z) := by
  show x.toModel.unpack.beq z.toModel.unpack = y.toModel.unpack.beq z.toModel.unpack
  rcases unpack_eq_or_zeros h with hsame | ⟨s, s', hx, hy⟩
  · rw [hsame]
  · rw [hx, hy]
    unfold UnpackedFloat.beq
    cases z.toModel.unpack with
    | infinity s | finite s => cases s <;> rfl
    | notANumber | zero => rfl

theorem float_isNaN_congr {x y : Float} (h : (x == y) = true) : x.isNaN = y.isNaN := by
  show x.toModel.unpack.isNaN = y.toModel.unpack.isNaN
  rcases unpack_eq_or_zeros h with hsame | ⟨s, s', hx, hy⟩
  · rw [hsame]
  · rw [hx, hy]
    rfl

variable [BEq H] {v w : Value H}

/-- **Equal values have the same text.** -/
theorem display_of_beq (h : (v == w) = true) : v.display = w.display := by
  change v.beq w = true at h
  cases v <;> cases w <;> first | cases h | skip
  · rfl
  · rfl
  · exact congrArg displayBool (eq_of_beq h)
  · exact congrArg displayInt (eq_of_beq h)
  · exact displayFloat_of_beq h
  · exact eq_of_beq h
  · rfl

/-- **Equal values are falsy together.** -/
theorem isFalsy_of_beq (h : (v == w) = true) : v.isFalsy = w.isFalsy := by
  change v.beq w = true at h
  cases v <;> cases w <;> first | cases h | skip
  · rfl
  · rfl
  · exact congrArg (fun b => !b) (eq_of_beq h)
  · exact congrArg (fun n : Int64 => n == 0) (eq_of_beq h)
  · next x y =>
    show (x == 0.0 || x.isNaN) = (y == 0.0 || y.isNaN)
    rw [float_beq_congr h, float_isNaN_congr h]
  · exact congrArg String.isEmpty (eq_of_beq h)
  · rfl

theorem displayOrEmpty_of_beq (h : (v == w) = true) : v.displayOrEmpty = w.displayOrEmpty := by
  unfold displayOrEmpty
  rw [isFalsy_of_beq h, display_of_beq h]

/-- Only a handler equals a handler. -/
theorem isCallable_of_beq (h : (v == w) = true) : v.isCallable = w.isCallable := by
  change v.beq w = true at h
  cases v <;> cases w <;> first | rfl | cases h

end Value

end LiveMarkup
