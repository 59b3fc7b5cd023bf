/-
Binary64 numbers taken apart into integers, and put together again.

A finite number is `significand * 2 ^ exponent` up to its sign.  `ofFloat` reads that
off the bits; `nearestBits` goes the other way and rounds a positive fraction to the
nearest number, a tie going to the even significand.  The two share one remark: the
bits of a positive number are `(exponent + 1074) * 2 ^ 52 + significand`, because the
stored exponent of a normal number is one more than that of a subnormal one and the
leading bit of the significand, not stored, makes up for it.  A significand that was
rounded up to the next power of two, and a number rounded up past the largest, come
out right by the same sum.
-/

namespace LiveMarkup.Decimal

/-- A positive number `significand * 2 ^ exponent`. -/
structure Binary where
  significand : Nat
  exponent : Int
  deriving DecidableEq, Repr

/-- What the bits of a binary64 number mean. -/
inductive Binary64 where
  | nan
  | infinite (negative : Bool)
  | zero (negative : Bool)
  | finite (negative : Bool) (magnitude : Binary)
  deriving DecidableEq, Repr

/-- The exponent of the subnormal numbers, the least there is. -/
def leastExponent : Int := -1074

/-- The number of bits of the significand that are stored. -/
def storedBits : Nat := 52

/-- The bits of positive infinity. -/
def infinityBits : Nat := 2047 * Nat.pow 2 storedBits

/-- Read the sign, the exponent and the significand of 64 bits. -/
def Binary64.ofBits (bits : Nat) : Binary64 :=
  let fraction : Nat := bits % Nat.pow 2 storedBits
  let biased : Nat := bits / Nat.pow 2 storedBits % Nat.pow 2 11
  let negative := bits / Nat.pow 2 63 % 2 == 1
  if biased = 2047 then
    if fraction = 0 then .infinite negative else .nan
  else if biased = 0 then
    if fraction = 0 then .zero negative else .finite negative ⟨fraction, leastExponent⟩
  else .finite negative ⟨Nat.pow 2 storedBits + fraction, (biased : Int) + leastExponent - 1⟩

/-- Take a number apart. -/
def Binary64.ofFloat (x : Float) : Binary64 := .ofBits x.toBits.toNat

/-! ### Rounding a fraction -/

/-- `num / den` rounded to the nearest natural number, a tie to the even one. -/
def roundHalfEven (num den : Nat) : Nat :=
  let quotient := num / den
  let rest := 2 * (num % den)
  if rest < den then quotient
  else if den < rest then quotient + 1
  else quotient + quotient % 2

/-- The exponent of the leading bit of the positive fraction `num / den`. -/
def leadingExponent (num den : Nat) : Int :=
  let guess : Int := (num.log2 : Int) - den.log2
  let reached :=
    if 0 ≤ guess then den * Nat.pow 2 guess.toNat ≤ num
    else den ≤ num * Nat.pow 2 (-guess).toNat
  if reached then guess else guess - 1

/-- The bits of the number nearest to the positive fraction `num / den`. -/
def nearestBits (num den : Nat) : Nat :=
  let exponent := max (leadingExponent num den - storedBits) leastExponent
  let significand :=
    if 0 ≤ exponent then roundHalfEven num (den * Nat.pow 2 exponent.toNat)
    else roundHalfEven (num * Nat.pow 2 (-exponent).toNat) den
  min ((exponent - leastExponent).toNat * Nat.pow 2 storedBits + significand) infinityBits

/-- The number with the given bits and sign. -/
def signedFloat (negative : Bool) (bits : Nat) : Float :=
  let x := Float.ofBits (UInt64.ofNat bits)
  if negative then -x else x

end LiveMarkup.Decimal
