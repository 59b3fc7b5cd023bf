/-
The shortest decimal that reads back as a given binary64 number.

A number stands for all reals that round to it: an interval that reaches half way to
the neighbour on either side, ends included when the significand is even.  The
coarsest grid of powers of ten with a point in that interval gives the fewest
digits.  If a grid has a point there at all then one of the two grid points around the
number is there, so only these two are tried, in exact integer arithmetic; of two that
both lie in the interval the nearer one is taken, and of two equally near the larger.
-/
import LiveMarkup.Decimal.Binary64

namespace LiveMarkup.Decimal

/-- A positive number `digits * 10 ^ exponent`. -/
structure Tens where
  digits : Nat
  exponent : Int
  deriving DecidableEq, Repr

/-- How far below and above a number its interval reaches, in quarters of the unit of
its significand.  Below a power of two the neighbours are twice as close. -/
def Binary.lowerReach (b : Binary) : Nat := if b.significand = Nat.pow 2 storedBits then 1 else 2

/-- A quarter of the unit of `b`, divided by `10 ^ exponent`, as a fraction. -/
def Binary.quarterOver (b : Binary) (exponent : Int) : Nat × Nat :=
  let q := b.exponent - 2
  (Nat.pow 2 q.toNat * Nat.pow 10 (-exponent).toNat,
    Nat.pow 2 (-q).toNat * Nat.pow 10 exponent.toNat)

/-- Whether `point * 10 ^ exponent` rounds to `b`. -/
def Binary.covers (b : Binary) (exponent : Int) (point : Nat) : Bool :=
  let (num, den) := b.quarterOver exponent
  let low := (4 * b.significand - b.lowerReach) * num
  let high := (4 * b.significand + 2) * num
  let x := point * den
  if b.significand % 2 = 0 then low ≤ x && x ≤ high else low < x && x < high

/-- The point of the grid `10 ^ exponent` nearest to `b` among those that round to `b`. -/
def Binary.gridPoint? (b : Binary) (exponent : Int) : Option Nat :=
  let (num, den) := b.quarterOver exponent
  let value := 4 * b.significand * num
  let below := value / den
  let above := below + 1
  match b.covers exponent below, b.covers exponent above with
  | true, true => if value - below * den < above * den - value then some below else some above
  | true, false => some below
  | false, true => some above
  | false, false => none

/-- An exponent of ten that is too coarse for `b`. -/
def Binary.topExponent (b : Binary) : Int :=
  ((b.significand.log2 : Int) + b.exponent + 1) * 30103 / 100000 + 2

/-- The exponents of ten to try, from coarse to fine.  The last one is finer than half the
distance between subnormal numbers, so the search always succeeds. -/
def Binary.gridExponents (b : Binary) : List Int :=
  (List.range (b.topExponent + 325).toNat).map fun i : Nat => b.topExponent - (i : Int)

/-- The decimal with the fewest digits that rounds to `b`. -/
def Binary.shortest (b : Binary) : Tens :=
  (b.gridExponents.findSome? fun e => (b.gridPoint? e).map fun point => ⟨point, e⟩).getD ⟨0, 0⟩

end LiveMarkup.Decimal
