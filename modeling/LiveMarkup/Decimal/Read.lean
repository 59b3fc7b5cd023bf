/-
Numbers read from text.

An integer is an optional sign and ASCII digits, and has to fit into 64 bits.  A
fractional number is an optional sign and either digits with at most one point among or
around them and an optional exponent, or one of the words for infinity and
not-a-number in any case.  Its value is the binary64 number nearest to what is written.
-/
import LiveMarkup.Decimal.Binary64

namespace LiveMarkup.Decimal

/-- Split off a sign: whether it was a minus, and the text after it. -/
def splitSign : List Char → Bool × List Char
  | '-' :: rest => (true, rest)
  | '+' :: rest => (false, rest)
  | text => (false, text)

/-- The value of a run of ASCII digits, not empty. -/
def readDigits? (text : List Char) : Option Nat :=
  if text.isEmpty || !text.all Char.isDigit then none else some (Nat.ofDigitChars 10 text 0)

/-- An optional sign and digits. -/
def readSigned? (text : List Char) : Option Int :=
  let (negative, digits) := splitSign text
  (readDigits? digits).map fun n => if negative then -(n : Int) else n

/-- An integer that fits into 64 bits. -/
def readInt? (text : List Char) : Option Int64 :=
  (readSigned? text).bind fun n =>
    if Int64.minValue.toInt ≤ n ∧ n ≤ Int64.maxValue.toInt then some (Int64.ofInt n) else none

/-! ### Fractional numbers -/

/-- Exponents beyond which a decimal with a leading digit at that place is infinite, or
below which it is nothing; so far out no exact fraction has to be formed. -/
def exponentBound : Int := 400

/-- The bits of the binary64 number nearest to `digits * 10 ^ exponent`. -/
def bitsOfTens (digits : Nat) (exponent : Int) : Nat :=
  if digits = 0 then 0
  else
    let place := (Nat.toDigits 10 digits).length + exponent
    if exponentBound < place then infinityBits
    else if place < -exponentBound then 0
    else nearestBits (digits * Nat.pow 10 exponent.toNat) (Nat.pow 10 (-exponent).toNat)

/-- The words for numbers that have no digits, in lower case, with their bits. -/
def numberWords : List (String × Nat) :=
  [("inf", infinityBits), ("infinity", infinityBits), ("nan", infinityBits + Nat.pow 2 51)]

/-- The text before an exponent mark, and what the exponent says. -/
def splitExponent? (text : List Char) : Option (List Char × Int) :=
  let isMark := fun c => c == 'e' || c == 'E'
  match text.dropWhile (!isMark ·) with
  | [] => some (text, 0)
  | _ :: exponent => (readSigned? exponent).map fun e => (text.takeWhile (!isMark ·), e)

/-- Digits with at most one point, at least one digit in all: their value without the
point, and the number of digits after it. -/
def readPlaces? (text : List Char) : Option (Nat × Nat) :=
  let whole := text.takeWhile (· != '.')
  let fraction := (text.dropWhile (· != '.')).drop 1
  (readDigits? (whole ++ fraction)).map fun n => (n, fraction.length)

/-- A number without its sign, as bits. -/
def readMagnitude? (text : List Char) : Option Nat :=
  match numberWords.lookup (String.ofList (text.map Char.toLower)) with
  | some bits => some bits
  | none =>
    (splitExponent? text).bind fun (places, exponent) =>
      (readPlaces? places).map fun (digits, after) => bitsOfTens digits (exponent - after)

/-- A fractional number. -/
def readFloat? (text : List Char) : Option Float :=
  let (negative, rest) := splitSign text
  (readMagnitude? rest).map (signedFloat negative)

end LiveMarkup.Decimal
