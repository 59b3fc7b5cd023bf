/-
Decimals laid out as text.

`positional` writes all places and no exponent, `scientific` one digit before the
point and an exponent.  Which of the two is used, and whether a whole number keeps a
`.0`, is for the caller to say.
-/
import LiveMarkup.Decimal.Shortest

namespace LiveMarkup.Decimal

/-- The digits of a decimal. -/
def Tens.chars (t : Tens) : List Char := Nat.toDigits 10 t.digits

/-- Where the decimal point stands, counted from the front of the digits: the number is
`0.digits * 10 ^ point`. -/
def Tens.point (t : Tens) : Int := t.chars.length + t.exponent

/-- All places and no exponent; `whole` follows a number without fraction. -/
def Tens.positional (t : Tens) (whole : String) : String :=
  let digits := t.chars
  let point := t.point
  if point ≤ 0 then
    "0." ++ String.ofList (List.replicate (-point).toNat '0' ++ digits)
  else if point < digits.length then
    String.ofList (digits.take point.toNat ++ '.' :: digits.drop point.toNat)
  else
    String.ofList (digits ++ List.replicate (point - digits.length).toNat '0') ++ whole

/-- One digit before the point, and the exponent after an `e`. -/
def Tens.scientific (t : Tens) : String :=
  let exponent := "e" ++ toString (t.point - 1)
  match t.chars with
  | [] => exponent
  | [d] => String.singleton d ++ exponent
  | d :: rest => String.ofList (d :: '.' :: rest) ++ exponent

/-- The sign in front of a number. -/
def signText (negative : Bool) : String := if negative then "-" else ""

end LiveMarkup.Decimal
