/-
Values as they are shown for inspection.

The kind of the value stands before its content.  Text is quoted, numbers keep a `.0`
when they are whole, and very small and very large ones are written with an exponent.
-/
import LiveMarkup.Value
import LiveMarkup.Text.Quoted

namespace LiveMarkup

open Decimal Text

/-- Numbers of magnitude at least `10 ^ 16`, or below `10 ^ (-4)`, are written with an
exponent when inspected. -/
def Decimal.Tens.needsExponent (t : Tens) : Bool := 17 ≤ t.point || t.point ≤ -4

/-- A binary64 number as it is inspected. -/
def Value.inspectFloat (x : Float) : String :=
  match Binary64.ofFloat x with
  | .nan => "NaN"
  | .infinite negative => signText negative ++ "inf"
  | .zero negative => signText negative ++ "0.0"
  | .finite negative magnitude =>
    let tens := magnitude.shortest
    signText negative ++ if tens.needsExponent then tens.scientific else tens.positional ".0"

/-- A value with its kind. -/
def Value.inspect {H : Type} : Value H → String
  | .null => "Null"
  | .undefined => "Undefined"
  | .bool b => "Bool(" ++ displayBool b ++ ")"
  | .int n => "Int(" ++ displayInt n ++ ")"
  | .float x => "Float(" ++ inspectFloat x ++ ")"
  | .text s => "Text(" ++ Quoted.encode s ++ ")"
  | .handler _ => "Handler"

end LiveMarkup
