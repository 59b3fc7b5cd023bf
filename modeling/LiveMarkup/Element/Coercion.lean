/-
How the text of a bound attribute is read back as a value.
-/
import LiveMarkup.Value
import LiveMarkup.Decimal.Read
import LiveMarkup.Text.Blank

namespace LiveMarkup

/-- The kinds of bound attribute. -/
inductive Coercion where
  /-- The text as it is. -/
  | text
  /-- The text read as a number. -/
  | number
  /-- Whether there is any text. -/
  | boolean
  deriving DecidableEq, Repr

namespace Coercion

variable {H : Type}

/-- The bits of not-a-number. -/
def nanBits : UInt64 := UInt64.ofNat (Decimal.infinityBits + Nat.pow 2 51)

/-- Read a number: white space around it does not count, nothing is zero, and what is no
number is not-a-number. -/
def readNumber (s : String) : Value H :=
  let trimmed := Text.trim s.toList
  if trimmed.isEmpty then .int 0
  else
    match Decimal.readInt? trimmed with
    | some n => .int n
    | none => .float ((Decimal.readFloat? trimmed).getD (Float.ofBits nanBits))

/-- Read the text of an attribute, `none` standing for an absent one. -/
def apply : Coercion → Option String → Value H
  | boolean, raw => .bool (raw.any fun s => !s.isEmpty)
  | _, none => .null
  | text, some s => .text s
  | number, some s => readNumber s

end Coercion

end LiveMarkup
