/-
What a slot holds.

A value is data or an event handler.  Handlers are known here only by their identity,
of a type `H` that the caller chooses.  There are two ways of being empty: in text
`null` is not written while `undefined` is a word, and a slot that is `undefined` when
its template is compiled gets no part at all.
-/
import LiveMarkup.Decimal.Written

namespace LiveMarkup

open Decimal

/-- The value of one slot. -/
inductive Value (H : Type) where
  /-- An explicitly empty value. -/
  | null
  /-- No value at all. -/
  | undefined
  | bool (b : Bool)
  | int (n : Int64)
  | float (x : Float)
  | text (s : String)
  /-- An event handler. -/
  | handler (h : H)

namespace Value

variable {H : Type}

/-! ### Display text -/

/-- A binary64 number as it is displayed: all places, no exponent, no sign on zero. -/
def displayFloat (x : Float) : String :=
  match Binary64.ofFloat x with
  | .nan => "NaN"
  | .infinite negative => signText negative ++ "Infinity"
  | .zero _ => "0"
  | .finite negative magnitude => signText negative ++ magnitude.shortest.positional ""

/-- The text of an integer. -/
def displayInt (n : Int64) : String := toString n.toInt

/-- The text of a truth value. -/
def displayBool : Bool → String
  | true => "true"
  | false => "false"

/-- The text a value is displayed as. -/
def display : Value H → String
  | null => "null"
  | undefined => "undefined"
  | bool b => displayBool b
  | int n => displayInt n
  | float x => displayFloat x
  | text s => s
  | handler _ => "[handler]"

/-! ### Truth -/

/-- Values that say no: both empty ones, false, the numbers that are zero or none, and the
empty text. -/
def isFalsy : Value H → Bool
  | null | undefined => true
  | bool b => !b
  | int n => n == 0
  | float x => x == 0.0 || x.isNaN
  | text s => s.isEmpty
  | handler _ => false

/-- Values that are not falsy. -/
def isTruthy (v : Value H) : Bool := !v.isFalsy

/-- Display text, or nothing for a falsy value. -/
def displayOrEmpty (v : Value H) : String := if v.isFalsy then "" else v.display

/-- The handler, if the value is one. -/
def handler? : Value H → Option H
  | handler h => some h
  | _ => none

/-- Whether the value is a handler. -/
def isCallable (v : Value H) : Bool := v.handler?.isSome

/-- Whether the value is `undefined`. -/
def isUndefined : Value H → Bool
  | undefined => true
  | _ => false

/-- A value with its handler, if it is one, seen in another way. -/
def mapHandler {H' : Type} (f : H → H') : Value H → Value H'
  | null => null
  | undefined => undefined
  | bool b => bool b
  | int n => int n
  | float x => float x
  | text s => text s
  | handler h => handler (f h)

/-! ### Equality

Numbers compare as numbers do, so not-a-number differs from itself and the two zeros are
equal; handlers compare by identity. -/

/-- Whether two values are equal. -/
def beq [BEq H] : Value H → Value H → Bool
  | null, null | undefined, undefined => true
  | bool a, bool b => a == b
  | int a, int b => a == b
  | float a, float b => a == b
  | text a, text b => a == b
  | handler a, handler b => a == b
  | _, _ => false

instance [BEq H] : BEq (Value H) := ⟨beq⟩

/-! ### Values from plain data -/

/-- A 32-bit integer as a value. -/
def ofInt32 (n : Int32) : Value H := int n.toInt64

/-- A 32-bit count as a value. -/
def ofUInt32 (n : UInt32) : Value H := int (Int64.ofNat n.toNat)

/-- A 64-bit count as a value: an integer where it fits, else the nearest number. -/
def ofUInt64 (n : UInt64) : Value H :=
  if n.toNat ≤ Int64.maxValue.toNatClampNeg then int (Int64.ofNat n.toNat)
  else float (signedFloat false (nearestBits n.toNat 1))

/-- Missing data is `null`. -/
def ofOption {α : Type} (wrap : α → Value H) : Option α → Value H
  | some a => wrap a
  | none => null

end Value

end LiveMarkup
