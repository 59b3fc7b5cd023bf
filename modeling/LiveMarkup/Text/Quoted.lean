/-
Quoted text, for inspection.

The text stands between double quotes.  A quote and a backslash are written after a
backslash, the common controls and the null character as letters, and every other
character that would not show as itself by its number.
-/
import LiveMarkup.Text.Printable

namespace LiveMarkup.Text.Quoted

/-- A character by its number, in hexadecimal. -/
def numbered (c : Char) : List Char :=
  ['\\', 'u', '\x7b'] ++ Nat.toDigits 16 c.toNat ++ ['\x7d']

/-- How one character is written inside quotes. -/
def escape (c : Char) : List Char :=
  match c with
  | '\x00' => ['\\', '0']
  | '\t' => ['\\', 't']
  | '\n' => ['\\', 'n']
  | '\r' => ['\\', 'r']
  | '"' => ['\\', '"']
  | '\\' => ['\\', '\\']
  | c => if showsAlone c then [c] else numbered c

/-- A text between quotes. -/
def encode (text : String) : String :=
  String.ofList ('"' :: text.toList.flatMap escape ++ ['"'])

end LiveMarkup.Text.Quoted
