/-
Character references.

A named reference is an ampersand and a name of the table, the longest that fits; a few
names of long standing may go without the semicolon.  A numeric reference names a code
point; numbers that name no character give the replacement character, and the numbers of
the C1 controls give the characters that windows-1252 has there.
-/
import LiveMarkup.Markup.Reference.Names

namespace LiveMarkup.Markup.Reference

/-- What a reference gives when it names no character. -/
def replacement : Char := '\ufffd'

/-- The names that begin with a letter, without it and without the semicolon, and what they
stand for. -/
def under (first : Char) : List (String × String) := (initials.lookup first).getD []

/-- What a name stands for. -/
def named? : List Char → Option String
  | [] => none
  | first :: rest => ((under first).find? fun entry => entry.1.toList == rest).map Prod.snd

/-- Whether `chars` is the beginning of a name with its semicolon. -/
def isBeginning : List Char → Bool
  | [] => true
  | first :: rest => (under first).any fun entry => rest.isPrefixOf (entry.1.toList ++ [';'])

/-- A name with its semicolon at the front of `chars`, and what it stands for. -/
def closed? (chars : List Char) : Option (List Char × String) :=
  let name := chars.takeWhile (· != ';')
  if name.length < chars.length then (named? name).map fun text => (name ++ [';'], text) else none

/-- A name without its semicolon at the front of `chars`, and what it stands for. -/
def bare? (chars : List Char) : Option (List Char × String) :=
  (bareNames.map String.toList).findSome? fun name =>
    if name.isPrefixOf chars then (named? name).map fun text => (name, text) else none

/-- The longest name at the front of `chars`, and what it stands for.  With its semicolon a
name is longer than any that goes without. -/
def longest? (chars : List Char) : Option (List Char × String) := (closed? chars).or (bare? chars)

/-- What windows-1252 has in place of the C1 controls. -/
def controlNames : List (Nat × Char) :=
  [(0x80, '\u20ac'), (0x82, '\u201a'), (0x83, '\u0192'), (0x84, '\u201e'), (0x85, '\u2026'),
    (0x86, '\u2020'), (0x87, '\u2021'), (0x88, '\u02c6'), (0x89, '\u2030'), (0x8a, '\u0160'),
    (0x8b, '\u2039'), (0x8c, '\u0152'), (0x8e, '\u017d'), (0x91, '\u2018'), (0x92, '\u2019'),
    (0x93, '\u201c'), (0x94, '\u201d'), (0x95, '\u2022'), (0x96, '\u2013'), (0x97, '\u2014'),
    (0x98, '\u02dc'), (0x99, '\u2122'), (0x9a, '\u0161'), (0x9b, '\u203a'), (0x9c, '\u0153'),
    (0x9e, '\u017e'), (0x9f, '\u0178')]

/-- The character a number names. -/
def numbered (n : Nat) : Char :=
  if n = 0 ∨ ¬ n.isValidChar then replacement else (controlNames.lookup n).getD (Char.ofNat n)

/-- The value of a hexadecimal digit. -/
def hexValue? (c : Char) : Option Nat :=
  if c.isDigit then some (c.toNat - '0'.toNat)
  else if 'a' ≤ c ∧ c ≤ 'f' then some (c.toNat - 'a'.toNat + 10)
  else if 'A' ≤ c ∧ c ≤ 'F' then some (c.toNat - 'A'.toNat + 10)
  else none

/-- The value of a decimal digit. -/
def decimalValue? (c : Char) : Option Nat := if c.isDigit then some (c.toNat - '0'.toNat) else none

end LiveMarkup.Markup.Reference
