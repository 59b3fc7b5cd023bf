/-
Markers: the places of slots in markup.

A marker is the decimal index of a slot between two delimiters.  Inside a comment it
still marks a place, but one that shows nothing and has no part.

Delimiters cannot be escaped.  An opening one that belongs to no marker takes all up to
the next closing one into its token, and such a token has no index.

Everything is read off one function: `segments` cuts a text into plain stretches
and tokens, and finding, listing and replacing markers are each one pass over the
result.
-/
import LiveMarkup.Text.Search

namespace LiveMarkup.Marker

open LiveMarkup.Text

/-- Opening delimiter of a marker. -/
def opening : List Char := ['-', '-', '-', '!', '\x7b']

/-- Closing delimiter of a marker. -/
def closing : List Char := ['\x7d', '!', '-', '-', '-']

/-- Indices are below this bound, the number of words of 64 bits. -/
def indexLimit : Nat := Nat.pow 2 64

/-! ### Writing and reading one marker -/

/-- The inline marker of `index`, as characters. -/
def encodeChars (index : Nat) : List Char :=
  opening ++ Nat.toDigits 10 index ++ closing

/-- The inline marker of `index`. -/
def encode (index : Nat) : String := String.ofList (encodeChars index)

/-- The comment that carries the marker of a slot without a value. -/
def encodeAnchor (index : Nat) : String := "<!-- " ++ encode index ++ " -->"

/-- The index a body names: a run of ASCII digits, not empty, whose value is below
the limit.  Leading zeros are allowed, signs and blanks are not. -/
def index? (body : List Char) : Option Nat :=
  if body.isEmpty || !body.all Char.isDigit then none
  else
    let value := Nat.ofDigitChars 10 body 0
    if value < indexLimit then some value else none

/-- The index of a text that is exactly one marker. -/
def decode (token : String) : Option Nat :=
  (afterLead? opening token.toList).bind fun rest =>
    (beforeTail? closing rest).bind index?

/-! ### Cutting a text into segments -/

/-- A stretch of text without a marker, or a marker-shaped token with the text
between its delimiters. -/
inductive Segment where
  | plain (text : List Char)
  | token (body : List Char)
  deriving DecidableEq, Repr

/-- The characters a segment stands for. -/
def Segment.chars : Segment → List Char
  | .plain text => text
  | .token body => opening ++ body ++ closing

/-- Cut a text at its tokens, left to right: each token runs from the first opening
delimiter to the first closing delimiter after it. -/
def segments (text : List Char) : List Segment :=
  match _hopen : breakAt opening text with
  | none => [.plain text]
  | some (gap, rest) =>
    match _hclose : breakAt closing rest with
    | none => [.plain text]
    | some (body, after) => .plain gap :: .token body :: segments after
termination_by text.length
decreasing_by
  have h₁ := length_after_breakAt _hopen
  have h₂ := length_after_breakAt _hclose
  simp only [opening, closing, List.length_cons, List.length_nil] at h₁ h₂
  omega

/-- Cutting keeps every character. -/
theorem flatMap_chars_segments (text : List Char) :
    (segments text).flatMap Segment.chars = text := by
  fun_induction segments text with
  | case1 => simp [Segment.chars]
  | case2 => simp [Segment.chars]
  | case3 text gap rest hopen body after hclose ih =>
    rw [eq_of_breakAt hopen, eq_of_breakAt hclose]
    simp [Segment.chars, ih]

/-! ### Finding markers -/

/-- A marker-shaped token in a text: where it starts and ends, counted in bytes of
UTF-8, and what stands between its delimiters. -/
structure Found where
  start : Nat
  stop : Nat
  body : List Char
  deriving DecidableEq, Repr

/-- The index of a token that was found. -/
def Found.index? (found : Found) : Option Nat := Marker.index? found.body

/-- The size of a text in bytes of UTF-8. -/
def byteSize (text : List Char) : Nat := text.foldr (fun c size => c.utf8Size + size) 0

/-- The tokens among `segs`, the first segment starting at byte `offset`. -/
def foundFrom (offset : Nat) : List Segment → List Found
  | [] => []
  | seg :: rest =>
    let stop := offset + byteSize seg.chars
    match seg with
    | .plain _ => foundFrom stop rest
    | .token body => ⟨offset, stop, body⟩ :: foundFrom stop rest

/-- Every marker-shaped token of a text, left to right, repeats kept. -/
def scan (text : String) : List Found := foundFrom 0 (segments text.toList)

/-- Whether a text holds a marker-shaped token; its body need not be an index. -/
def isMarker (text : String) : Bool := !(scan text).isEmpty

/-- A token without an index. -/
structure Malformed where
  token : String
  deriving DecidableEq, Repr

/-- The wording of a malformed marker. -/
def Malformed.message (e : Malformed) : String := "malformed marker \x60" ++ e.token ++ "\x60"

/-- The indices among `segs`, or the first token that has none. -/
def indicesOf : List Segment → Except Malformed (List Nat)
  | [] => .ok []
  | .plain _ :: rest => indicesOf rest
  | .token body :: rest =>
    match index? body with
    | some index => (indicesOf rest).map (index :: ·)
    | none => .error ⟨String.ofList (Segment.token body).chars⟩

/-- The slot indices a text refers to, in order of appearance. -/
def indices (text : String) : Except Malformed (List Nat) := indicesOf (segments text.toList)

/-! ### Replacing markers -/

/-- What a segment becomes: a token with an index becomes that index's value, all
else stays. -/
def Segment.fill (value : Nat → String) : Segment → List Char
  | .plain text => text
  | .token body =>
    match index? body with
    | some index => (value index).toList
    | none => (Segment.token body).chars

/-- Replace every marker of `text` by what `value` gives for its index.  Inserted text
is not looked at again, and tokens without an index are left alone. -/
def substitute (text : String) (value : Nat → String) : String :=
  String.ofList ((segments text.toList).flatMap (Segment.fill value))

/-- The indices that `substitute` looks up, in the order in which it does. -/
def replaced (text : String) : List Nat :=
  (scan text).filterMap Found.index?

/-! ### Names of bound attributes -/

/-- Brackets around an attribute name bind it as a property. -/
def isPropertyBinding (name : String) : Bool :=
  2 ≤ name.utf8ByteSize && name.toList.head? == some '[' && name.toList.getLast? == some ']'

/-- The attribute name without any bracket. -/
def cleanName (name : String) : String :=
  String.ofList (name.toList.filter fun c => c != '[' && c != ']')

/-- The mark of an attribute that binds an event. -/
def eventMark : Char := '@'

/-- The kind of event that an attribute name asks for: the name without its first event mark. -/
def eventName (name : String) : String := String.ofList (name.toList.erase eventMark)

end LiveMarkup.Marker
