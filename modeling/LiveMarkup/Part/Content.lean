/-
Texts with markers.
-/
import LiveMarkup.Document.Basic
import LiveMarkup.Part.Error
import LiveMarkup.Value

namespace LiveMarkup

/-- A text node with markers, and its text as it was before anything was written. -/
structure ContentPart where
  node : NodeId
  base : String
  /-- The slots the markers name, in order. -/
  indices : List Nat
  deriving DecidableEq, Repr

namespace ContentPart

variable {L H : Type}

/-- The part of a text node. -/
def ofText (node : NodeId) (base : String) : Except TemplateError ContentPart :=
  match Marker.indices base with
  | .ok indices => .ok ⟨node, base, indices⟩
  | .error e => .error (.ofMalformed e)

/-- What a slot shows in a text: nothing for a missing or null value. -/
def shown (values : List (Value H)) (index : Nat) : String :=
  match values[index]? with
  | none | some .null => ""
  | some v => v.display

/-- The text for `values`. -/
def render (p : ContentPart) (values : List (Value H)) : String :=
  Marker.substitute p.base (shown values)

/-- Write the text for `values`. -/
def update (p : ContentPart) (values : List (Value H)) (d : Document L) :
    Except DocumentError (Document L) :=
  d.setText p.node (p.render values)

end ContentPart

end LiveMarkup
