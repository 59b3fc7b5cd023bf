/-
Elements with bound attributes.

An attribute is bound if it is named in brackets or a marker is in its value.  Its text
is always made from the value it had in the markup, whatever was written since; a
bracketed one is written as a property and taken out of the attributes.  Once one of its
slots holds a handler there is a listener in its place, and it is bound no longer.
-/
import LiveMarkup.Document.Event
import LiveMarkup.Attempt
import LiveMarkup.Part.Error
import LiveMarkup.Value

namespace LiveMarkup

/-- A bound attribute. -/
structure Binding where
  /-- The value in the markup. -/
  base : String
  /-- The slots its markers name, in order. -/
  indices : List Nat
  /-- The attribute name without brackets. -/
  cleanName : String
  /-- Whether a property is written instead of the attribute. -/
  isProperty : Bool
  deriving DecidableEq, Repr

/-- What a template renders for: the node it goes under unless told otherwise, and how a
handler becomes a listener. -/
structure Context (L H : Type) where
  host : NodeId
  listener : H → L

/-- What a bound attribute comes to. -/
inductive Outcome (H : Type) where
  | text (s : String)
  | event (handler : H)
  deriving DecidableEq, Repr

namespace Binding

variable {H : Type}

/-- Bind an attribute, if it is to be bound. -/
def ofAttribute? (name value : String) : Except TemplateError (Option Binding) :=
  if Marker.isMarker value || Marker.isPropertyBinding name then
    match Marker.indices value with
    | .ok indices =>
      .ok (some ⟨value, indices, Marker.cleanName name, Marker.isPropertyBinding name⟩)
    | .error e => .error (.ofMalformed e)
  else .ok none

/-- What a slot shows in an attribute: nothing for a missing or falsy value. -/
def shown (values : List (Value H)) (index : Nat) : String :=
  match values[index]? with
  | none => ""
  | some v => v.displayOrEmpty

/-- The first handler among the slots that feed the attribute. -/
def handler? (b : Binding) (values : List (Value H)) : Option H :=
  b.indices.findSome? fun index => (values[index]?).bind Value.handler?

/-- The first handler among the slots, or else the text that the values make. -/
def resolve (b : Binding) (values : List (Value H)) : Outcome H :=
  match b.handler? values with
  | some h => .event h
  | none => .text (Marker.substitute b.base (shown values))

end Binding

/-- An element with bound attributes, by their names in the markup. -/
structure AttributePart where
  element : NodeId
  bindings : OrderedMap Binding
  deriving DecidableEq, Repr

namespace AttributePart

variable {L H : Type}

/-- The bindings of a list of attributes, up to the first malformed marker. -/
def bindingsOf : List (String × String) → Except TemplateError (List (String × Binding))
  | [] => .ok []
  | (name, value) :: rest =>
    (Binding.ofAttribute? name value).bind fun
      | some b => (bindingsOf rest).map ((name, b) :: ·)
      | none => bindingsOf rest

/-- The part of an element, if any of its attributes is bound. -/
def ofElement? (node : NodeId) (e : Element) : Except TemplateError (Option AttributePart) :=
  (bindingsOf e.attributes.entries).map fun bindings =>
    if bindings.isEmpty then none else some ⟨node, ⟨bindings⟩⟩

/-- The slots of the attributes still bound, in order. -/
def indices (p : AttributePart) : List Nat :=
  p.bindings.entries.flatMap fun entry => entry.2.indices

/-- Write the text of a bound attribute. -/
def write (element : NodeId) (name : String) (b : Binding) (s : String) (d : Document L) :
    Attempt DocumentError (Document L) :=
  if b.isProperty then
    (Attempt.ofExcept d (d.setProperty element b.cleanName s)).andThen fun d =>
      .ofExcept d (d.removeAttribute element name)
  else .ofExcept d (d.setAttribute element name s)

/-- Make a bound attribute a listener. -/
def convert (element : NodeId) (name : String) (listener : L) (d : Document L) :
    Attempt DocumentError (Document L) :=
  (Attempt.ofExcept d (d.addListener element (Marker.eventName name) listener)).andThen fun d =>
    .ofExcept d (d.removeAttribute element name)

/-- Write bound attributes, in order, up to the first that the document refuses.  What is
still bound afterwards comes with the document. -/
def updateBindings (context : Context L H) (element : NodeId) (values : List (Value H)) :
    List (String × Binding) → Document L →
      Attempt DocumentError (List (String × Binding) × Document L)
  | [], d => .done ([], d)
  | (name, b) :: rest, d =>
    match b.resolve values with
    | .text s =>
      let written := write element name b s d
      match written.stopped with
      | some e => .stop ((name, b) :: rest, written.state) e
      | none =>
        (updateBindings context element values rest written.state).map fun (bound, d) =>
          ((name, b) :: bound, d)
    | .event h =>
      let converted := convert element name (context.listener h) d
      match converted.stopped with
      | some e => .stop ((name, b) :: rest, converted.state) e
      | none => updateBindings context element values rest converted.state

/-- Write every bound attribute. -/
def update (context : Context L H) (values : List (Value H)) (p : AttributePart)
    (d : Document L) : Attempt DocumentError (AttributePart × Document L) :=
  (updateBindings context p.element values p.bindings.entries d).map fun (bound, d) =>
    ({ p with bindings := ⟨bound⟩ }, d)

end AttributePart

end LiveMarkup
