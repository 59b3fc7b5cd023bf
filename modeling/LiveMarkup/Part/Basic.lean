/-
Parts: the places of a rendered tree that slots feed.
-/
import LiveMarkup.Document.Walk
import LiveMarkup.Part.Attributes
import LiveMarkup.Part.Content

namespace LiveMarkup

/-- A text with markers, or an element with bound attributes. -/
inductive Part where
  | content (p : ContentPart)
  | attributes (p : AttributePart)
  deriving DecidableEq, Repr

namespace Part

variable {L H : Type}

/-- The node a part writes to. -/
def node : Part → NodeId
  | content p => p.node
  | attributes p => p.element

/-- The slots a part reads, in order. -/
def indices : Part → List Nat
  | content p => p.indices
  | attributes p => p.indices

/-! ### Finding parts -/

/-- The part of a node, if it has one. -/
def ofContent? (node : NodeId) : Content → Except TemplateError (Option Part)
  | .element e => (AttributePart.ofElement? node e).map (Option.map attributes)
  | .text s =>
    if Marker.isMarker s then (ContentPart.ofText node s).map fun p => some (content p)
    else .ok none
  | .fragment | .comment _ | .shadowRoot => .ok none

/-- Refuse a part that reads a slot which is not there. -/
def checkSlots (slots : Nat) (p : Part) : Except TemplateError Unit :=
  match p.indices.find? (slots ≤ ·) with
  | some index => .error (.slotOutOfRange index slots)
  | none => .ok ()

/-- The parts of nodes that come with what they hold, in order, up to the first bad marker. -/
def discoverIn (slots : Nat) : List (NodeId × Content) → Except TemplateError (List Part)
  | [] => .ok []
  | (node, held) :: rest => do
    match ← ofContent? node held with
    | none => discoverIn slots rest
    | some part =>
      part.checkSlots slots
      return part :: (← discoverIn slots rest)

/-- The parts among the nodes met from `root`, in document order. -/
def discover (d : Document L) (root : NodeId) (slots : Nat) : Except TemplateError (List Part) :=
  discoverIn slots ((d.walk root .all).map fun id => (id, d.contentAt id))

/-! ### Writing parts -/

/-- Write a part. -/
def update (context : Context L H) (values : List (Value H)) (part : Part) (d : Document L) :
    Attempt DocumentError (Part × Document L) :=
  match part with
  | content p => (Attempt.ofExcept d (p.update values d)).map fun d => (content p, d)
  | attributes p => (p.update context values d).map fun (p, d) => (attributes p, d)

/-- Write the parts at the positions that `chosen` picks, counted from `position` on, up
to the first that the document refuses. -/
def updateChosen (context : Context L H) (values : List (Value H)) (chosen : Nat → Bool) :
    (position : Nat) → List Part → Document L → Attempt DocumentError (List Part × Document L)
  | _, [], d => .done ([], d)
  | position, part :: rest, d =>
    let here :=
      if chosen position then part.update context values d else .done (part, d)
    match here.stopped with
    | some e => .stop (here.state.1 :: rest, here.state.2) e
    | none =>
      (updateChosen context values chosen (position + 1) rest here.state.2).map
        fun (parts, d) => (here.state.1 :: parts, d)

/-- Write all parts. -/
def updateAll (context : Context L H) (values : List (Value H)) (parts : List Part)
    (d : Document L) : Attempt DocumentError (List Part × Document L) :=
  updateChosen context values (fun _ => true) 0 parts d

end Part

end LiveMarkup
