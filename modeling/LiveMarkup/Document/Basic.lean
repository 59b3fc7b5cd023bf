/-
Documents: what is where, and what it holds.

A document has two halves.  Its forest says which nodes are live and how they hang
together, and nothing else; its records say what each node holds, in the order in
which nodes were made.  So an operation on what a node holds cannot move a node, and
an operation on the forest cannot change what a node holds; only removal touches both,
by taking nodes out of the forest.  Records are kept for good, so that a name is never
given to a second node.

Every node that was made and not removed is in the forest: detached nodes are trees of
their own beside the others.

A node has a seat for as long as it lives.  Removed nodes leave their seats, and new
nodes take them, the seat that was left first being taken first.  Seats tell what is
met by a walk that starts from the name of a removed node; nothing else depends on them.
-/
import LiveMarkup.Document.Error
import LiveMarkup.Forest

namespace LiveMarkup

/-- A listener for events of one kind. -/
structure Registration (L : Type) where
  kind : String
  listener : L
  deriving DecidableEq, Repr

/-- What a document knows of a node besides its place. -/
structure Record (L : Type) where
  content : Content
  /-- The seat of the node, called by the first node that had it. -/
  seat : NodeId
  /-- The listeners, in order of registration. -/
  listeners : List (Registration L) := []
  deriving DecidableEq, Repr

/-- A document whose listeners are of type `L`. -/
structure Document (L : Type) where
  /-- The live nodes, one tree for every node without a parent. -/
  forest : Forest NodeId := .nil
  /-- What the nodes hold, by name. -/
  records : Array (Record L) := #[]
  /-- The seats that were left and not taken again, in the order in which they were left. -/
  vacant : List NodeId := []
  deriving DecidableEq, Repr

namespace Document

variable {L : Type}

/-! ### Reading -/

/-- Whether `id` names a live node. -/
def contains (d : Document L) (id : NodeId) : Bool := (d.forest.below? id).isSome

/-- The record of a live node. -/
def record? (d : Document L) (id : NodeId) : Option (Record L) :=
  if d.contains id then d.records[id.index]? else none

/-- What a live node holds. -/
def content? (d : Document L) (id : NodeId) : Option Content := (d.record? id).map Record.content

/-- What a node holds, which has to be live. -/
def get (d : Document L) (id : NodeId) : Except DocumentError Content :=
  match d.content? id with
  | some content => .ok content
  | none => .error (.unknownNode id)

/-- The element of a node, which has to be live and an element. -/
def element (d : Document L) (id : NodeId) : Except DocumentError Element :=
  match d.content? id with
  | some (.element e) => .ok e
  | some _ => .error (.notElement id)
  | none => .error (.unknownNode id)

/-- The element of a node, if it is a live element. -/
def element? (d : Document L) (id : NodeId) : Option Element :=
  (d.content? id).bind Content.element?

/-- The tag of an element. -/
def tag? (d : Document L) (id : NodeId) : Option String := (d.element? id).map Element.tag

/-- The characters of a text or a comment. -/
def text? (d : Document L) (id : NodeId) : Option String := (d.content? id).bind Content.text?

/-- The value of an attribute. -/
def attribute? (d : Document L) (id : NodeId) (name : String) : Option String :=
  (d.element? id).bind (·.attributes.get? name)

/-- The value of a property. -/
def property? (d : Document L) (id : NodeId) (name : String) : Option String :=
  (d.element? id).bind (·.properties.get? name)

/-- The attributes of an element, in order. -/
def attributes (d : Document L) (id : NodeId) : Except DocumentError (OrderedMap String) :=
  (d.element id).map Element.attributes

/-- The shadow root of an element, if it has one. -/
def shadowRoot? (d : Document L) (id : NodeId) : Option NodeId :=
  (d.element? id).bind Element.shadow

/-! ### Places -/

/-- The nodes right below a node. -/
def children (d : Document L) (id : NodeId) : List NodeId :=
  ((d.forest.below? id).map Forest.roots).getD []

/-- The foremost of the children. -/
def firstChild? (d : Document L) (id : NodeId) : Option NodeId := (d.children id).head?

/-- The hindmost of the children. -/
def lastChild? (d : Document L) (id : NodeId) : Option NodeId := (d.children id).getLast?

/-- The nodes below a node, in document order. -/
def below (d : Document L) (id : NodeId) : List NodeId :=
  ((d.forest.below? id).map Forest.labels).getD []

/-- A node followed by the nodes below it, in document order. -/
def descendants (d : Document L) (id : NodeId) : List NodeId := id :: d.below id

/-- A node followed by its parent, the parent of that, and so on. -/
def ancestors (d : Document L) (id : NodeId) : List NodeId := (d.forest.trail? id).getD [id]

/-- The parent of a node. -/
def parent? (d : Document L) (id : NodeId) : Option NodeId := (d.ancestors id)[1]?

/-! ### Seats -/

/-- The seat of a node, which it had if it was removed. -/
def seat (d : Document L) (id : NodeId) : NodeId :=
  ((d.records[id.index]?).map Record.seat).getD id

/-- The node that has the seat of `id` now: while `id` lives, that is `id` itself. -/
def seated? (d : Document L) (id : NodeId) : Option NodeId :=
  d.forest.labels.find? fun other => d.seat other == d.seat id

/-- The seat of the node that will be made as number `n` from now on: one that was left, or
else one of its own. -/
def nextSeat (d : Document L) (n : Nat) : NodeId := (d.vacant[n]?).getD ⟨d.records.size + n⟩

/-! ### Creating -/

/-- Add trees, with new names and seats for their nodes, in document order. -/
def plant (d : Document L) (trees : Forest Content) : Document L where
  forest := d.forest ++ (trees.numbered d.records.size).map NodeId.mk
  records :=
    d.records ++ (trees.labels.mapIdx fun n content => { content, seat := d.nextSeat n }).toArray
  vacant := d.vacant.drop trees.size

/-- The name of the next node to be made. -/
def nextId (d : Document L) : NodeId := ⟨d.records.size⟩

/-- Make a detached node. -/
def create (d : Document L) (content : Content) : Document L × NodeId :=
  (d.plant (.tree content .nil), d.nextId)

/-! ### Writing what a node holds -/

/-- Change the record of a node. -/
def modifyRecord (d : Document L) (id : NodeId) (change : Record L → Record L) : Document L :=
  { d with records := d.records.modify id.index change }

/-- Replace what a node holds. -/
def setContent (d : Document L) (id : NodeId) (content : Content) : Document L :=
  d.modifyRecord id fun r => { r with content }

/-- Change an element. -/
def modifyElement (d : Document L) (id : NodeId) (change : Element → Element) :
    Except DocumentError (Document L) :=
  (d.element id).map fun e => d.setContent id (.element (change e))

/-- Replace the characters of a text or a comment. -/
def setText (d : Document L) (id : NodeId) (s : String) : Except DocumentError (Document L) :=
  match d.content? id with
  | some (.text _) => .ok (d.setContent id (.text s))
  | some (.comment _) => .ok (d.setContent id (.comment s))
  | some _ => .error (.notText id)
  | none => .error (.unknownNode id)

/-- Write an attribute; one that was there keeps its place. -/
def setAttribute (d : Document L) (id : NodeId) (name value : String) :
    Except DocumentError (Document L) :=
  d.modifyElement id fun e => { e with attributes := e.attributes.insert name value }

/-- Take out an attribute. -/
def removeAttribute (d : Document L) (id : NodeId) (name : String) :
    Except DocumentError (Document L) :=
  d.modifyElement id fun e => { e with attributes := e.attributes.erase name }

/-- Write a property. -/
def setProperty (d : Document L) (id : NodeId) (name value : String) :
    Except DocumentError (Document L) :=
  d.modifyElement id fun e => { e with properties := e.properties.insert name value }

end Document

end LiveMarkup
