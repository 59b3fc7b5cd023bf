/-
Moving, removing and hiding nodes.

Appending detaches first and looks for a cycle afterwards, so a node that cannot go
where it should is left without a parent.  Appending a fragment appends its children
one by one, and a child that is refused stops it there.
-/
import LiveMarkup.Attempt
import LiveMarkup.Document.Basic

namespace LiveMarkup.Document

variable {L : Type}

/-- Make a node a tree of its own. -/
def detach (d : Document L) (id : NodeId) : Document L :=
  { d with forest := d.forest.detach id }

/-- Take a node with all below it from where it is and put it after the children of
`parent`. -/
def transfer (d : Document L) (parent child : NodeId) : Document L :=
  match d.forest.below? child with
  | none => d
  | some kids =>
    { d with forest := (d.forest.prune child).graft parent (.tree child kids) }

/-- Detach a node and put it after the children of `parent`, unless that would put it
below itself. -/
def place (d : Document L) (parent child : NodeId) : Attempt DocumentError (Document L) :=
  if child = parent then .stop (d.detach child) .belowItself
  else if child ∈ d.ancestors parent then .stop (d.detach child) .belowDescendant
  else .done (d.transfer parent child)

/-- Place several nodes, in order, up to the first that is refused. -/
def placeAll (parent : NodeId) : List NodeId → Document L → Attempt DocumentError (Document L)
  | [], d => .done d
  | child :: rest, d => (d.place parent child).andThen (placeAll parent rest)

/-- Whether nodes can be appended below a node, which has to be live. -/
def container (d : Document L) (id : NodeId) : Except DocumentError Unit :=
  (d.get id).bind fun content => if content.isContainer then .ok () else .error (.notElement id)

/-- The nodes that move when `child` is appended: the children of a fragment, else the
node itself. -/
def moved (d : Document L) (child : NodeId) : Except DocumentError (List NodeId) :=
  (d.get child).map fun content =>
    if content = .fragment then d.children child else [child]

/-- Append `child` after the children of `parent`. -/
def append (d : Document L) (parent child : NodeId) : Attempt DocumentError (Document L) :=
  match (d.container parent).bind fun _ => d.moved child with
  | .error e => .stop d e
  | .ok nodes => placeAll parent nodes d

/-- The nodes that go when `id` is removed, in the order in which they leave their seats:
every node after those below it. -/
def leaving (d : Document L) (id : NodeId) : List NodeId :=
  ((d.forest.below? id).map Forest.labelsUp).getD [] ++ [id]

/-- Remove a node and all below it, with their listeners.  Shadow roots stay. -/
def remove (d : Document L) (id : NodeId) : Except DocumentError (Document L) :=
  (d.get id).map fun _ =>
    { d with
      forest := d.forest.prune id
      vacant := d.vacant ++ (d.leaving id).map d.seat }

/-- Give an element a shadow root, or find the one it has. -/
def attachShadow (d : Document L) (id : NodeId) : Except DocumentError (Document L × NodeId) :=
  (d.element id).map fun e =>
    match e.shadow with
    | some root => (d, root)
    | none =>
      let (d', root) := d.create .shadowRoot
      (d'.setContent id (.element { e with shadow := some root }), root)

end LiveMarkup.Document
