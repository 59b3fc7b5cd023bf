/-
Looking at the nodes of a subtree.

`walk` lists the nodes below a root of the kinds asked for, in document order; nodes
that are not asked for are still looked into.  A root that was removed has nothing below
it, but the walk may still meet nodes, those around its seat.  `outline` is the subtree itself with
what its nodes hold instead of their names, and the markup of a node is that of its
outline.
-/
import LiveMarkup.Document.Basic
import LiveMarkup.Markup.Html

namespace LiveMarkup

/-- The kinds of nodes a walk shows. -/
structure Shown where
  elements : Bool := false
  texts : Bool := false
  comments : Bool := false
  deriving DecidableEq, Repr

/-- All that a walk can show. -/
def Shown.all : Shown := ⟨true, true, true⟩

/-- Whether a node is shown; fragments and shadow roots never are. -/
def Shown.accepts (shown : Shown) : Content → Bool
  | .element _ => shown.elements
  | .text _ => shown.texts
  | .comment _ => shown.comments
  | .fragment | .shadowRoot => false

namespace Document

variable {L : Type}

/-- The nodes that are met on the way from `root`, in document order.  From a live node
the way leads over what is below it and ends where it comes back to the node.  From a
removed one it starts at the node that has the seat now; it never comes back to the
name it started from, so once it leads down it ends only with the whole tree. -/
def met (d : Document L) (root : NodeId) : List NodeId :=
  if d.contains root then d.below root
  else
    match d.seated? root with
    | none => []
    | some other => if (d.below other).isEmpty then [] else d.forest.following other

theorem met_of_contains {d : Document L} {root : NodeId} (h : d.contains root = true) :
    d.met root = d.below root := if_pos h

/-- The nodes met from `root` that are shown, in document order. -/
def walk (d : Document L) (root : NodeId) (shown : Shown) : List NodeId :=
  (d.met root).filter fun id => (d.content? id).any shown.accepts

/-- What a node in the forest holds. -/
def contentAt (d : Document L) (id : NodeId) : Content :=
  ((d.records[id.index]?).map Record.content).getD .fragment

/-- The tree of a node. -/
def subtree? (d : Document L) (id : NodeId) : Option (Forest NodeId) :=
  (d.forest.below? id).map (Forest.tree id)

/-- What the tree of a node holds. -/
def outline? (d : Document L) (id : NodeId) : Option (Forest Content) :=
  (d.subtree? id).map (·.map d.contentAt)

/-- The markup of a node. -/
def outerHtml (d : Document L) (id : NodeId) : Except DocumentError String :=
  match d.subtree? id with
  | some tree => .ok (Markup.html (tree.map d.contentAt))
  | none => .error (.unknownNode id)

/-- The markup of the children of a node. -/
def innerHtml (d : Document L) (id : NodeId) : Except DocumentError String :=
  match d.forest.below? id with
  | some kids => .ok (Markup.html (kids.map d.contentAt))
  | none => .error (.unknownNode id)

end Document

end LiveMarkup
