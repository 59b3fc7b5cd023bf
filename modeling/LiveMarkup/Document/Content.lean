/-
What the nodes of a document carry.
-/
import LiveMarkup.OrderedMap
import LiveMarkup.Markup.Vocabulary

namespace LiveMarkup

/-- The name of a node.  Names are handed out in order and never again. -/
structure NodeId where
  index : Nat
  deriving DecidableEq, Repr

/-- What an element carries besides its children. -/
structure Element where
  tag : String
  /-- Attributes, in document order. -/
  attributes : OrderedMap String := ∅
  /-- Direct properties; they never show in markup. -/
  properties : OrderedMap String := ∅
  /-- The root of the element's own rendering boundary. -/
  shadow : Option NodeId := none
  deriving DecidableEq, Repr

/-- Whether the element cannot have children in markup. -/
def Element.isVoid (e : Element) : Bool := Markup.isVoid e.tag

/-- What a node is and holds. -/
inductive Content where
  /-- A detached container: appending it moves its children. -/
  | fragment
  | element (e : Element)
  | text (s : String)
  | comment (s : String)
  /-- The root of an element's rendering boundary. -/
  | shadowRoot
  deriving DecidableEq, Repr

namespace Content

/-- The element, if the node is one. -/
def element? : Content → Option Element
  | element e => some e
  | _ => none

/-- The characters of a text or a comment. -/
def text? : Content → Option String
  | text s | comment s => some s
  | _ => none

/-- Whether the node is a comment. -/
def isComment : Content → Bool
  | comment _ => true
  | _ => false

/-- Whether nodes can be appended below the node. -/
def isContainer : Content → Bool
  | fragment | element _ | shadowRoot => true
  | text _ | comment _ => false

end Content

end LiveMarkup
