/-
From tokens to trees.

The builder keeps the elements that are still open, innermost first, each with the
children it has so far, and the start tag that is being read.  No element implies
another: an end tag closes the innermost open element of its name and all inside it,
one without such an element is ignored, and what is open at the end is closed there.
Text is joined to the text before it.
-/
import LiveMarkup.Document.Content
import LiveMarkup.Forest
import LiveMarkup.Markup.Lexer

namespace LiveMarkup.Markup

/-- A start tag that is being read. -/
structure PendingTag where
  element : Element
  /-- The name of an attribute that waits for its value. -/
  waiting : Option String := none
  deriving DecidableEq, Repr

/-- Add an attribute, unless one of that name is there. -/
def addAttribute (e : Element) (name value : String) : Element :=
  { e with attributes := e.attributes.insertNew name value }

/-- Give the waiting attribute, if there is one, the value `value`. -/
def PendingTag.settle (t : PendingTag) (value : String) : PendingTag :=
  match t.waiting with
  | some name => ⟨addAttribute t.element name value, none⟩
  | none => t

/-- An element that is still open, with its children so far. -/
structure OpenElement where
  element : Element
  children : Forest Content := .nil
  deriving DecidableEq, Repr

/-- Trees being built. -/
structure Builder where
  /-- The finished trees at the top. -/
  top : Forest Content := .nil
  /-- The open elements, innermost first. -/
  stack : List OpenElement := []
  /-- The start tag that is being read. -/
  tag : Option PendingTag := none
  deriving DecidableEq, Repr

/-- Add text after the last tree, or to it if it is a text. -/
def appendText (s : String) : Forest Content → Forest Content
  | .nil => .tree (.text s) .nil
  | .node (.text t) kids .nil => .node (.text (t ++ s)) kids .nil
  | .node c kids rest => .node c kids (appendText s rest)

namespace Builder

/-- Change the children of the innermost open element. -/
def onChildren (b : Builder) (change : Forest Content → Forest Content) : Builder :=
  match b.stack with
  | [] => { b with top := change b.top }
  | inner :: outer => { b with stack := { inner with children := change inner.children } :: outer }

/-- Add trees to the innermost open element. -/
def add (b : Builder) (trees : Forest Content) : Builder := b.onChildren (· ++ trees)

/-- Close the innermost open element. -/
def close (b : Builder) : Builder :=
  match b.stack with
  | [] => b
  | inner :: outer =>
    { b with stack := outer }.add (.tree (.element inner.element) inner.children)

/-- Close the innermost elements, `n` of them. -/
def closeMany : Nat → Builder → Builder
  | 0, b => b
  | n + 1, b => closeMany n b.close

/-- Close the innermost element named `tag` and all inside it, if there is one. -/
def closeThrough (b : Builder) (tag : String) : Builder :=
  match b.stack.findIdx? fun inner => inner.element.tag == tag with
  | some depth => b.closeMany (depth + 1)
  | none => b

/-- Complete the start tag that is being read.  A self-closing tag or a void element
has no content. -/
def completeTag (b : Builder) (selfClosing : Bool) : Builder :=
  match b.tag with
  | none => b
  | some tag =>
    let element := (tag.settle "").element
    let b := { b with tag := none }
    if selfClosing || element.isVoid then b.add (.tree (.element element) .nil)
    else { b with stack := ⟨element, .nil⟩ :: b.stack }

/-- One token. -/
def step (b : Builder) : Token → Builder
  | .startTag name => { b with tag := some ⟨{ tag := name }, none⟩ }
  | .attributeName name =>
    { b with tag := b.tag.map fun t => { t.settle "" with waiting := some name } }
  | .attributeValue value => { b with tag := b.tag.map fun t => t.settle value }
  | .startTagEnd selfClosing => b.completeTag selfClosing
  | .endTag name => { b with tag := none }.closeThrough name
  | .text s => if s.isEmpty then b else b.onChildren (appendText s)
  | .comment s => b.add (.tree (.comment s) .nil)

/-- Close what is still open. -/
def finish (b : Builder) : Forest Content := (b.closeMany b.stack.length).top

end Builder

/-- The trees that tokens spell. -/
def build (tokens : List Token) : Forest Content := (tokens.foldl Builder.step {}).finish

/-- The trees of a piece of markup. -/
def parse (markup : String) : Forest Content := build (tokens markup.toList)

end LiveMarkup.Markup
