/-
What a session answers.

Answers speak of nodes by number.  A failure keeps the reason as it was given, together
with the number of the node it is about.
-/
import LiveMarkup.Element.Host

namespace LiveMarkup.Session

/-- Why an action failed. -/
inductive Failure where
  | document (e : DocumentError)
  | template (e : TemplateError)
  | element (e : ElementError)
  deriving DecidableEq, Repr

namespace Failure

/-- The node a failure is about. -/
def node? : Failure → Option NodeId
  | document e => e.node?
  | template e => e.node?
  | element e => e.node?

/-- The wording. -/
def message (label : NodeId → String) : Failure → String
  | document e => e.message label
  | template e => e.message label
  | element e => e.message label

/-- The wordings of the reasons behind it, outermost first. -/
def sources (label : NodeId → String) : Failure → List String
  | document _ => []
  | template e => e.sources label
  | element e => e.sources label

end Failure

/-- How a numbered node is written. -/
def nodeLabel (number : Nat) : String := "#" ++ toString number

/-- A node of a subtree: its depth and number, what it holds, and the number of its own
shadow root. -/
structure Row where
  depth : Nat
  number : Nat
  content : Content
  shadow : Option Nat
  deriving DecidableEq, Repr

/-- The state of a template: the template, the numbers of the nodes of its parts, and that
of the node it was rendered under.  `L` is the type of listeners. -/
structure TemplateView (L : Type) where
  template : Template L String
  partNumbers : List Nat
  mountNumber : Option Nat

/-- The state of a host. -/
structure HostView where
  number : Nat
  connected : Bool
  /-- How often its component rendered, if it counts that. -/
  renders : Option Nat
  /-- The names of its bound attributes. -/
  observed : List String
  deriving DecidableEq, Repr

/-- The answer to an action. -/
inductive Answer (L : Type) where
  | done
  /-- The thing that the action named is not there any longer. -/
  | gone
  | failed (failure : Failure) (number : Option Nat)
  | node (number : Option Nat)
  | nodes (numbers : List Nat)
  | text (s : Option String)
  | flag (b : Bool)
  | count (n : Nat)
  /-- What was there before. -/
  | removed (s : Option String)
  | entries (m : OrderedMap String)
  | content (c : Content)
  | rows (rows : List Row)
  | compiled (markup : String)
  | template (view : TemplateView L)
  | value (v : Value String)
  | values (vs : List (Value String))
  | hosted (host node : Nat)
  | host (view : HostView)

/-- What a dispatch leaves behind, in order. -/
inductive LogEntry (L : Type) where
  /-- A listener was called. -/
  | heard (label kind : String) (target : Nat)
  /-- A handler was called. -/
  | handled (handler kind : String) (target host : Nat)
  /-- An action of a script was answered. -/
  | answered (answer : Answer L)

/-- The answer to an action of the session, with the log if it was a dispatch. -/
structure Reply (L : Type) where
  answer : Answer L
  log : Option (List (LogEntry L)) := none

end LiveMarkup.Session
