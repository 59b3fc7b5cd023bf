/-
Events and their listeners.

An event goes to its target and then to each ancestor.  The listeners it reaches are
listed before the first of them runs, so nothing that a listener does changes who hears
this event.
-/
import LiveMarkup.Document.Basic

namespace LiveMarkup

/-- An event of some kind, aimed at a node. -/
structure Event where
  kind : String
  target : NodeId
  deriving DecidableEq, Repr

namespace Document

variable {L : Type}

/-- The listeners of a node for one kind of event, in order of registration. -/
def listenersFor (d : Document L) (id : NodeId) (kind : String) : List L :=
  match d.record? id with
  | none => []
  | some r => (r.listeners.filter (·.kind == kind)).map Registration.listener

/-- How many listeners a node has for one kind of event. -/
def listenerCount (d : Document L) (id : NodeId) (kind : String) : Nat :=
  (d.listenersFor id kind).length

/-- Add a listener; adding one twice makes it run twice. -/
def addListener (d : Document L) (id : NodeId) (kind : String) (listener : L) :
    Except DocumentError (Document L) :=
  (d.get id).map fun _ =>
    d.modifyRecord id fun r => { r with listeners := r.listeners ++ [⟨kind, listener⟩] }

/-- The listeners an event reaches, in the order in which they run. -/
def audience (d : Document L) (e : Event) : Except DocumentError (List L) :=
  (d.get e.target).map fun _ =>
    (d.ancestors e.target).flatMap fun id => d.listenersFor id e.kind

/-- Dispatch an event in the document of a larger state, given how a listener is called: the
number of listeners called.  A call may change the state as it likes, and may come to no end. -/
def dispatch {W : Type} (document : W → Document L) (call : Event → L → StateT W Option Unit)
    (e : Event) : StateT W Option (Except DocumentError Nat) := do
  match (document (← getThe W)).audience e with
  | .error reason => return .error reason
  | .ok listeners =>
    listeners.forM (call e)
    return .ok listeners.length

end Document

end LiveMarkup
