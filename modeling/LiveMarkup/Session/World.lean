/-
What a session works on.

A world is the document and all that was made beside it.  Contexts, templates and hosts
that were given up leave a hole, so that the others keep their numbers.  Names of
handlers are looked up in one of two tables, one for all templates and one for all
hosts; the first script that comes with a name stays.
-/
import LiveMarkup.Session.Action
import LiveMarkup.Session.Answer

namespace LiveMarkup.Session

/-- What a handler was bound for. -/
inductive Owner where
  | context (n : Nat)
  | host (n : Nat)
  deriving DecidableEq, Repr

/-- A listener of the document. -/
inductive Listener where
  /-- One that notes its label and runs its script. -/
  | labelled (label : String) (script : Script)
  /-- A handler by name. -/
  | bound (owner : Owner) (handler : String)

/-- Scripts of handlers by name. -/
abbrev HandlerTable := List (String × Script)

/-- Keep the script of a handler whose name comes up for the first time. -/
def HandlerTable.mention (table : HandlerTable) (name : String) (script : Script) :
    HandlerTable :=
  if (table.lookup name).isSome then table else table ++ [(name, script)]

/-- What the component of a host reads and changes: how often it rendered, and the table
of handlers. -/
structure Progress where
  renders : Nat := 0
  handlers : HandlerTable := []

/-- A component of the session. -/
inductive Kind where
  | bare
  | widget (w : Widget)

/-- A host of the session. -/
structure HostEntry where
  host : Host Listener String
  kind : Kind
  renders : Nat

/-- What a session works on. -/
structure World where
  document : Document Listener := {}
  /-- The nodes that showed up in answers, in order. -/
  mentioned : Array NodeId := #[]
  /-- The hosts of the contexts. -/
  contexts : Array (Option NodeId) := #[]
  templates : Array (Option (Template Listener String)) := #[]
  hosts : Array (Option HostEntry) := #[]
  templateHandlers : HandlerTable := []
  hostHandlers : HandlerTable := []
  /-- The log of the dispatch that is under way. -/
  log : List (LogEntry Listener) := []

/-- What surrounds an action: the nodes it can refer to besides the numbered ones, and
the owners of the handlers that are running, with their host nodes. -/
structure Scope where
  target : Option NodeId := none
  host : Option NodeId := none
  running : List (Owner × NodeId) := []
  deriving DecidableEq, Repr

/-- A computation on a world that comes to no end if scripts run each other too deeply. -/
abbrev Run := StateT World Option

/-! ### Numbers of nodes -/

/-- The number of a node, the next free one if it has none yet. -/
def numberOf (id : NodeId) : Run Nat := do
  let w ← get
  match w.mentioned.idxOf? id with
  | some n => return n
  | none =>
    set { w with mentioned := w.mentioned.push id }
    return w.mentioned.size

/-- The numbers of several nodes, in order. -/
def numbersOf (ids : List NodeId) : Run (List Nat) := ids.mapM numberOf

/-- The number of a node that may be missing. -/
def numberOf? (id : Option NodeId) : Run (Option Nat) := id.mapM numberOf

/-- The node a reference means. -/
def NodeRef.resolve (scope : Scope) (w : World) : NodeRef → Option NodeId
  | number n => w.mentioned[n]?
  | target => scope.target
  | host => scope.host

/-! ### Answers -/

/-- Answer with a failure. -/
def failed (failure : Failure) : Run (Answer Listener) := do
  return .failed failure (← numberOf? failure.node?)

/-- Answer a change of the document that was made or refused. -/
def edited (result : Except DocumentError (Document Listener)) : Run (Answer Listener) := do
  match result with
  | .ok document =>
    modify fun w => { w with document }
    return .done
  | .error e => failed (.document e)

/-- Answer an attempt whose state was put into the world already. -/
def attempted {ε : Type} (stopped : Option ε) (reason : ε → Failure) : Run (Answer Listener) :=
  match stopped with
  | none => return .done
  | some e => failed (reason e)

/-! ### Slot values -/

/-- A slot value, and the table of handlers after its mention. -/
def SlotValue.mention (table : HandlerTable) : SlotValue → HandlerTable × Value String
  | data v => (table, v.mapHandler Empty.elim)
  | handler name script => (table.mention name script, .handler name)

/-- Slot values, and the table of handlers after their mention, in order. -/
def mentionAll (table : HandlerTable) : List SlotValue → HandlerTable × List (Value String)
  | [] => (table, [])
  | v :: rest =>
    let (table, value) := v.mention table
    let (table, values) := mentionAll table rest
    (table, value :: values)

/-- Slot values of a template. -/
def templateValues (values : List SlotValue) : Run (List (Value String)) := do
  let w ← get
  let (templateHandlers, values) := mentionAll w.templateHandlers values
  set { w with templateHandlers }
  return values

end LiveMarkup.Session
