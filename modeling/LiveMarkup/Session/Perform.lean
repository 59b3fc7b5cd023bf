/-
Running a session.

`performWith` performs one action, given how events are dispatched; `dispatchWithin`
dispatches an event, performing the scripts of its listeners, and is the only place
where actions run other actions.  It is bounded by a depth, which a dispatch within a
dispatch uses up, and a run that needs more has no result at all.  The bound is no part
of any answer.
-/
import LiveMarkup.Session.Widget
import LiveMarkup.Template.Inspect
import LiveMarkup.Element.Inspect

namespace LiveMarkup.Session

/-- Answer with nothing if the session gave up what it names. -/
def orGone {α : Type} (found : Option α) (act : α → Run (Answer Listener)) :
    Run (Answer Listener) :=
  match found with
  | some a => act a
  | none => return .gone

/-! ### The document -/

/-- Answer with nodes. -/
def answerNodes (ids : List NodeId) : Run (Answer Listener) := return .nodes (← numbersOf ids)

/-- Answer with a node that may be missing. -/
def answerNode (id : Option NodeId) : Run (Answer Listener) := return .node (← numberOf? id)

/-- Answer with what a result gives, or with its failure. -/
def answerResult {α : Type} (result : Except DocumentError α) (answer : α → Answer Listener) :
    Run (Answer Listener) :=
  match result with
  | .ok a => return answer a
  | .error e => failed (.document e)

/-- The rows of the subtree of a node. -/
def rowsOf (d : Document Listener) (tree : Forest NodeId) : Run (List Row) :=
  (tree.labelsWithDepth 0).mapM fun (depth, id) => do
    let number ← numberOf id
    let shadow ← numberOf? (d.shadowRoot? id)
    return { depth, number, content := d.contentAt id, shadow }

/-- Answer a question about a node of the document. -/
def answerAbout (d : Document Listener) (id : NodeId) : Query → Run (Answer Listener)
  | .contains _ => return .flag (d.contains id)
  | .parent _ => answerNode (d.parent? id)
  | .firstChild _ => answerNode (d.firstChild? id)
  | .lastChild _ => answerNode (d.lastChild? id)
  | .children _ => answerNodes (d.children id)
  | .descendants _ => answerNodes (d.descendants id)
  | .walk _ shown => answerNodes (d.walk id shown)
  | .content _ => answerResult (d.get id) .content
  | .tag _ => return .text (d.tag? id)
  | .text _ => return .text (d.text? id)
  | .attributeValue _ name => return .text (d.attribute? id name)
  | .attributes _ => answerResult (d.attributes id) .entries
  | .propertyValue _ name => return .text (d.property? id name)
  | .shadowRoot _ => answerNode (d.shadowRoot? id)
  | .outerHtml _ => answerResult (d.outerHtml id) fun s => .text (some s)
  | .innerHtml _ => answerResult (d.innerHtml id) fun s => .text (some s)
  | .dump _ =>
    match d.subtree? id with
    | some tree => return .rows (← rowsOf d tree)
    | none => failed (.document (.unknownNode id))
  | .listenerCount _ kind => return .count (d.listenerCount id kind)

/-- The node a question is about. -/
def Query.node : Query → NodeRef
  | contains node | parent node | firstChild node | lastChild node | children node
  | descendants node | walk node _ | content node | tag node | text node
  | attributeValue node _ | attributes node | propertyValue node _ | shadowRoot node
  | outerHtml node | innerHtml node | dump node | listenerCount node _ => node

/-- Answer a question. -/
def answerQuery (scope : Scope) (q : Query) : Run (Answer Listener) := do
  let w ← get
  orGone (q.node.resolve scope w) fun id => answerAbout w.document id q

/-- Put a new document into the world and answer with a node of it. -/
def created (made : Document Listener × NodeId) : Run (Answer Listener) := do
  modify fun w => { w with document := made.1 }
  answerNode made.2

/-- Change the document. -/
def performEdit (scope : Scope) (e : Edit) : Run (Answer Listener) := do
  let w ← get
  let d := w.document
  let on := fun (node : NodeRef) act => orGone (node.resolve scope w) act
  match e with
  | .create content => created (d.create content)
  | .parse markup => created (d.parseFragment markup)
  | .attachShadow node =>
    on node fun id =>
      match d.attachShadow id with
      | .ok made => created made
      | .error e => failed (.document e)
  | .append parent child =>
    on parent fun parent => on child fun child => do
      let attempt := d.append parent child
      set { w with document := attempt.state }
      attempted attempt.stopped .document
  | .remove node => on node fun id => edited (d.remove id)
  | .setText node s => on node fun id => edited (d.setText id s)
  | .setAttribute node name value => on node fun id => edited (d.setAttribute id name value)
  | .removeAttribute node name =>
    on node fun id =>
      match d.removeAttribute id name with
      | .ok document => do
        set { w with document }
        return .removed (d.attribute? id name)
      | .error e => failed (.document e)
  | .setProperty node name value => on node fun id => edited (d.setProperty id name value)

/-! ### Templates -/

/-- Act on a template. -/
def onTemplate (n : Nat) (act : Template Listener String → Run (Answer Listener)) :
    Run (Answer Listener) := do
  orGone ((← get).templates[n]?.join) act

/-- Put back a template and the document. -/
def putTemplate (n : Nat) (state : Template Listener String × Document Listener) : Run Unit :=
  modify fun w =>
    { w with document := state.2, templates := w.templates.setIfInBounds n (some state.1) }

/-- Put back what an attempt on a template reached, and answer it. -/
def attemptTemplate (n : Nat)
    (attempt : Attempt TemplateError (Template Listener String × Document Listener)) :
    Run (Answer Listener) := do
  putTemplate n attempt.state
  attempted attempt.stopped .template

/-- What templates are rendered for in the context numbered `n`. -/
def contextFor (n : Nat) (host : NodeId) : Context Listener String :=
  ⟨host, Listener.bound (.context n)⟩

/-- Perform an action on contexts and templates. -/
def performTemplate (scope : Scope) : TemplateAction → Run (Answer Listener)
  | .newContext node => do
    let w ← get
    orGone (node.resolve scope w) fun id => do
      set { w with contexts := w.contexts.push (some id) }
      return .count w.contexts.size
  | .dropContext n => do
    modify fun w => { w with contexts := w.contexts.setIfInBounds n none }
    return .done
  | .create strings values => do
    let values ← templateValues values
    let w ← get
    set { w with templates := w.templates.push (some (.ofStrings strings values)) }
    return .count w.templates.size
  | .compile n => onTemplate n fun t => do
    let (t, markup) := t.compile
    putTemplate n (t, (← get).document)
    return .compiled markup
  | .materialize n => onTemplate n fun t => do
    let (state, result) := t.materialize (← get).document
    putTemplate n state
    match result with
    | .ok fragment => answerNode fragment
    | .error e => failed (.template e)
  | .render n c mount => onTemplate n fun t => do
    let w ← get
    orGone (w.contexts[c]?.join) fun host =>
      attemptTemplate n
        (t.render w.document (contextFor c host) (mount.bind (·.resolve scope w)))
  | .update n values => onTemplate n fun t => do
    let values ← templateValues values
    attemptTemplate n (t.update (← get).document values)
  | .updateSlots n values changed => onTemplate n fun t => do
    let values ← templateValues values
    attemptTemplate n (t.updateSlots (← get).document values changed)
  | .view n => onTemplate n fun t => do
    let partNumbers ← numbersOf (t.parts.map Part.node)
    let mountNumber ← numberOf? (t.rendered?.map Rendered.mount)
    return .template ⟨t, partNumbers, mountNumber⟩
  | .partText n position values => onTemplate n fun t => do
    let values ← templateValues values
    match t.parts[position]? with
    | some (.content p) => return .text (some (p.render values))
    | _ => return .text none
  | .intoValues n => onTemplate n fun t => do
    modify fun w => { w with templates := w.templates.setIfInBounds n none }
    return .values t.values
  | .inspect n => onTemplate n fun t => return .text (some t.inspect)
  | .inspectPart n position => onTemplate n fun t =>
    orGone t.parts[position]? fun part => do
      let number ← numberOf part.node
      return .text (some (part.inspect fun _ => nodeLabel number))

/-! ### Hosts -/

/-- Act on a host. -/
def onHost (n : Nat) (act : HostEntry → Run (Answer Listener)) : Run (Answer Listener) := do
  orGone ((← get).hosts[n]?.join) act

/-- What the component of a host reads and changes. -/
def HostEntry.progress (entry : HostEntry) (w : World) : Progress :=
  { renders := entry.renders, handlers := w.hostHandlers }

/-- Put back what an attempt on a host reached, and answer it. -/
def attemptHost (n : Nat) (entry : HostEntry)
    (attempt :
      Attempt ElementError (Host Listener String × Document Listener × Progress)) :
    Run (Answer Listener) := do
  let (host, document, progress) := attempt.state
  let entry := { entry with host, renders := progress.renders }
  modify fun w =>
    { w with
      document, hostHandlers := progress.handlers, hosts := w.hosts.setIfInBounds n (some entry) }
  attempted attempt.stopped .element

/-- A slot value handed to a host, and the table of handlers afterwards.  A component without
bound attributes takes no value, so nothing is mentioned to it. -/
def Kind.receive (table : HandlerTable) (v : SlotValue) : Kind → HandlerTable × Value String
  | bare => (table, .undefined)
  | widget _ => v.mention table

/-- Write bound attributes of a new host, in order, up to the first that fails.  A value is
mentioned when its turn comes. -/
def writeAll (kind : Kind) : List (String × SlotValue) →
    Host Listener String × Document Listener × Progress →
      Attempt ElementError (Host Listener String × Document Listener × Progress)
  | [], state => .done state
  | (name, v) :: rest, (h, d, progress) =>
    let (handlers, v) := kind.receive progress.handlers v
    (h.set kind.component d { progress with handlers } name v).andThen (writeAll kind rest)

/-- What a component does with a new host: it writes bound attributes. -/
def writeNew (kind : Kind) (writes : List (String × SlotValue)) (h : Host Listener String)
    (d : Document Listener) (progress : Progress) :
    Attempt ElementError (Document Listener × Progress) :=
  (writeAll kind writes (h, d, progress)).map Prod.snd

/-- Make a host and write what its component writes into a new element. -/
def makeHost (kind : Kind) (writes : List (String × SlotValue)) : Run (Answer Listener) := do
  let w ← get
  let n := w.hosts.size
  let attempt := Host.make kind.component (Listener.bound (.host n)) (writeNew kind writes)
    w.document { handlers := w.hostHandlers }
  let (host, document, progress) := attempt.state
  set { w with document, hostHandlers := progress.handlers }
  match attempt.stopped with
  | some e => failed (.element e)
  | none =>
    modify fun w => { w with hosts := w.hosts.push (some ⟨host, kind, progress.renders⟩) }
    return .hosted n (← numberOf host.node)

/-- Perform an action on hosts. -/
def performHost : HostAction → Run (Answer Listener)
  | .createBare => makeHost .bare []
  | .createWidget strings recipes later writes =>
    makeHost (.widget ⟨strings, recipes, later⟩) writes
  | .get n name => onHost n fun entry => do
    match entry.host.get entry.kind.component (← get).document name with
    | .ok v => return .value v
    | .error e => failed (.element e)
  | .set n name value => onHost n fun entry => do
    let (hostHandlers, v) := entry.kind.receive (← get).hostHandlers value
    modify fun w => { w with hostHandlers }
    let w ← get
    attemptHost n entry
      (entry.host.set entry.kind.component w.document (entry.progress w) name v)
  | .connect n => onHost n fun entry => do
    let w ← get
    attemptHost n entry (entry.host.connect entry.kind.component w.document (entry.progress w))
  | .view n => onHost n fun entry => do
    let renders := match entry.kind with
      | .bare => none
      | .widget _ => some entry.renders
    return .host
      { number := ← numberOf entry.host.node, connected := entry.host.isConnected, renders,
        observed := entry.kind.component.observed }
  | .inspect n => onHost n fun entry => do
    let number ← numberOf entry.host.node
    return .text (some (entry.host.inspect entry.kind.component fun _ => nodeLabel number))
  | .drop n => onHost n fun _ => do
    modify fun w => { w with hosts := w.hosts.setIfInBounds n none }
    return .done

/-! ### Events -/

/-- How an event is dispatched by an action: the number of listeners it reached. -/
abbrev Dispatch := Scope → Event → Run (Except DocumentError Nat)

/-- Perform an action, given how events are dispatched. -/
def performWith (dispatch : Dispatch) (scope : Scope) (action : Action) : Run (Answer Listener) :=
  match action with
  | .query q => answerQuery scope q
  | .edit e => performEdit scope e
  | .listen node kind label script => do
    let w ← get
    orGone (node.resolve scope w) fun id =>
      edited (w.document.addListener id kind (.labelled label script))
  | .dispatch node kind => do
    orGone (node.resolve scope (← get)) fun target => do
      match ← dispatch scope ⟨kind, target⟩ with
      | .ok n => return .count n
      | .error e => failed (.document e)
  | .template a => performTemplate scope a
  | .host a => performHost a

/-- Add to the log. -/
def note (entry : LogEntry Listener) : Run Unit :=
  modify fun w => { w with log := w.log ++ [entry] }

/-- Perform a script, noting every answer. -/
def performScript (dispatch : Dispatch) (scope : Scope) (script : Script) : Run Unit :=
  script.forM fun action => do note (.answered (← performWith dispatch scope action))

/-- The host node of an owner, unless that was given up. -/
def World.hostOf? (w : World) : Owner → Option NodeId
  | .context n => w.contexts[n]?.join
  | .host n => (w.hosts[n]?.join).map fun entry => entry.host.node

/-- The script of a handler bound for an owner. -/
def World.scriptOf (w : World) (name : String) : Owner → Script
  | .context _ => (w.templateHandlers.lookup name).getD []
  | .host _ => (w.hostHandlers.lookup name).getD []

/-- Call a listener.  A handler does nothing if its owner was given up; an owner that is
given up while one of its handlers is running stays until that is done. -/
def call (dispatch : Dispatch) (scope : Scope) (e : Event) : Listener → Run Unit
  | .labelled label script => do
    note (.heard label e.kind (← numberOf e.target))
    performScript dispatch { scope with target := e.target, host := none } script
  | .bound owner name => do
    let w ← get
    match (w.hostOf? owner).or (scope.running.lookup owner) with
    | none => return
    | some host =>
      let target ← numberOf e.target
      note (.handled name e.kind target (← numberOf host))
      let running := (owner, host) :: scope.running
      performScript dispatch { target := e.target, host := host, running } (w.scriptOf name owner)

/-- Dispatch an event, dispatches within dispatches up to the given depth. -/
def dispatchWithin : (depth : Nat) → Dispatch
  | 0, _, _ => failure
  | depth + 1, scope, e =>
    Document.dispatch World.document (call (dispatchWithin depth) scope) e

/-! ### Sessions -/

/-- Whether an action is a dispatch, whose reply carries the log. -/
def Action.isDispatch : Action → Bool
  | dispatch _ _ => true
  | _ => false

/-- Perform an action of the session itself. -/
def reply (depth : Nat) (action : Action) : Run (Reply Listener) := do
  modify fun w => { w with log := [] }
  let answer ← performWith (dispatchWithin depth) {} action
  let log := (← get).log
  return { answer, log := if action.isDispatch then some log else none }

/-- Perform a session from an empty world.  There is no result if dispatches go deeper
than `depth`. -/
def perform (depth : Nat) (actions : List Action) : Option (List (Reply Listener)) :=
  ((actions.mapM (reply depth)).run {}).map Prod.fst

end LiveMarkup.Session
