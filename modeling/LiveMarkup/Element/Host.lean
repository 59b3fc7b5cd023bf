/-
Components and their hosts.

A component names a tag and the attributes it binds, and says how to build a template
from what its host shows.  A host is an element that a component renders into: once
connected, every write to a bound attribute builds the template again and hands its
values to the one that is already there.

While the template is being built or written it is in use.  Whoever asks the host for
another rendering then is refused; reading is allowed.
-/
import LiveMarkup.Element.Coercion
import LiveMarkup.Element.Error
import LiveMarkup.Template

namespace LiveMarkup

/-- An attribute that a component binds. -/
structure BoundAttribute where
  name : String
  coercion : Coercion
  deriving DecidableEq, Repr

/-- The template of a host. -/
inductive Attachment (L H : Type) where
  | unconnected
  | connected (t : Template L H)
  /-- Being built or written right now. -/
  | inUse

/-- An element that a component renders into. -/
structure Host (L H : Type) where
  node : NodeId
  /-- How a handler of this host becomes a listener. -/
  listener : H → L
  attachment : Attachment L H := .unconnected

/-- What renders into hosts.  Both functions may read and change a state `σ` of the
component's own. -/
structure Component (L H σ : Type) where
  /-- The tag of the host element. -/
  tag : String
  /-- The attributes that are bound. -/
  bound : List BoundAttribute := []
  /-- Build the template for what the host shows. -/
  render : Host L H → Document L → σ → Except ElementError (Template L H) × σ

namespace Component

variable {L H σ : Type}

/-- The names of the bound attributes. -/
def observed (c : Component L H σ) : List String := c.bound.map BoundAttribute.name

/-- The bound attribute of a name. -/
def boundNamed (c : Component L H σ) (name : String) : Except ElementError BoundAttribute :=
  match c.bound.find? (·.name == name) with
  | some b => .ok b
  | none => .error (.unknownAttribute name)

end Component

namespace Host

variable {L H σ : Type}

/-- Whether the host has a template; one that is in use counts. -/
def isConnected (h : Host L H) : Bool :=
  match h.attachment with
  | .unconnected => false
  | .connected _ | .inUse => true

/-- What templates of the host are rendered for. -/
def context (h : Host L H) : Context L H := ⟨h.node, h.listener⟩

/-- Make the host element of a component, detached. -/
def create (c : Component L H σ) (listener : H → L) (d : Document L) : Host L H × Document L :=
  let (d, node) := d.create (.element { tag := c.tag })
  ({ node, listener }, d)

/-- Make the host of a component and let `created` work on its element.  A host that is refused
there is not handed out. -/
def make (c : Component L H σ) (listener : H → L)
    (created : Host L H → Document L → σ → Attempt ElementError (Document L × σ))
    (d : Document L) (s : σ) : Attempt ElementError (Host L H × Document L × σ) :=
  let (host, d) := create c listener d
  (created host d s).map fun (d, s) => (host, d, s)

/-- Read a bound attribute. -/
def get (c : Component L H σ) (h : Host L H) (d : Document L) (name : String) :
    Except ElementError (Value H) :=
  (c.boundNamed name).map fun b => b.coercion.apply (d.attribute? h.node name)

/-- Write a bound attribute: a truthy value as its display text, a falsy one by taking the
attribute out. -/
def write (c : Component L H σ) (h : Host L H) (d : Document L) (name : String) (v : Value H) :
    Except ElementError (Document L) :=
  (c.boundNamed name).bind fun _ =>
    let written :=
      if v.isTruthy then d.setAttribute h.node name v.display else d.removeAttribute h.node name
    written.mapError .document

/-- Build the template again and hand its values to the one that is there, `t`. -/
def refresh (c : Component L H σ) (h : Host L H) (t : Template L H) (d : Document L) (s : σ) :
    Attempt ElementError (Host L H × Document L × σ) :=
  match c.render { h with attachment := .inUse } d s with
  | (.error e, s) => .stop (h, d, s) e
  | (.ok fresh, s) =>
    ((t.update d fresh.values).mapError .template).map fun (t, d) =>
      ({ h with attachment := .connected t }, d, s)

/-- Write a bound attribute and render again if the host is connected. -/
def set (c : Component L H σ) (h : Host L H) (d : Document L) (s : σ) (name : String)
    (v : Value H) : Attempt ElementError (Host L H × Document L × σ) :=
  match write c h d name v with
  | .error e => .stop (h, d, s) e
  | .ok d =>
    match h.attachment with
    | .inUse => .stop (h, d, s) .reentrant
    | .unconnected => .done (h, d, s)
    | .connected t => refresh c h t d s

/-- Give the host its template, for good. -/
def connect (c : Component L H σ) (h : Host L H) (d : Document L) (s : σ) :
    Attempt ElementError (Host L H × Document L × σ) :=
  match h.attachment with
  | .inUse => .stop (h, d, s) .reentrant
  | .connected _ => .stop (h, d, s) .alreadyConnected
  | .unconnected =>
    match c.render { h with attachment := .inUse } d s with
    | (.error e, s) => .stop (h, d, s) e
    | (.ok t, s) =>
      let rendered := t.render d h.context none
      match rendered.stopped with
      | some e => .stop (h, rendered.state.2, s) (.template e)
      | none => .done ({ h with attachment := .connected rendered.state.1 }, rendered.state.2, s)

end Host

end LiveMarkup
