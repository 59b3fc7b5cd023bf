/-
Templates: static strings with a slot after each.

A template goes through four stages.  Compiling writes the strings with a marker for
each slot; parsing the markup gives a detached fragment; rendering finds the parts in
it, writes them and moves the fragment's nodes to where they belong.  After that the
same nodes are written again by every update.  What an earlier stage produced is kept
and never made twice.
-/
import LiveMarkup.Document.Parse
import LiveMarkup.Document.Tree
import LiveMarkup.Part.Registry

namespace LiveMarkup

/-- A rendered tree. -/
structure Rendered (L H : Type) where
  /-- The parts, in document order. -/
  parts : List Part
  registry : Registry
  /-- The node the tree was rendered under. -/
  mount : NodeId
  /-- What the template was rendered for. -/
  context : Context L H

/-- How far a template has come. -/
inductive Stage (L H : Type) where
  | uncompiled
  | compiled (markup : String)
  | materialized (markup : String) (fragment : NodeId)
  | rendered (markup : String) (tree : Rendered L H)

namespace Stage

variable {L H : Type}

/-- The compiled markup. -/
def markup? : Stage L H → Option String
  | uncompiled => none
  | compiled markup | materialized markup _ | rendered markup _ => some markup

/-- The rendered tree. -/
def rendered? : Stage L H → Option (Rendered L H)
  | rendered _ tree => some tree
  | _ => none

/-- The name of a stage. -/
def name : Stage L H → String
  | uncompiled => "uncompiled"
  | compiled _ => "compiled"
  | materialized _ _ => "materialized"
  | rendered _ _ => "rendered"

end Stage

/-- A template. -/
structure Template (L H : Type) where
  strings : List String
  values : List (Value H)
  /-- The values before the last update. -/
  previous : Option (List (Value H)) := none
  /-- The number of slots, fixed from the start. -/
  slots : Nat
  stage : Stage L H := .uncompiled

namespace Template

variable {L H : Type}

/-- A template of static strings and a value for each slot. -/
def ofStrings (strings : List String) (values : List (Value H)) : Template L H :=
  { strings, values, slots := values.length }

/-- The compiled markup. -/
def markup? (t : Template L H) : Option String := t.stage.markup?

/-- The rendered tree. -/
def rendered? (t : Template L H) : Option (Rendered L H) := t.stage.rendered?

/-- Whether the template was rendered. -/
def isRendered (t : Template L H) : Bool := t.rendered?.isSome

/-- The parts; none before the template is rendered. -/
def parts (t : Template L H) : List Part := (t.rendered?.map Rendered.parts).getD []

/-! ### Compiling -/

/-- How a slot is marked: a value by an inline marker, `undefined` by a comment. -/
def mark (index : Nat) (v : Value H) : String :=
  if v.isUndefined then Marker.encodeAnchor index else Marker.encode index

/-- Static strings, each followed by the mark of its slot if there is one, the first slot
being `index`. -/
def annotateFrom (index : Nat) : List String → List (Value H) → String
  | [], _ => ""
  | s :: strings, [] => s ++ annotateFrom (index + 1) strings []
  | s :: strings, v :: values => s ++ mark index v ++ annotateFrom (index + 1) strings values

/-- The markup of a template. -/
def annotate (strings : List String) (values : List (Value H)) : String :=
  annotateFrom 0 strings values

/-- Compile the template if that was not done; the markup comes with it. -/
def compile (t : Template L H) : Template L H × String :=
  match t.markup? with
  | some markup => (t, markup)
  | none =>
    let markup := annotate t.strings t.values
    ({ t with stage := .compiled markup }, markup)

/-! ### Making the tree -/

/-- Make a fragment of the compiled markup, if that was not done.  A rendered
template has no fragment any longer. -/
def materialize (t : Template L H) (d : Document L) :
    (Template L H × Document L) × Except TemplateError NodeId :=
  let (t, markup) := t.compile
  match t.stage with
  | .materialized _ fragment => ((t, d), .ok fragment)
  | .rendered _ _ => ((t, d), .error .alreadyRendered)
  | .uncompiled | .compiled _ =>
    let (d, fragment) := d.parseFragment markup
    (({ t with stage := .materialized markup fragment }, d), .ok fragment)

/-- Find the parts of `fragment`, note what they read, and write the first values.  The
table is made before anything is written, so a slot stays in it when its attribute becomes
a listener. -/
def bind (context : Context L H) (t : Template L H) (fragment : NodeId) (d : Document L) :
    Attempt TemplateError ((List Part × Registry) × Document L) :=
  match Part.discover d fragment t.slots with
  | .error e => .stop (([], {}), d) e
  | .ok parts =>
    ((Part.updateAll context t.values parts d).mapError .document).map fun (written, d) =>
      ((written, .ofParts parts), d)

/-- Go back to the compiled markup when the tree of a fragment has no use. -/
def discard (t : Template L H) (markup : String) (fragment : NodeId) (d : Document L)
    (e : TemplateError) : Attempt TemplateError (Template L H × Document L) :=
  let t := { t with stage := .compiled markup }
  match d.remove fragment with
  | .ok d => .stop (t, d) e
  | .error e => .stop (t, d) (.document e)

/-- Move the nodes of `fragment` to where a tree under `mount` goes: into the shadow
root of `mount`, where there is one. -/
def attach (mount fragment : NodeId) (d : Document L) : Attempt DocumentError (Document L) :=
  (d.append ((d.shadowRoot? mount).getD mount) fragment).andThen fun d =>
    .ofExcept d (d.remove fragment)

/-- Build the tree, write the first values and attach it under `mount`, or under the host
of the context.  A template is rendered once. -/
def render (t : Template L H) (d : Document L) (context : Context L H) (mount : Option NodeId) :
    Attempt TemplateError (Template L H × Document L) :=
  if t.isRendered then .stop (t, d) .alreadyRendered
  else
    match t.materialize d with
    | (state, .error e) => .stop state e
    | ((t, d), .ok fragment) =>
      let markup := t.compile.2
      let bound := bind context t fragment d
      match bound.stopped with
      | some e => t.discard markup fragment bound.state.2 e
      | none =>
        let ((parts, registry), d) := bound.state
        let mount := mount.getD context.host
        let attached := attach mount fragment d
        match attached.stopped with
        | some e => .stop (t, attached.state) (.document e)
        | none =>
          let tree := { parts, registry, mount, context }
          .done ({ t with stage := .rendered markup tree }, attached.state)

/-! ### Updating -/

/-- Adopt new values and write the parts that `chosen` picks from the registry. -/
def updateWith (chosen : Registry → Nat → Bool) (t : Template L H) (d : Document L)
    (values : List (Value H)) : Attempt TemplateError (Template L H × Document L) :=
  match t.stage with
  | .rendered markup tree =>
    let t := { t with values, previous := some t.values }
    let written :=
      Part.updateChosen tree.context values (chosen tree.registry) 0 tree.parts d
    (written.mapError .document).map fun (parts, d) =>
      ({ t with stage := .rendered markup { tree with parts } }, d)
  | _ => .stop (t, d) .notRendered

/-- Adopt new values and write every part. -/
def update (t : Template L H) (d : Document L) (values : List (Value H)) :
    Attempt TemplateError (Template L H × Document L) :=
  t.updateWith (fun _ _ => true) d values

/-- Adopt new values and write only the parts that read one of the slots `changed`. -/
def updateSlots (t : Template L H) (d : Document L) (values : List (Value H))
    (changed : List Nat) : Attempt TemplateError (Template L H × Document L) :=
  t.updateWith (fun registry => registry.concerns changed) d values

end Template

end LiveMarkup
