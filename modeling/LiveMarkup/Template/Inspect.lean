/-
Templates and their parts as they are shown for inspection.
-/
import LiveMarkup.Template
import LiveMarkup.Text.Record
import LiveMarkup.Value.Inspect

namespace LiveMarkup

open Text

/-- Slot indices. -/
def inspectIndices (indices : List Nat) : String := Record.list (indices.map fun n => toString n)

/-- A bound attribute. -/
def Binding.inspect (b : Binding) : String :=
  Record.record "AttributeBinding"
    [Record.field "base" (Quoted.encode b.base), Record.field "indices" (inspectIndices b.indices),
      Record.field "clean_name" (Quoted.encode b.cleanName),
      Record.field "property" (Value.displayBool b.isProperty)]

/-- A part of a rendered template, with nodes named by `label`. -/
def Part.inspect (label : NodeId → String) : Part → String
  | .content p =>
    let inner :=
      Record.record "ContentPart"
        [Record.field "node" (label p.node), Record.field "base" (Quoted.encode p.base),
          Record.field "indices" (inspectIndices p.indices)]
    "Content(" ++ inner ++ ")"
  | .attributes p =>
    let inner :=
      Record.record "AttributePart"
        [Record.field "element" (label p.element),
          Record.field "bindings"
            (Record.map (p.bindings.entries.map fun entry => (entry.1, entry.2.inspect))),
          Record.field "initialized" (Value.displayBool true)]
    "Attribute(" ++ inner ++ ")"

/-- A template. -/
def Template.inspect {L H : Type} (t : Template L H) : String :=
  Record.openRecord "Template"
    [Record.field "stage" (Quoted.encode t.stage.name),
      Record.field "strings" (Record.list (t.strings.map Quoted.encode)),
      Record.field "values" (Record.list (t.values.map Value.inspect))]

end LiveMarkup
