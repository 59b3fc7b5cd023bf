/-
Why a template cannot be compiled, rendered or updated.
-/
import LiveMarkup.Document.Error
import LiveMarkup.Marker

namespace LiveMarkup

/-- The reasons for which a template refuses an operation. -/
inductive TemplateError where
  /-- The document refused. -/
  | document (e : DocumentError)
  /-- A marker-shaped token without an index. -/
  | malformedMarker (token : String)
  /-- A marker for a slot that the template does not have. -/
  | slotOutOfRange (index slots : Nat)
  /-- The template was not rendered yet. -/
  | notRendered
  /-- The template was rendered already. -/
  | alreadyRendered
  deriving DecidableEq, Repr

namespace TemplateError

/-- A marker that is not well formed, as a reason. -/
def ofMalformed (e : Marker.Malformed) : TemplateError := malformedMarker e.token

/-- The wording, with nodes named by `label`. -/
def message (label : NodeId → String) : TemplateError → String
  | document e => "document error: " ++ e.message label
  | malformedMarker token => "malformed marker \x60" ++ token ++ "\x60 in template"
  | slotOutOfRange index slots =>
    "marker for slot " ++ toString index ++ " but template has " ++ toString slots ++ " slots"
  | notRendered => "template updated before first render"
  | alreadyRendered => "template already rendered"

/-- The wordings of the reasons behind the reason, outermost first. -/
def sources (label : NodeId → String) : TemplateError → List String
  | document e => [e.message label]
  | _ => []

/-- The node a reason is about. -/
def node? : TemplateError → Option NodeId
  | document e => e.node?
  | _ => none

end TemplateError

end LiveMarkup
