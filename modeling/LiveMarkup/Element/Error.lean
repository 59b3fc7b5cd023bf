/-
Why a host refuses an operation.
-/
import LiveMarkup.Part.Error

namespace LiveMarkup

/-- The reasons for which a host refuses an operation. -/
inductive ElementError where
  /-- The component does not bind the attribute. -/
  | unknownAttribute (name : String)
  /-- The host was connected already. -/
  | alreadyConnected
  /-- Another rendering was asked for while one was under way. -/
  | reentrant
  /-- The template refused. -/
  | template (e : TemplateError)
  /-- The document refused. -/
  | document (e : DocumentError)
  deriving DecidableEq, Repr

namespace ElementError

/-- The wording, with nodes named by `label`. -/
def message (label : NodeId → String) : ElementError → String
  | unknownAttribute name => "\x60" ++ name ++ "\x60 is not a bound attribute"
  | alreadyConnected => "element already connected"
  | reentrant => "element re-rendered while rendering"
  | template e => "template error: " ++ e.message label
  | document e => "document error: " ++ e.message label

/-- The wordings of the reasons behind the reason, outermost first. -/
def sources (label : NodeId → String) : ElementError → List String
  | template e => e.message label :: e.sources label
  | document e => [e.message label]
  | unknownAttribute _ | alreadyConnected | reentrant => []

/-- The node a reason is about. -/
def node? : ElementError → Option NodeId
  | template e => e.node?
  | document e => e.node?
  | unknownAttribute _ | alreadyConnected | reentrant => none

end ElementError

end LiveMarkup
