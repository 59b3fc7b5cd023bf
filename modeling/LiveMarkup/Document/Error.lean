/-
Why a document refuses an operation.
-/
import LiveMarkup.Document.Content

namespace LiveMarkup

/-- The reasons for which a document refuses an operation. -/
inductive DocumentError where
  /-- The node never existed or was removed. -/
  | unknownNode (node : NodeId)
  /-- The operation needs an element, or a node that can have children. -/
  | notElement (node : NodeId)
  /-- The operation needs a text or a comment. -/
  | notText (node : NodeId)
  /-- A node was to go below itself. -/
  | belowItself
  /-- A node was to go below a node that is below it. -/
  | belowDescendant
  deriving DecidableEq, Repr

namespace DocumentError

/-- The wording, with nodes named by `label`. -/
def message (label : NodeId → String) : DocumentError → String
  | unknownNode node => "unknown node " ++ label node
  | notElement node => "node " ++ label node ++ " is not an element"
  | notText node => "node " ++ label node ++ " does not carry text"
  | belowItself => "tree error: Can not append a node to itself"
  | belowDescendant =>
    "tree error: Can not append a node to, or insert it after, its descendant"

/-- The node an error is about. -/
def node? : DocumentError → Option NodeId
  | unknownNode node | notElement node | notText node => some node
  | belowItself | belowDescendant => none

end DocumentError

end LiveMarkup
