/-
Hosts as they are shown for inspection.
-/
import LiveMarkup.Element.Host
import LiveMarkup.Text.Record

namespace LiveMarkup

open Text

/-- A host, with nodes named by `label`. -/
def Host.inspect {L H σ : Type} (c : Component L H σ) (h : Host L H) (label : NodeId → String) :
    String :=
  Record.openRecord "Host"
    [Record.field "tag" (Quoted.encode c.tag), Record.field "node" (label h.node),
      Record.field "connected" (Value.displayBool h.isConnected)]

end LiveMarkup
