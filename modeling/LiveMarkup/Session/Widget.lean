/-
The components of a session.
-/
import LiveMarkup.Session.World

namespace LiveMarkup.Session

/-- A component without bound attributes. -/
def bare : Component Listener String Progress where
  tag := "x-bare"
  render _ _ progress := (.ok (.ofStrings ["<p>bare</p>"] []), progress)

/-- The attributes a widget binds. -/
def widgetAttributes : List BoundAttribute :=
  [⟨"label", .text⟩, ⟨"title", .text⟩, ⟨"count", .number⟩, ⟨"open", .boolean⟩, ⟨"Mixed", .text⟩]

/-- A document in which one node is live, an element. -/
def scratch (node : NodeId) (tag : String) : Document Listener where
  forest := .tree node .nil
  records := Array.replicate (node.index + 1) { content := .element { tag }, seat := node }

/-- A component that binds what a widget binds and never renders anything. -/
def unrendered : Component Listener String Progress where
  tag := "x-widget"
  bound := widgetAttributes
  render _ _ progress := (.error .reentrant, progress)

/-- Ask a host for another rendering, on a document of its own. -/
def reenter (h : Host Listener String) (progress : Progress) (reentry : Reentry) :
    Option ElementError :=
  let d := scratch h.node unrendered.tag
  match reentry with
  | .set => (h.set unrendered d progress "label" (.text "x")).stopped
  | .connect => (h.connect unrendered d progress).stopped

/-- The value a recipe makes, and the table of handlers afterwards. -/
def Recipe.make (h : Host Listener String) (d : Document Listener) (progress : Progress) :
    Recipe → Except ElementError (HandlerTable × Value String)
  | bound name => (h.get unrendered d name).map fun v => (progress.handlers, v)
  | connected => .ok (progress.handlers, .bool h.isConnected)
  | renders => .ok (progress.handlers, .int (Int64.ofNat progress.renders))
  | reenter reentry count =>
    match if progress.renders = count then Session.reenter h progress reentry else none with
    | some e => .error e
    | none => .ok (progress.handlers, .text "")
  | value v => .ok (v.mention progress.handlers)

/-- The values that recipes make, in order, up to the first that fails. -/
def makeAll (h : Host Listener String) (d : Document Listener) (progress : Progress) :
    List Recipe → Except ElementError (List (Value String)) × Progress
  | [] => (.ok [], progress)
  | recipe :: rest =>
    match recipe.make h d progress with
    | .error e => (.error e, progress)
    | .ok (handlers, v) =>
      let (made, progress) := makeAll h d { progress with handlers } rest
      (made.map (v :: ·), progress)

/-- The component of a widget.  It counts its renderings. -/
def Widget.component (widget : Widget) : Component Listener String Progress where
  tag := unrendered.tag
  bound := unrendered.bound
  render h d progress :=
    let progress := { progress with renders := progress.renders + 1 }
    let recipes :=
      if progress.renders = 1 then widget.recipes else widget.later.getD widget.recipes
    let (made, progress) := makeAll h d progress recipes
    (made.map (Template.ofStrings widget.strings), progress)

/-- The component of a host. -/
def Kind.component : Kind → Component Listener String Progress
  | bare => Session.bare
  | widget w => w.component

end LiveMarkup.Session
