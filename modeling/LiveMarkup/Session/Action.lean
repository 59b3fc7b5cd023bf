/-
What can be done in a session.

A session is a list of actions on one document.  Nodes are referred to by the number
under which they first showed up in an answer; contexts, templates and hosts by the
order in which they were made.  A handler is known by a name and comes with a script, a
list of actions again, and so does a listener.
-/
import LiveMarkup.Document.Walk
import LiveMarkup.Value

namespace LiveMarkup.Session

/-- How an action refers to a node. -/
inductive NodeRef where
  /-- By its number. -/
  | number (n : Nat)
  /-- The target of the event that runs the script. -/
  | target
  /-- The host of the context for which the handler was bound. -/
  | host
  deriving DecidableEq, Repr

/-- Questions about the document. -/
inductive Query where
  | contains (node : NodeRef)
  | parent (node : NodeRef)
  | firstChild (node : NodeRef)
  | lastChild (node : NodeRef)
  | children (node : NodeRef)
  | descendants (node : NodeRef)
  | walk (node : NodeRef) (shown : Shown)
  | content (node : NodeRef)
  | tag (node : NodeRef)
  | text (node : NodeRef)
  | attributeValue (node : NodeRef) (name : String)
  | attributes (node : NodeRef)
  | propertyValue (node : NodeRef) (name : String)
  | shadowRoot (node : NodeRef)
  | outerHtml (node : NodeRef)
  | innerHtml (node : NodeRef)
  /-- All nodes of a subtree with what they hold. -/
  | dump (node : NodeRef)
  | listenerCount (node : NodeRef) (kind : String)
  deriving DecidableEq, Repr

/-- Changes of the document. -/
inductive Edit where
  /-- Make a detached node. -/
  | create (content : Content)
  | parse (markup : String)
  | attachShadow (node : NodeRef)
  | append (parent child : NodeRef)
  | remove (node : NodeRef)
  | setText (node : NodeRef) (text : String)
  | setAttribute (node : NodeRef) (name value : String)
  | removeAttribute (node : NodeRef) (name : String)
  | setProperty (node : NodeRef) (name value : String)
  deriving DecidableEq, Repr

/-- What a component asks its host for while it renders. -/
inductive Reentry where
  | set
  | connect
  deriving DecidableEq, Repr

mutual

/-- One thing to do. -/
inductive Action where
  | query (q : Query)
  | edit (e : Edit)
  | listen (node : NodeRef) (kind label : String) (script : List Action)
  | dispatch (node : NodeRef) (kind : String)
  | template (a : TemplateAction)
  | host (a : HostAction)

/-- What can be done with contexts and templates. -/
inductive TemplateAction where
  /-- Make a context whose host is the node. -/
  | newContext (node : NodeRef)
  | dropContext (context : Nat)
  /-- Make a template. -/
  | create (strings : List String) (values : List SlotValue)
  | compile (template : Nat)
  | materialize (template : Nat)
  | render (template context : Nat) (mount : Option NodeRef)
  | update (template : Nat) (values : List SlotValue)
  | updateSlots (template : Nat) (values : List SlotValue) (changed : List Nat)
  | view (template : Nat)
  /-- The text that a part would write for the values. -/
  | partText (template position : Nat) (values : List SlotValue)
  /-- Take the values out of a template and give it up. -/
  | intoValues (template : Nat)
  | inspect (template : Nat)
  | inspectPart (template position : Nat)

/-- What can be done with hosts. -/
inductive HostAction where
  /-- Make a host of a component without bound attributes. -/
  | createBare
  /-- Make a host of a component with bound attributes.  The slots of its template are made
  by recipes, other ones perhaps from the second rendering on; `writes` are written into
  the new element. -/
  | createWidget (strings : List String) (recipes : List Recipe) (later : Option (List Recipe))
      (writes : List (String × SlotValue))
  | get (host : Nat) (name : String)
  | set (host : Nat) (name : String) (value : SlotValue)
  | connect (host : Nat)
  | view (host : Nat)
  | inspect (host : Nat)
  | drop (host : Nat)

/-- A slot value as a session writes it. -/
inductive SlotValue where
  | data (v : Value Empty)
  /-- A handler, with the script it runs if this is where its name comes up first. -/
  | handler (name : String) (script : List Action)

/-- How a component makes the value of a slot. -/
inductive Recipe where
  /-- By reading a bound attribute. -/
  | bound (name : String)
  /-- By asking whether the host is connected. -/
  | connected
  /-- By counting its renderings. -/
  | renders
  /-- By asking for another rendering, in the rendering of the given count. -/
  | reenter (reentry : Reentry) (count : Nat)
  | value (v : SlotValue)

end

/-- What a handler or a listener does. -/
abbrev Script := List Action

/-- A component with bound attributes. -/
structure Widget where
  strings : List String
  recipes : List Recipe
  later : Option (List Recipe)

end LiveMarkup.Session
