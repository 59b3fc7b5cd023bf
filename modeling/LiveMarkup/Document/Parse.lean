/-
Markup read into a document.
-/
import LiveMarkup.Document.Basic
import LiveMarkup.Markup.Fragment

namespace LiveMarkup.Document

variable {L : Type}

/-- Put what a piece of markup says into a fragment of its own. -/
def parseFragment (d : Document L) (markup : String) : Document L × NodeId :=
  (d.plant (.tree .fragment (Markup.parse markup)), d.nextId)

end LiveMarkup.Document
