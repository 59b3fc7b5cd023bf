/-
The elements that markup treats in a special way.
-/

namespace LiveMarkup.Markup

/-- Elements that cannot have children, in lower case. -/
def voidTags : List String :=
  ["area", "base", "br", "col", "embed", "hr", "img", "input", "link", "meta", "param", "source",
    "track", "wbr"]

/-- Whether elements of this tag cannot have children; case does not matter. -/
def isVoid (tag : String) : Bool := voidTags.contains tag.toLower

/-- How the content of an element is read. -/
inductive ContentModel where
  /-- As markup. -/
  | markup
  /-- As text with character references, up to the end tag. -/
  | escapableText
  /-- As a script, up to an end tag that is not escaped. -/
  | script
  deriving DecidableEq, Repr

/-- The content model of a tag in lower case. -/
def contentModel (tag : String) : ContentModel :=
  if tag = "script" ∨ tag = "style" then .script
  else if tag = "textarea" ∨ tag = "title" then .escapableText
  else .markup

end LiveMarkup.Markup
