/-
The tokens of markup.

A start tag comes in parts, its attributes between its beginning and its end, so that
they keep the order in which they were written.  Text may come in any number of
pieces.
-/

namespace LiveMarkup.Markup

/-- A token of markup. -/
inductive Token where
  /-- The beginning of a start tag. -/
  | startTag (tag : String)
  /-- The name of an attribute; its value follows if it was written. -/
  | attributeName (name : String)
  | attributeValue (value : String)
  /-- The end of a start tag. -/
  | startTagEnd (selfClosing : Bool)
  /-- An end tag; the attributes it may carry come before it. -/
  | endTag (tag : String)
  | text (s : String)
  | comment (s : String)
  deriving DecidableEq, Repr

end LiveMarkup.Markup
