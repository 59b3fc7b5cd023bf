/-
Trees written as markup.

Text has three characters escaped, attribute values two, comments none.  A fragment
or a shadow root is written as its children are, and a void element without content and
without an end tag.  Properties and shadow roots of elements are not written.
-/
import LiveMarkup.Document.Content
import LiveMarkup.Forest

namespace LiveMarkup.Markup

/-- How a character is written in text. -/
def escapeTextChar : Char → List Char
  | '&' => ['&', 'a', 'm', 'p', ';']
  | '<' => ['&', 'l', 't', ';']
  | '>' => ['&', 'g', 't', ';']
  | c => [c]

/-- How a character is written in an attribute value. -/
def escapeValueChar : Char → List Char
  | '&' => ['&', 'a', 'm', 'p', ';']
  | '"' => ['&', 'q', 'u', 'o', 't', ';']
  | c => [c]

/-- Text as it is written. -/
def escapeText (s : String) : String := String.ofList (s.toList.flatMap escapeTextChar)

/-- An attribute value as it is written between quotes. -/
def escapeValue (s : String) : String := String.ofList (s.toList.flatMap escapeValueChar)

/-- An attribute with a blank in front. -/
def attributeHtml (entry : String × String) : String :=
  " " ++ entry.1 ++ "=\"" ++ escapeValue entry.2 ++ "\""

/-- The start tag of an element. -/
def startTagHtml (e : Element) : String :=
  "<" ++ e.tag ++ String.join (e.attributes.entries.map attributeHtml) ++ ">"

/-- The end tag of an element. -/
def endTagHtml (e : Element) : String := "</" ++ e.tag ++ ">"

/-- The markup of a node, given that of its children. -/
def nodeHtml (inner : String) : Content → String
  | .text s => escapeText s
  | .comment s => "<!--" ++ s ++ "-->"
  | .fragment | .shadowRoot => inner
  | .element e => if e.isVoid then startTagHtml e else startTagHtml e ++ inner ++ endTagHtml e

/-- The markup of trees. -/
def html : Forest Content → String
  | .nil => ""
  | .node c kids rest => nodeHtml (html kids) c ++ html rest

end LiveMarkup.Markup
