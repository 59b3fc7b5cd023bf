/-
From characters to tokens.

The lexer is a machine that takes one character at a time: `step` gives the next state
and the tokens that are complete by now, `finish` the tokens that the end of the input
completes.  So lexing a text in two parts is lexing the first and going on with the
second (`run_append`), and a statement about a piece of markup is a statement about one
run from one state to another.

A character that only tells where something ended is taken again by the state that
comes next; the step of a state calls the step of that one, and the chain is short
enough that no step calls itself.

Nothing is ever an error.  Unfinished tags at the end of the input are dropped,
unfinished comments are kept, and document types are skipped.
-/
import LiveMarkup.Markup.Reference
import LiveMarkup.Markup.Token
import LiveMarkup.Markup.Vocabulary

namespace LiveMarkup.Markup

/-! ### Where the lexer stands -/

/-- How many dashes in a row were just read, as far as it matters. -/
inductive Dashes where
  | zero
  | one
  | more
  deriving DecidableEq, Repr

/-- One dash more. -/
def Dashes.next : Dashes → Dashes
  | zero => one
  | one | more => more

/-- How character data is read. -/
inductive Mode where
  /-- As markup. -/
  | data
  /-- As text with character references, up to the end tag of the given name. -/
  | escapable (tag : String)
  /-- As a script, up to the end tag of the given name. -/
  | script (tag : String)
  /-- As a script inside an opened comment. -/
  | escaped (tag : String) (dashes : Dashes)
  /-- As a script inside a script element inside an opened comment. -/
  | doubled (tag : String) (dashes : Dashes)
  deriving DecidableEq, Repr

/-- The name of the end tag that a mode waits for. -/
def Mode.closer? : Mode → Option String
  | data => none
  | escapable tag | script tag | escaped tag _ | doubled tag _ => some tag

/-- A tag that is being read. -/
structure Tag where
  /-- Whether it is an end tag. -/
  closing : Bool
  name : String
  deriving DecidableEq, Repr

/-- How an attribute value is delimited. -/
inductive Quoting where
  | double
  | single
  | bare
  deriving DecidableEq, Repr

/-- Where the character that a reference stands for goes: to character data, or to the
attribute value read so far. -/
inductive Sink where
  | data (mode : Mode)
  | value (tag : Tag) (quoting : Quoting) (soFar : String)
  deriving DecidableEq, Repr

/-- Where the lexer stands between two characters. -/
inductive State where
  /-- In character data. -/
  | text (mode : Mode)
  /-- After a less-than sign. -/
  | lessThan (mode : Mode)
  /-- After a less-than sign and a slash. -/
  | endTagOpen (mode : Mode)
  /-- In the name of what may be the end tag that the mode waits for. -/
  | closerName (mode : Mode) (letters : String)
  /-- In a script, after a less-than sign, an exclamation mark and perhaps a dash. -/
  | escapeStart (tag : String) (dashed : Bool)
  /-- In an escaped script, in the name of what may be a start tag. -/
  | doubleStart (tag : String) (letters : String)
  /-- In a doubly escaped script, after a less-than sign. -/
  | doubleLess (tag : String)
  /-- In a doubly escaped script, in the name of what may be an end tag. -/
  | doubleEnd (tag : String) (letters : String)
  | tagName (closing : Bool) (name : String)
  | beforeName (tag : Tag)
  | attributeName (tag : Tag) (name : String)
  | afterName (tag : Tag)
  | beforeValue (tag : Tag)
  | value (tag : Tag) (quoting : Quoting) (soFar : String)
  | afterValue (tag : Tag)
  /-- After a slash in a tag. -/
  | selfClosing (tag : Tag)
  /-- After a less-than sign and an exclamation mark, with the characters read since. -/
  | declaration (chars : List Char)
  | documentType
  /-- In a comment that is not one, up to the next greater-than sign. -/
  | bogusComment (text : String)
  | commentStart
  | commentStartDash
  | comment (text : String)
  /-- In a comment, after a less-than sign. -/
  | commentLess (text : String)
  /-- In a comment, after a less-than sign and an exclamation mark. -/
  | commentBang (text : String)
  /-- In a comment, after one dash. -/
  | commentDash (text : String)
  /-- In a comment, after two dashes. -/
  | commentEnd (text : String)
  /-- In a comment, after two dashes and an exclamation mark. -/
  | commentEndBang (text : String)
  /-- After an ampersand. -/
  | ampersand (sink : Sink)
  /-- In a named reference. -/
  | named (sink : Sink) (chars : List Char)
  /-- After an ampersand and a number sign. -/
  | numberSign (sink : Sink)
  /-- After the mark of a hexadecimal reference. -/
  | hexStart (sink : Sink) (mark : Char)
  | decimal (sink : Sink) (number : Nat)
  | hexadecimal (sink : Sink) (number : Nat)
  deriving DecidableEq, Repr

/-- A step: the next state, and the tokens complete by now. -/
abbrev Step := State × List Token

/-- A step with more tokens in front. -/
def Step.after (tokens : List Token) (step : Step) : Step := (step.1, tokens ++ step.2)

/-! ### Characters -/

/-- The blanks that separate the parts of a tag. -/
def isSpace (c : Char) : Bool := c == ' ' || c == '\n' || c == '\t' || c == '\x0c'

/-- The null character is replaced everywhere but in plain character data. -/
def visible (c : Char) : Char := if c = '\x00' then Reference.replacement else c

/-- Names are read in lower case. -/
def nameChar (c : Char) : Char := visible c.toLower

/-- One character of text. -/
def textToken (c : Char) : Token := .text (String.singleton c)

/-! ### Character data -/

/-- One character of character data. -/
def textStep (mode : Mode) (c : Char) : Step :=
  match mode with
  | .data =>
    if c = '&' then (.ampersand (.data mode), [])
    else if c = '<' then (.lessThan mode, [])
    else (.text mode, [textToken c])
  | .escapable _ =>
    if c = '&' then (.ampersand (.data mode), [])
    else if c = '<' then (.lessThan mode, [])
    else (.text mode, [textToken (visible c)])
  | .script _ =>
    if c = '<' then (.lessThan mode, []) else (.text mode, [textToken (visible c)])
  | .escaped tag dashes =>
    if c = '-' then (.text (.escaped tag dashes.next), [textToken c])
    else if c = '<' then (.lessThan (.escaped tag .zero), [])
    else if c = '>' ∧ dashes = .more then (.text (.script tag), [textToken c])
    else (.text (.escaped tag .zero), [textToken (visible c)])
  | .doubled tag dashes =>
    if c = '-' then (.text (.doubled tag dashes.next), [textToken c])
    else if c = '<' then (.doubleLess tag, [textToken c])
    else if c = '>' ∧ dashes = .more then (.text (.script tag), [textToken c])
    else (.text (.doubled tag .zero), [textToken (visible c)])

/-- In an escaped script, in the name of what may be the start tag of a script. -/
def doubleStartStep (tag letters : String) (c : Char) : Step :=
  if c.isAlpha then (.doubleStart tag (letters.push c.toLower), [textToken c])
  else if isSpace c || c == '/' || c == '>' then
    (.text (if letters = "script" then .doubled tag .zero else .escaped tag .zero), [textToken c])
  else textStep (.escaped tag .zero) c

/-- In a doubly escaped script, in the name of what may be the end tag of a script. -/
def doubleEndStep (tag letters : String) (c : Char) : Step :=
  if c.isAlpha then (.doubleEnd tag (letters.push c.toLower), [textToken c])
  else if isSpace c || c == '/' || c == '>' then
    (.text (if letters = "script" then .escaped tag .zero else .doubled tag .zero), [textToken c])
  else textStep (.doubled tag .zero) c

/-- In a doubly escaped script, after a less-than sign. -/
def doubleLessStep (tag : String) (c : Char) : Step :=
  if c = '/' then (.doubleEnd tag "", [textToken c]) else textStep (.doubled tag .zero) c

/-- After the beginning of what may open a comment in a script. -/
def escapeStartStep (tag : String) (dashed : Bool) (c : Char) : Step :=
  if c = '-' then
    (if dashed then .text (.escaped tag .more) else .escapeStart tag true, [textToken c])
  else textStep (.script tag) c

/-! ### Comments -/

/-- In a comment that is not one. -/
def bogusStep (text : String) (c : Char) : Step :=
  if c = '>' then (.text .data, [.comment text]) else (.bogusComment (text.push (visible c)), [])

/-- In a comment. -/
def commentStep (text : String) (c : Char) : Step :=
  if c = '<' then (.commentLess (text.push c), [])
  else if c = '-' then (.commentDash text, [])
  else (.comment (text.push (visible c)), [])

/-- At the beginning of a comment, which may end at once. -/
def commentStartStep (c : Char) : Step :=
  if c = '-' then (.commentStartDash, [])
  else if c = '>' then (.text .data, [.comment ""])
  else commentStep "" c

/-- At the beginning of a comment, after one dash. -/
def commentStartDashStep (c : Char) : Step :=
  if c = '-' then (.commentEnd "", [])
  else if c = '>' then (.text .data, [.comment ""])
  else commentStep "-" c

/-- In a comment, after a less-than sign. -/
def commentLessStep (text : String) (c : Char) : Step :=
  if c = '!' then (.commentBang (text.push c), [])
  else if c = '<' then (.commentLess (text.push c), [])
  else commentStep text c

/-- In a comment, after a less-than sign and an exclamation mark. -/
def commentBangStep (text : String) (c : Char) : Step :=
  if c = '-' then (.commentDash text, []) else commentStep text c

/-- In a comment, after one dash. -/
def commentDashStep (text : String) (c : Char) : Step :=
  if c = '-' then (.commentEnd text, []) else commentStep (text.push '-') c

/-- In a comment, after two dashes. -/
def commentEndStep (text : String) (c : Char) : Step :=
  if c = '>' then (.text .data, [.comment text])
  else if c = '!' then (.commentEndBang text, [])
  else if c = '-' then (.commentEnd (text.push '-'), [])
  else commentStep (text ++ "--") c

/-- In a comment, after two dashes and an exclamation mark. -/
def commentEndBangStep (text : String) (c : Char) : Step :=
  if c = '-' then (.commentDash (text ++ "--!"), [])
  else if c = '>' then (.text .data, [.comment text])
  else commentStep (text ++ "--!") c

/-! ### Declarations -/

/-- What begins a document type, in lower case. -/
def documentTypeName : List Char := ['d', 'o', 'c', 't', 'y', 'p', 'e']

/-- After a less-than sign and an exclamation mark.  What begins neither a comment nor a
document type is a comment that is not one. -/
def declarationStep (chars : List Char) (c : Char) : Step :=
  let all := chars ++ [c]
  if all = ['-', '-'] then (.commentStart, [])
  else if all.map Char.toLower = documentTypeName then (.documentType, [])
  else if all = ['-'] ∨ (all.map Char.toLower).isPrefixOf documentTypeName then
    (.declaration all, [])
  else bogusStep (String.ofList chars) c

/-- In a document type, which ends at the first greater-than sign. -/
def documentTypeStep (c : Char) : Step :=
  if c = '>' then (.text .data, []) else (.documentType, [])

/-! ### Tags -/

/-- How the content of an element is read once its start tag is complete. -/
def Mode.ofTag (tag : String) : Mode :=
  match contentModel tag with
  | .markup => .data
  | .escapableText => .escapable tag
  | .script => .script tag

/-- The token that begins a tag; an end tag has none. -/
def Tag.beginning (tag : Tag) : List Token := if tag.closing then [] else [.startTag tag.name]

/-- The end of a tag. -/
def leaveTag (tag : Tag) (selfClosing : Bool) : Step :=
  if tag.closing then (.text .data, [.endTag tag.name])
  else
    (.text (if selfClosing then .data else .ofTag tag.name), [.startTagEnd selfClosing])

/-- In an attribute name. -/
def attributeNameStep (tag : Tag) (name : String) (c : Char) : Step :=
  if isSpace c then (.afterName tag, [.attributeName name])
  else if c = '/' then (.selfClosing tag, [.attributeName name])
  else if c = '>' then (leaveTag tag false).after [.attributeName name]
  else if c = '=' then (.beforeValue tag, [.attributeName name])
  else (.attributeName tag (name.push (nameChar c)), [])

/-- Before an attribute name; an equals sign here belongs to the name. -/
def beforeNameStep (tag : Tag) (c : Char) : Step :=
  if isSpace c then (.beforeName tag, [])
  else if c = '/' then (.selfClosing tag, [])
  else if c = '>' then leaveTag tag false
  else if c = '=' then (.attributeName tag "=", [])
  else attributeNameStep tag "" c

/-- After an attribute name. -/
def afterNameStep (tag : Tag) (c : Char) : Step :=
  if isSpace c then (.afterName tag, [])
  else if c = '/' then (.selfClosing tag, [])
  else if c = '=' then (.beforeValue tag, [])
  else if c = '>' then leaveTag tag false
  else attributeNameStep tag "" c

/-- After a slash in a tag. -/
def selfClosingStep (tag : Tag) (c : Char) : Step :=
  if c = '>' then leaveTag tag true else beforeNameStep tag c

/-- In an attribute value. -/
def valueStep (tag : Tag) (quoting : Quoting) (soFar : String) (c : Char) : Step :=
  if c = '&' then (.ampersand (.value tag quoting soFar), [])
  else
    match quoting with
    | .double =>
      if c = '"' then (.afterValue tag, [.attributeValue soFar])
      else (.value tag quoting (soFar.push (visible c)), [])
    | .single =>
      if c = '\'' then (.afterValue tag, [.attributeValue soFar])
      else (.value tag quoting (soFar.push (visible c)), [])
    | .bare =>
      if isSpace c then (.beforeName tag, [.attributeValue soFar])
      else if c = '>' then (leaveTag tag false).after [.attributeValue soFar]
      else (.value tag quoting (soFar.push (visible c)), [])

/-- Before an attribute value. -/
def beforeValueStep (tag : Tag) (c : Char) : Step :=
  if isSpace c then (.beforeValue tag, [])
  else if c = '"' then (.value tag .double "", [])
  else if c = '\'' then (.value tag .single "", [])
  else if c = '>' then leaveTag tag false
  else valueStep tag .bare "" c

/-- After a quoted attribute value. -/
def afterValueStep (tag : Tag) (c : Char) : Step :=
  if isSpace c then (.beforeName tag, [])
  else if c = '/' then (.selfClosing tag, [])
  else if c = '>' then leaveTag tag false
  else beforeNameStep tag c

/-- What follows the name of a tag: a blank, a slash or the end of the tag. -/
def afterTagNameStep (tag : Tag) (c : Char) : Step :=
  if c = '/' then (.selfClosing tag, [])
  else if c = '>' then leaveTag tag false
  else (.beforeName tag, [])

/-- In the name of a tag. -/
def tagNameStep (closing : Bool) (name : String) (c : Char) : Step :=
  if isSpace c || c == '/' || c == '>' then
    (afterTagNameStep ⟨closing, name⟩ c).after (Tag.mk closing name).beginning
  else (.tagName closing (name.push (nameChar c)), [])

/-- In the name of what may be the end tag that the mode waits for.  Any other name was
character data after all. -/
def closerNameStep (mode : Mode) (letters : String) (c : Char) : Step :=
  if c.isAlpha then (.closerName mode (letters.push c), [])
  else if (isSpace c || c == '/' || c == '>') && mode.closer? == some letters.toLower then
    afterTagNameStep ⟨true, letters.toLower⟩ c
  else (textStep mode c).after [.text ("</" ++ letters)]

/-- After a less-than sign and a slash. -/
def endTagOpenStep (mode : Mode) (c : Char) : Step :=
  match mode with
  | .data =>
    if c.isAlpha then (.tagName true (String.singleton c.toLower), [])
    else if c = '>' then (.text .data, [])
    else bogusStep "" c
  | _ =>
    if c.isAlpha then (.closerName mode (String.singleton c), [])
    else (textStep mode c).after [.text "</"]

/-- After a less-than sign. -/
def lessThanStep (mode : Mode) (c : Char) : Step :=
  if c = '/' then (.endTagOpen mode, [])
  else
    let asText := (textStep mode c).after [.text "<"]
    match mode with
    | .data =>
      if c = '!' then (.declaration [], [])
      else if c.isAlpha then (.tagName false (String.singleton c.toLower), [])
      else if c = '?' then bogusStep "" c
      else asText
    | .script tag => if c = '!' then (.escapeStart tag false, [.text "<!"]) else asText
    | .escaped tag _ =>
      if c.isAlpha then (doubleStartStep tag "" c).after [.text "<"] else asText
    | .escapable _ | .doubled _ _ => asText

/-! ### Character references -/

/-- Put characters into a sink. -/
def Sink.put (sink : Sink) (chars : String) : Sink × List Token :=
  match sink with
  | .data mode => (.data mode, [.text chars])
  | .value tag quoting soFar => (.value tag quoting (soFar ++ chars), [])

/-- Where the lexer stands once the reference is over. -/
def Sink.state : Sink → State
  | .data mode => .text mode
  | .value tag quoting soFar => .value tag quoting soFar

/-- One character after the reference is over. -/
def Sink.step (sink : Sink) (c : Char) : Step :=
  match sink with
  | .data mode => textStep mode c
  | .value tag quoting soFar => valueStep tag quoting soFar c

/-- Whether the sink is an attribute value. -/
def Sink.isValue : Sink → Bool
  | .data _ => false
  | .value _ _ _ => true

/-- Put characters into a sink, and go on there. -/
def Sink.putAndStay (sink : Sink) (chars : String) : Step :=
  let (sink', tokens) := sink.put chars
  (sink'.state, tokens)

/-- Put characters into a sink, and take the next character there. -/
def Sink.putAndStep (sink : Sink) (chars : String) (c : Char) : Step :=
  let (sink', tokens) := sink.put chars
  (sink'.step c).after tokens

/-- What the characters after an ampersand stand for, given the character that follows
them.  The longest name counts; in an attribute value a name without its semicolon is
no reference if an equals sign, a letter or a digit follows. -/
def settled (sink : Sink) (chars : List Char) (next : Option Char) : String :=
  let literal := String.ofList ('&' :: chars)
  match Reference.longest? chars with
  | none => literal
  | some (name, text) =>
    let rest := chars.drop name.length
    let follows := rest.head?.or next
    if sink.isValue && name.getLast? != some ';' && follows.any (fun c => c == '=' || c.isAlphanum)
    then literal
    else text ++ String.ofList rest

/-- In a named reference, after `chars`. -/
def namedStep (sink : Sink) (chars : List Char) (c : Char) : Step :=
  let all := chars ++ [c]
  if Reference.isBeginning all then
    if c = ';' then sink.putAndStay (settled sink all none) else (.named sink all, [])
  else sink.putAndStep (settled sink chars (some c)) c

/-- After an ampersand. -/
def ampersandStep (sink : Sink) (c : Char) : Step :=
  if c = '#' then (.numberSign sink, [])
  else if c.isAlphanum then namedStep sink [] c
  else sink.putAndStep "&" c

/-- The end of a numeric reference, marked by a semicolon or by any other character. -/
def numberedStep (sink : Sink) (number : Nat) (c : Char) : Step :=
  let text := String.singleton (Reference.numbered number)
  if c = ';' then sink.putAndStay text else sink.putAndStep text c

/-- In a decimal reference. -/
def decimalStep (sink : Sink) (number : Nat) (c : Char) : Step :=
  match Reference.decimalValue? c with
  | some d => (.decimal sink (10 * number + d), [])
  | none => numberedStep sink number c

/-- In a hexadecimal reference. -/
def hexadecimalStep (sink : Sink) (number : Nat) (c : Char) : Step :=
  match Reference.hexValue? c with
  | some d => (.hexadecimal sink (16 * number + d), [])
  | none => numberedStep sink number c

/-- After the mark of a hexadecimal reference. -/
def hexStartStep (sink : Sink) (mark : Char) (c : Char) : Step :=
  match Reference.hexValue? c with
  | some d => (.hexadecimal sink d, [])
  | none => sink.putAndStep (String.ofList ['&', '#', mark]) c

/-- After an ampersand and a number sign. -/
def numberSignStep (sink : Sink) (c : Char) : Step :=
  if c = 'x' ∨ c = 'X' then (.hexStart sink c, [])
  else
    match Reference.decimalValue? c with
    | some d => (.decimal sink d, [])
    | none => sink.putAndStep "&#" c

/-! ### The machine -/

/-- One character. -/
def State.step : State → Char → Step
  | .text mode => textStep mode
  | .lessThan mode => lessThanStep mode
  | .endTagOpen mode => endTagOpenStep mode
  | .closerName mode letters => closerNameStep mode letters
  | .escapeStart tag dashed => escapeStartStep tag dashed
  | .doubleStart tag letters => doubleStartStep tag letters
  | .doubleLess tag => doubleLessStep tag
  | .doubleEnd tag letters => doubleEndStep tag letters
  | .tagName closing name => tagNameStep closing name
  | .beforeName tag => beforeNameStep tag
  | .attributeName tag name => attributeNameStep tag name
  | .afterName tag => afterNameStep tag
  | .beforeValue tag => beforeValueStep tag
  | .value tag quoting soFar => valueStep tag quoting soFar
  | .afterValue tag => afterValueStep tag
  | .selfClosing tag => selfClosingStep tag
  | .declaration chars => declarationStep chars
  | .documentType => documentTypeStep
  | .bogusComment body => bogusStep body
  | .commentStart => commentStartStep
  | .commentStartDash => commentStartDashStep
  | .comment body => commentStep body
  | .commentLess body => commentLessStep body
  | .commentBang body => commentBangStep body
  | .commentDash body => commentDashStep body
  | .commentEnd body => commentEndStep body
  | .commentEndBang body => commentEndBangStep body
  | .ampersand sink => ampersandStep sink
  | .named sink chars => namedStep sink chars
  | .numberSign sink => numberSignStep sink
  | .hexStart sink mark => hexStartStep sink mark
  | .decimal sink number => decimalStep sink number
  | .hexadecimal sink number => hexadecimalStep sink number

/-- The tokens that the end of the input completes. -/
def State.finish : State → List Token
  | .lessThan _ => [.text "<"]
  | .endTagOpen _ => [.text "</"]
  | .closerName _ letters => [.text ("</" ++ letters)]
  | .declaration chars => [.comment (String.ofList chars)]
  | .commentStart | .commentStartDash => [.comment ""]
  | .bogusComment body | .comment body | .commentLess body | .commentBang body
  | .commentDash body | .commentEnd body | .commentEndBang body => [.comment body]
  | .ampersand sink => (sink.put "&").2
  | .named sink chars => (sink.put (settled sink chars none)).2
  | .numberSign sink => (sink.put "&#").2
  | .hexStart sink mark => (sink.put (String.ofList ['&', '#', mark])).2
  | .decimal sink number | .hexadecimal sink number =>
    (sink.put (String.singleton (Reference.numbered number))).2
  | .text _ | .escapeStart _ _ | .doubleStart _ _ | .doubleLess _ | .doubleEnd _ _ | .tagName _ _
  | .beforeName _ | .attributeName _ _ | .afterName _ | .beforeValue _ | .value _ _ _
  | .afterValue _ | .selfClosing _ | .documentType => []

/-- Take characters one after the other. -/
def State.run (s : State) : List Char → Step
  | [] => (s, [])
  | c :: cs => ((s.step c).1.run cs).after (s.step c).2

/-- Taking a text in two parts. -/
theorem State.run_append (s : State) (cs ds : List Char) :
    s.run (cs ++ ds) = ((s.run cs).1.run ds).after (s.run cs).2 := by
  induction cs generalizing s with
  | nil => simp [State.run, Step.after]
  | cons c cs ih => simp [State.run, ih, Step.after, List.append_assoc]

/-! ### Tokens of a text -/

/-- Every line ends in a line feed, however it was written. -/
def normalizeLines : List Char → List Char
  | [] => []
  | '\r' :: '\n' :: cs => '\n' :: normalizeLines cs
  | '\r' :: cs => '\n' :: normalizeLines cs
  | c :: cs => c :: normalizeLines cs

/-- The tokens of a text. -/
def tokens (markup : List Char) : List Token :=
  let (state, out) := (State.text .data).run (normalizeLines markup)
  out ++ state.finish

end LiveMarkup.Markup
