/-
How the lexer reads written markup.

What is written is read in pieces, each from the state in which the one before it ended:
the characters of a name, a character reference, a value between quotes, a comment, a tag.
Each piece has one lemma here that says where the lexer stands afterwards and which tokens
it gave (`State.run_trans` puts two of them together).

Names and comments are not escaped when they are written, so they are only read as they
were if nothing in them has a meaning of its own: `TagName`, `AttributeName` and
`Readable` say when.
-/
import LiveMarkup.Markup.Html
import LiveMarkup.Proofs.Markup.Reference
import LiveMarkup.Proofs.Markup.Spelling
import Mathlib

namespace LiveMarkup.Markup

variable {s s' s'' : State} {c : Char} {cs ds : List Char} {ts us : List Token}

/-! ### Pieces put together -/

theorem State.run_trans (h : s.run cs = (s', ts)) (h' : s'.run ds = (s'', us)) :
    s.run (cs ++ ds) = (s'', ts ++ us) := by
  rw [State.run_append, h, h']
  rfl

/-- A character that completes no token. -/
theorem State.run_cons (h : s.step c = (s', [])) (h' : s'.run cs = (s'', ts)) :
    s.run (c :: cs) = (s'', ts) := by
  rw [State.run, h, h']
  rfl

theorem State.run_one (h : s.step c = (s', ts)) : s.run [c] = (s', ts) := by
  simp [State.run, h, Step.after]

/-- Characters that are kept one by one, however each of them is written. -/
theorem State.run_flatMap (f : String → State) (write : Char → List Char)
    (hone : ∀ t, ∀ c ∈ cs, (f t).run (write c) = (f (t.push c), [])) (t : String) :
    (f t).run (cs.flatMap write) = (f (t ++ String.ofList cs), []) := by
  induction cs generalizing t with
  | nil => simp [State.run]
  | cons c cs ih =>
    have hrest := ih (fun t c hc => hone t c (List.mem_cons_of_mem _ hc)) (t.push c)
    have hall : t.push c ++ String.ofList cs = t ++ String.ofList (c :: cs) := by
      simp [← String.toList_inj]
    rw [hall] at hrest
    exact State.run_trans (hone t c List.mem_cons_self) hrest

/-- Characters that are kept one by one. -/
theorem State.run_collect (f : String → State)
    (hone : ∀ t, ∀ c ∈ cs, (f t).step c = (f (t.push c), [])) (t : String) :
    (f t).run cs = (f (t ++ String.ofList cs), []) := by
  have hall := State.run_flatMap f (fun c => [c])
    (fun t c hc => State.run_one (hone t c hc)) t
  simpa using hall

/-- Characters that are given on one by one, however each of them is written. -/
theorem State.run_flatMap_text (write : Char → List Char)
    (hone : ∀ c ∈ cs, s.run (write c) = (s, [textToken c])) :
    s.run (cs.flatMap write) = (s, cs.map textToken) := by
  induction cs with
  | nil => rfl
  | cons c cs ih =>
    exact State.run_trans (hone c List.mem_cons_self)
      (ih fun c hc => hone c (List.mem_cons_of_mem _ hc))

/-! ### Characters -/

theorem visible_of_ne (h : c ≠ '\x00') : visible c = c := if_neg h

/-- A character that stands for itself in the name of a tag, and in that of an attribute if
it is no equals sign. -/
def isNameChar (c : Char) : Bool :=
  !c.isUpper && !isSpace c && c != '/' && c != '>' && c != '\r' && c != '\x00'

theorem isNameChar_iff :
    isNameChar c = true ↔ c.isUpper = false ∧ isSpace c = false ∧ c ≠ '/' ∧ c ≠ '>' ∧
      c ≠ '\r' ∧ c ≠ '\x00' := by
  simp [isNameChar, and_assoc]

/-- A character of a kind that has none of the others in it, and no capital letters. -/
theorem isNameChar_of_kind {kind : Char → Bool} (hc : kind c = true) (hupper : c.isUpper = false)
    (hothers : [' ', '\n', '\t', '\x0c', '/', '>', '\r', '\x00'].all (!kind ·) = true) :
    isNameChar c = true := by
  have hne : ∀ x ∈ [' ', '\n', '\t', '\x0c', '/', '>', '\r', '\x00'], c ≠ x := by
    rintro x hx rfl
    have hnot := List.all_eq_true.1 hothers c hx
    rw [hc] at hnot
    cases hnot
  simp only [List.forall_mem_cons] at hne
  obtain ⟨hblank, hfeed, htab, hpage, hslash, hgt, hreturn, hnull, -⟩ := hne
  have hspace : isSpace c = false := by simp [isSpace, hblank, hfeed, htab, hpage]
  exact isNameChar_iff.2 ⟨hupper, hspace, hslash, hgt, hreturn, hnull⟩

theorem nameChar_of_isNameChar (h : isNameChar c = true) : nameChar c = c := by
  obtain ⟨hupper, -, -, -, -, hnull⟩ := isNameChar_iff.1 h
  rw [nameChar, Char.toLower_eq_of_not_isUpper (by simp [hupper]), visible_of_ne hnull]

/-- Characters other than letters are read as themselves only. -/
theorem eq_of_nameChar_eq {x : Char} (halpha : x.isAlpha = false)
    (hreplacement : x ≠ Reference.replacement) (h : nameChar c = x) : c = x := by
  have hlower : c.toLower = x := by
    unfold nameChar visible at h
    split at h
    · exact absurd h.symm hreplacement
    · exact h
  by_cases hupper : c.isUpper = true
  · have hletter : x.isAlpha = true := by simp [← hlower, Char.isAlpha, hupper]
    rw [halpha] at hletter
    cases hletter
  · rwa [Char.toLower_eq_of_not_isUpper hupper] at hlower

theorem isAlpha_of_isLower (h : c.isLower = true) : c.isAlpha = true := by
  simp [Char.isAlpha, h]

/-! ### Line ends -/

/-- Without a carriage return the ends of lines are as they should be. -/
theorem normalizeLines_append (h : '\r' ∉ cs) (ds : List Char) :
    normalizeLines (cs ++ ds) = cs ++ normalizeLines ds := by
  induction cs with
  | nil => rfl
  | cons c cs ih =>
    rw [List.mem_cons, not_or] at h
    have hc : c ≠ '\r' := fun hc => h.1 hc.symm
    simp [normalizeLines, hc, ih h.2]

/-! ### References -/

/-- **A named reference with its semicolon stands for its text, wherever it is read.** -/
theorem run_reference {name : List Char} {text : String}
    (h : Reference.named? name = some text) (sink : Sink) :
    (State.ampersand sink).run (name ++ [';']) = sink.putAndStay text := by
  have hsettled : settled sink (name ++ [';']) none = text := by
    rw [settled, Reference.longest?_of_named? h]
    simp
  -- In the middle of the name, with `done` read and `rest` to come.
  have hmiddle : ∀ done rest, done ++ rest = name →
      (State.named sink done).run (rest ++ [';']) = sink.putAndStay text := by
    intro done rest
    induction rest generalizing done with
    | nil =>
      intro hname
      have hbegin := Reference.isBeginning_of_named? h (List.prefix_refl _)
      rw [List.append_nil] at hname
      simp [State.run, State.step, namedStep, hname, hbegin, hsettled, Step.after]
    | cons c rest ih =>
      intro hname
      have hbegin : Reference.isBeginning (done ++ [c]) = true :=
        Reference.isBeginning_of_named? h ⟨rest ++ [';'], by simp [← hname]⟩
      have hc : c ≠ ';' := by
        rintro rfl
        exact Reference.semicolon_not_mem_of_named? h (by simp [← hname])
      have hstep : (State.named sink done).step c = (.named sink (done ++ [c]), []) := by
        simp [State.step, namedStep, hbegin, hc]
      exact State.run_cons hstep (ih (done ++ [c]) (by simp [← hname]))
  cases name with
  | nil => cases h
  | cons c rest =>
    have hc := Reference.isAlphanum_of_named? h List.mem_cons_self
    have hstep : (State.ampersand sink).step c = (State.named sink []).step c := by
      have hsign : c ≠ '#' := by
        rintro rfl
        exact absurd hc (by decide)
      simp [State.step, ampersandStep, hc, hsign]
    have hrun := hmiddle [] (c :: rest) rfl
    rw [List.cons_append, State.run] at hrun ⊢
    rw [hstep, hrun]

/-! ### Text and values -/

/-- A reference is read after its ampersand. -/
theorem run_ampersand {name : List Char} {text : String} {sink : Sink}
    (h : Reference.named? name = some text) (hs : s.step '&' = (.ampersand sink, []))
    (hcs : cs = '&' :: (name ++ [';'])) : s.run cs = sink.putAndStay text := by
  rw [hcs, State.run, hs, run_reference h]
  rfl

theorem putAndStay_data (mode : Mode) (c : Char) :
    (Sink.data mode).putAndStay (String.singleton c) = (.text mode, [textToken c]) := rfl

theorem putAndStay_value (tag : Tag) (quoting : Quoting) (soFar : String) (c : Char) :
    (Sink.value tag quoting soFar).putAndStay (String.singleton c) =
      (.value tag quoting (soFar.push c), []) := by
  rw [String.push_eq_append]
  rfl

/-- The references that are written. -/
theorem named?_written :
    Reference.named? ['a', 'm', 'p'] = some (String.singleton '&') ∧
      Reference.named? ['l', 't'] = some (String.singleton '<') ∧
      Reference.named? ['g', 't'] = some (String.singleton '>') ∧
      Reference.named? ['q', 'u', 'o', 't'] = some (String.singleton '"') := by
  decide +kernel

/-- Where a mode reads references, a character that is written in text is read as that
character. -/
theorem run_escapeTextChar {mode : Mode}
    (hamp : (State.text mode).step '&' = (.ampersand (.data mode), []))
    (hc : c ≠ '&' → c ≠ '<' → (State.text mode).step c = (.text mode, [textToken c])) :
    (State.text mode).run (escapeTextChar c) = (.text mode, [textToken c]) := by
  obtain ⟨hampName, hltName, hgtName, -⟩ := named?_written
  unfold escapeTextChar
  split
  · exact (run_ampersand hampName hamp rfl).trans (putAndStay_data mode '&')
  · exact (run_ampersand hltName hamp rfl).trans (putAndStay_data mode '<')
  · exact (run_ampersand hgtName hamp rfl).trans (putAndStay_data mode '>')
  · next hne hlt _ => exact State.run_one (hc hne hlt)

/-- Text that was escaped is read as it was before. -/
theorem run_escapeText (t : String) :
    (State.text .data).run (escapeText t).toList = (.text .data, t.toList.map textToken) := by
  rw [escapeText, String.toList_ofList]
  refine State.run_flatMap_text _ fun c _ => run_escapeTextChar rfl fun hamp hlt => ?_
  simp [State.step, textStep, hamp, hlt]

/-- So is text in an element that has text with references. -/
theorem run_escapeText_escapable (tag : String) {t : String} (ht : '\x00' ∉ t.toList) :
    (State.text (.escapable tag)).run (escapeText t).toList =
      (.text (.escapable tag), t.toList.map textToken) := by
  rw [escapeText, String.toList_ofList]
  refine State.run_flatMap_text _ fun c hc => run_escapeTextChar rfl fun hamp hlt => ?_
  have hvisible : visible c = c := visible_of_ne fun hnull => ht (hnull ▸ hc)
  simp [State.step, textStep, hamp, hlt, hvisible]

/-- In a script everything is read as it stands, references too. -/
theorem run_script (tag : String) {t : String} (hlt : '<' ∉ t.toList) (ht : '\x00' ∉ t.toList) :
    (State.text (.script tag)).run t.toList = (.text (.script tag), t.toList.map textToken) := by
  have hone : ∀ c ∈ t.toList,
      (State.text (.script tag)).run [c] = (.text (.script tag), [textToken c]) := by
    intro c hc
    have hvisible : visible c = c := visible_of_ne fun hnull => ht (hnull ▸ hc)
    have hne : c ≠ '<' := fun hc' => hlt (hc' ▸ hc)
    refine State.run_one ?_
    simp [State.step, textStep, hne, hvisible]
  simpa using State.run_flatMap_text (fun c => [c]) hone

/-- A character that is written in a value is read as that character. -/
theorem run_escapeValueChar (tag : Tag) (soFar : String) (hc : c ≠ '\x00') :
    (State.value tag .double soFar).run (escapeValueChar c) =
      (.value tag .double (soFar.push c), []) := by
  have hamp : (State.value tag .double soFar).step '&' =
      (.ampersand (.value tag .double soFar), []) := rfl
  obtain ⟨hampName, -, -, hquotName⟩ := named?_written
  unfold escapeValueChar
  split
  · exact (run_ampersand hampName hamp rfl).trans (putAndStay_value tag .double soFar '&')
  · exact (run_ampersand hquotName hamp rfl).trans (putAndStay_value tag .double soFar '"')
  · next hne hquot =>
    have hne' : c ≠ '&' := hne
    have hquot' : c ≠ '"' := hquot
    refine State.run_one ?_
    simp [State.step, valueStep, hne', hquot', visible_of_ne hc]

/-- A value that was escaped is read as it was before. -/
theorem run_escapeValue (tag : Tag) (soFar : String) {v : String} (hv : '\x00' ∉ v.toList) :
    (State.value tag .double soFar).run (escapeValue v).toList =
      (.value tag .double (soFar ++ v), []) := by
  have hall := State.run_flatMap (fun t => .value tag .double t) escapeValueChar
    (fun t c hc => run_escapeValueChar tag t fun hnull => hv (hnull ▸ hc)) soFar
  rw [String.ofList_toList] at hall
  rwa [escapeValue, String.toList_ofList]

/-! ### Tags -/

/-- A name that an element can have in markup. -/
structure TagName (name : String) : Prop where
  first : ∃ c, name.toList.head? = some c ∧ c.isLower = true
  chars : ∀ c ∈ name.toList, isNameChar c = true

/-- A name that an attribute can have in markup. -/
structure AttributeName (name : String) : Prop where
  nonempty : name ≠ ""
  chars : ∀ c ∈ name.toList, isNameChar c = true
  noEquals : ∀ c ∈ name.toList.tail, c ≠ '='

theorem tagName_iff {name : String} :
    TagName name ↔
      (name.toList.head?.any Char.isLower && name.toList.all isNameChar) = true := by
  rw [Bool.and_eq_true, Option.any_eq_true, List.all_eq_true]
  exact ⟨fun h => ⟨h.first, h.chars⟩, fun h => ⟨h.1, h.2⟩⟩

instance (name : String) : Decidable (TagName name) := decidable_of_iff _ tagName_iff.symm

theorem attributeName_iff {name : String} :
    AttributeName name ↔ (name != "" && name.toList.all isNameChar &&
      name.toList.tail.all (· != '=')) = true := by
  simp only [Bool.and_eq_true, List.all_eq_true, bne_iff_ne]
  exact ⟨fun h => ⟨⟨h.nonempty, h.chars⟩, h.noEquals⟩, fun h => ⟨h.1.1, h.1.2, h.2⟩⟩

instance (name : String) : Decidable (AttributeName name) :=
  decidable_of_iff _ attributeName_iff.symm

/-- The rest of a name of a tag, after its first letter. -/
theorem run_tagName (closing : Bool) {name : String} (h : TagName name)
    (hs : ∀ c : Char, c.isLower = true →
      s.step c = (.tagName closing (String.singleton c.toLower), [])) :
    s.run name.toList = (.tagName closing name, []) := by
  obtain ⟨⟨c, hfirst, hlower⟩, hchars⟩ := h
  obtain ⟨cs, hname⟩ : ∃ cs, name.toList = c :: cs := List.head?_eq_some_iff.1 hfirst
  have hc := isNameChar_iff.1 (hchars c (by simp [hname]))
  have hone : ∀ t, ∀ c ∈ cs,
      (State.tagName closing t).step c = (.tagName closing (t.push c), []) := by
    intro t c hc
    have hchar := hchars c (by simp [hname, hc])
    obtain ⟨-, hspace, hslash, hgt, -⟩ := isNameChar_iff.1 hchar
    simp [State.step, tagNameStep, hspace, hslash, hgt, nameChar_of_isNameChar hchar]
  have hrest := State.run_collect _ hone (String.singleton c)
  have hall : String.singleton c ++ String.ofList cs = name := by
    simp [← String.toList_inj, hname]
  rw [hall] at hrest
  have hstep := hs c hlower
  rw [Char.toLower_eq_of_not_isUpper (by simp [hc.1])] at hstep
  rw [hname]
  exact State.run_cons hstep hrest

/-- The beginning of a start tag. -/
theorem run_startTagName {name : String} (h : TagName name) :
    (State.text .data).run ('<' :: name.toList) = (.tagName false name, []) := by
  have hlt : (State.text .data).step '<' = (.lessThan .data, []) := rfl
  refine State.run_cons hlt (run_tagName false h fun c hc => ?_)
  have hslash : c ≠ '/' := by rintro rfl; exact absurd hc (by decide)
  have hbang : c ≠ '!' := by rintro rfl; exact absurd hc (by decide)
  simp [State.step, lessThanStep, hslash, hbang, isAlpha_of_isLower hc]

/-- An end tag, where markup is read. -/
theorem run_endTag {e : Element} (h : TagName e.tag) :
    (State.text .data).run (endTagHtml e).toList = (.text .data, [.endTag e.tag]) := by
  have hname : (State.text .data).run ('<' :: '/' :: e.tag.toList) = (.tagName true e.tag, []) := by
    have hlt : (State.text .data).step '<' = (.lessThan .data, []) := rfl
    have hslash : (State.lessThan .data).step '/' = (.endTagOpen .data, []) := rfl
    refine State.run_cons hlt (State.run_cons hslash (run_tagName true h fun c hc => ?_))
    simp [State.step, endTagOpenStep, isAlpha_of_isLower hc]
  have hend : (State.tagName true e.tag).run ['>'] = (.text .data, [.endTag e.tag]) := by
    simp [State.run, State.step, tagNameStep, afterTagNameStep, leaveTag, Tag.beginning, Step.after]
  have hall := State.run_trans hname hend
  simpa [endTagHtml] using hall

/-- An end tag, where it ends an element whose content is no markup. -/
theorem run_endTag_raw {e : Element} (h : contentModel e.tag ≠ .markup) :
    (State.text (.ofTag e.tag)).run (endTagHtml e).toList = (.text .data, [.endTag e.tag]) := by
  have hall : ∀ tag ∈ ["script", "style", "textarea", "title"],
      (State.text (.ofTag tag)).run ("</" ++ tag ++ ">").toList =
        (.text .data, [.endTag tag]) := by
    decide +kernel
  refine hall e.tag ?_
  unfold contentModel at h
  simp only [List.mem_cons, List.not_mem_nil, or_false]
  split at h
  · next htag => rcases htag with htag | htag <;> simp [htag]
  · split at h
    · next htag => rcases htag with htag | htag <;> simp [htag]
    · exact absurd rfl h

/-- The name of an attribute, where its first character is taken for one. -/
theorem run_attributeName {name : String} (h : AttributeName name) {tag : Tag}
    (hs : ∀ c, name.toList.head? = some c →
      s.step c = (.attributeName tag (String.singleton c), [])) :
    s.run name.toList = (.attributeName tag name, []) := by
  obtain ⟨hnonempty, hchars, hequals⟩ := h
  cases hcs : name.toList with
  | nil => exact absurd (String.toList_eq_nil_iff.1 hcs) hnonempty
  | cons c cs =>
    have hone : ∀ t, ∀ c ∈ cs,
        (State.attributeName tag t).step c = (.attributeName tag (t.push c), []) := by
      intro t c hc
      have hchar := hchars c (by simp [hcs, hc])
      obtain ⟨-, hspace, hslash, hgt, -⟩ := isNameChar_iff.1 hchar
      have heq := hequals c (by simp [hcs, hc])
      simp [State.step, attributeNameStep, hspace, hslash, hgt, heq,
        nameChar_of_isNameChar hchar]
    have hrest := State.run_collect _ hone (String.singleton c)
    have hall : String.singleton c ++ String.ofList cs = name := by
      simp [← String.toList_inj, hcs]
    rw [hall] at hrest
    exact State.run_cons (hs c (by rw [hcs]; rfl)) hrest

/-- Between two attributes a name can begin with an equals sign. -/
theorem step_beforeName (tag : Tag) (hc : isNameChar c = true) :
    (State.beforeName tag).step c = (.attributeName tag (String.singleton c), []) := by
  obtain ⟨-, hspace, hslash, hgt, -⟩ := isNameChar_iff.1 hc
  by_cases heq : c = '='
  · subst heq
    rfl
  · simp [State.step, beforeNameStep, attributeNameStep, hspace, hslash, hgt, heq,
      nameChar_of_isNameChar hc]

/-- After a blank, an attribute is read from where any other attribute could follow. -/
theorem run_attribute {entry : String × String} (hname : AttributeName entry.1)
    (hvalue : '\x00' ∉ entry.2.toList) (tag : Tag) :
    (State.afterValue tag).run (attributeHtml entry).toList =
      (.afterValue tag, [.attributeName entry.1, .attributeValue entry.2]) := by
  obtain ⟨name, value⟩ := entry
  simp only at hname hvalue ⊢
  have hread : (State.beforeName tag).run name.toList = (.attributeName tag name, []) :=
    run_attributeName hname fun c hc =>
      step_beforeName tag (hname.chars c (List.mem_of_mem_head? hc))
  have hblank : (State.afterValue tag).run [' '] = (.beforeName tag, []) := rfl
  have hopen : (State.attributeName tag name).run ['=', '"'] =
      (.value tag .double "", [.attributeName name]) := rfl
  have hclose : (State.value tag .double value).run ['"'] =
      (.afterValue tag, [.attributeValue value]) := rfl
  have hwritten := run_escapeValue tag "" hvalue
  rw [String.empty_append] at hwritten
  have hall := State.run_trans hblank
    (State.run_trans hread (State.run_trans hopen (State.run_trans hwritten hclose)))
  simpa [attributeHtml] using hall

/-- An element that can be written as it is. -/
structure LegibleElement (e : Element) : Prop where
  tag : TagName e.tag
  names : ∀ entry ∈ e.attributes.entries, AttributeName entry.1
  values : ∀ entry ∈ e.attributes.entries, '\x00' ∉ entry.2.toList

/-- Between the name of a tag and its first attribute, or its end, the tag is read as it is
between two attributes. -/
theorem run_after_tagName (name : String) (hc : c = ' ' ∨ c = '>') (cs : List Char) :
    (State.tagName false name).run (c :: cs) =
      ((State.afterValue ⟨false, name⟩).run (c :: cs)).after [.startTag name] := by
  rcases hc with rfl | rfl <;> rfl

/-- A start tag. -/
theorem run_startTag {e : Element} (h : LegibleElement e) :
    (State.text .data).run (startTagHtml e).toList = (.text (.ofTag e.tag), startTokens e) := by
  have hattributes : ∀ entries : List (String × String), entries ⊆ e.attributes.entries →
      (State.afterValue ⟨false, e.tag⟩).run
          (entries.flatMap (fun entry => (attributeHtml entry).toList) ++ ['>']) =
        (.text (.ofTag e.tag), entries.flatMap attributeTokens ++ [.startTagEnd false]) := by
    intro entries hentries
    induction entries with
    | nil => rfl
    | cons entry rest ih =>
      rw [List.cons_subset] at hentries
      have hone := run_attribute (h.names _ hentries.1) (h.values _ hentries.1) ⟨false, e.tag⟩
      rw [List.flatMap_cons, List.flatMap_cons, List.append_assoc, List.append_assoc]
      exact State.run_trans hone (ih hentries.2)
  -- What follows the name is a blank or the end of the tag.
  have hnext : ∃ c cs, (c = ' ' ∨ c = '>') ∧
      e.attributes.entries.flatMap (fun entry => (attributeHtml entry).toList) ++ ['>'] =
        c :: cs := by
    cases e.attributes.entries with
    | nil => exact ⟨'>', [], Or.inr rfl, rfl⟩
    | cons entry rest =>
      obtain ⟨cs, hcs⟩ : ∃ cs, (attributeHtml entry).toList = ' ' :: cs := by
        simp [attributeHtml]
      exact ⟨' ', _, Or.inl rfl, by rw [List.flatMap_cons, hcs]; rfl⟩
  obtain ⟨c, cs, hc, hcs⟩ := hnext
  have hrest := run_after_tagName e.tag hc cs
  rw [← hcs, hattributes _ (List.Subset.refl _)] at hrest
  have hall := State.run_trans (run_startTagName h.tag) hrest
  simpa [startTagHtml, startTokens, List.flatMap_map] using hall

/-! ### Comments -/

/-- Where the lexer stands in a comment whose characters so far are `cs`. -/
def InComment (cs : List Char) : State → Prop
  | .commentStart => cs = []
  | .commentStartDash => cs = ['-']
  | .comment t | .commentLess t | .commentBang t => cs = t.toList
  | .commentDash t => cs = t.toList ++ ['-']
  | .commentEnd t => cs = t.toList ++ ['-', '-']
  | .commentEndBang t => cs = t.toList ++ ['-', '-', '!']
  | _ => False

/-- Whether a greater-than sign would end the comment. -/
def AtEnd : State → Prop
  | .commentStart | .commentStartDash | .commentEnd _ | .commentEndBang _ => True
  | _ => False

/-- A greater-than sign after these characters ends a comment. -/
def EndsComment (cs : List Char) : Prop :=
  cs = [] ∨ cs = ['-'] ∨ ['-', '-'] <:+ cs ∨ ['-', '-', '!'] <:+ cs

theorem InComment.endsComment (h : InComment cs s) (hend : AtEnd s) : EndsComment cs := by
  cases s with
  | commentStart => exact Or.inl h
  | commentStartDash => exact Or.inr (Or.inl h)
  | commentEnd t =>
    obtain rfl : cs = t.toList ++ ['-', '-'] := h
    exact Or.inr (Or.inr (Or.inl (List.suffix_append _ _)))
  | commentEndBang t =>
    obtain rfl : cs = t.toList ++ ['-', '-', '!'] := h
    exact Or.inr (Or.inr (Or.inr (List.suffix_append _ _)))
  | _ => exact absurd hend id

theorem inComment_commentStep (t : String) (c : Char) :
    ∃ s', commentStep t c = (s', []) ∧ InComment (t.toList ++ [visible c]) s' := by
  unfold commentStep
  by_cases hlt : c = '<'
  · subst hlt
    exact ⟨_, rfl, by simp [InComment, visible]⟩
  · by_cases hdash : c = '-'
    · subst hdash
      exact ⟨_, rfl, by simp [InComment, visible]⟩
    · exact ⟨.comment (t.push (visible c)), by simp [hlt, hdash], by simp [InComment]⟩

/-- One character of a comment that does not end it. -/
theorem InComment.step (h : InComment cs s) (hend : c = '>' → ¬ AtEnd s) :
    ∃ s', s.step c = (s', []) ∧ InComment (cs ++ [visible c]) s' := by
  -- A character that means nothing here is read as it is anywhere in a comment.
  have hother : ∀ t : String, cs = t.toList → s.step c = commentStep t c →
      ∃ s', s.step c = (s', []) ∧ InComment (cs ++ [visible c]) s' := by
    rintro t rfl heq
    rw [heq]
    exact inComment_commentStep t c
  have hdash : visible '-' = '-' := rfl
  have hbang : visible '!' = '!' := rfl
  cases s with
  | commentStart =>
    obtain rfl : cs = [] := h
    have hgt : c ≠ '>' := fun hc => hend hc trivial
    by_cases hc : c = '-'
    · exact ⟨.commentStartDash, by simp [State.step, commentStartStep, hc],
        by simp [hc, hdash, InComment]⟩
    · exact hother "" rfl (by simp [State.step, commentStartStep, hc, hgt])
  | commentStartDash =>
    obtain rfl : cs = ['-'] := h
    have hgt : c ≠ '>' := fun hc => hend hc trivial
    by_cases hc : c = '-'
    · exact ⟨.commentEnd "", by simp [State.step, commentStartDashStep, hc],
        by simp [hc, hdash, InComment]⟩
    · exact hother "-" rfl (by simp [State.step, commentStartDashStep, hc, hgt])
  | comment t => exact hother t h rfl
  | commentLess t =>
    obtain rfl : cs = t.toList := h
    by_cases hc : c = '!'
    · exact ⟨.commentBang (t.push c), by simp [State.step, commentLessStep, hc],
        by simp [hc, hbang, InComment]⟩
    · by_cases hlt : c = '<'
      · exact ⟨.commentLess (t.push c), by simp [State.step, commentLessStep, hlt],
          by simp [hlt, visible, InComment]⟩
      · exact hother t rfl (by simp [State.step, commentLessStep, hc, hlt])
  | commentBang t =>
    obtain rfl : cs = t.toList := h
    by_cases hc : c = '-'
    · exact ⟨.commentDash t, by simp [State.step, commentBangStep, hc],
        by simp [hc, hdash, InComment]⟩
    · exact hother t rfl (by simp [State.step, commentBangStep, hc])
  | commentDash t =>
    obtain rfl : cs = t.toList ++ ['-'] := h
    by_cases hc : c = '-'
    · exact ⟨.commentEnd t, by simp [State.step, commentDashStep, hc],
        by simp [hc, hdash, InComment]⟩
    · exact hother (t.push '-') (by simp) (by simp [State.step, commentDashStep, hc])
  | commentEnd t =>
    obtain rfl : cs = t.toList ++ ['-', '-'] := h
    have hgt : c ≠ '>' := fun hc => hend hc trivial
    by_cases hc : c = '!'
    · exact ⟨.commentEndBang t, by simp [State.step, commentEndStep, hc],
        by simp [hc, hbang, InComment]⟩
    · by_cases hd : c = '-'
      · exact ⟨.commentEnd (t.push '-'), by simp [State.step, commentEndStep, hd],
          by simp [hd, hdash, InComment]⟩
      · exact hother (t ++ "--") (by simp) (by simp [State.step, commentEndStep, hc, hgt, hd])
  | commentEndBang t =>
    obtain rfl : cs = t.toList ++ ['-', '-', '!'] := h
    have hgt : c ≠ '>' := fun hc => hend hc trivial
    by_cases hc : c = '-'
    · exact ⟨.commentDash (t ++ "--!"), by simp [State.step, commentEndBangStep, hc],
        by simp [hc, hdash, InComment]⟩
    · exact hother (t ++ "--!") (by simp) (by simp [State.step, commentEndBangStep, hc, hgt])
  | _ => exact absurd h id

/-- Any comment can be ended, and then it is what was read. -/
theorem InComment.run_close (h : InComment cs s) :
    s.run ['-', '-', '>'] = (.text .data, [.comment (String.ofList cs)]) := by
  have hread : ∀ t : String, t.toList = cs →
      s.run ['-', '-', '>'] = (.text .data, [.comment t]) →
      s.run ['-', '-', '>'] = (.text .data, [.comment (String.ofList cs)]) := by
    rintro t rfl hrun
    rw [hrun, String.ofList_toList]
  cases s with
  | commentStart =>
    obtain rfl : cs = [] := h
    rfl
  | commentStartDash =>
    obtain rfl : cs = ['-'] := h
    rfl
  | comment t | commentLess t | commentBang t =>
    exact hread t (by simpa [InComment] using h.symm) rfl
  | commentDash t => exact hread (t.push '-') (by simpa [InComment] using h.symm) rfl
  | commentEnd t => exact hread ((t.push '-').push '-') (by simpa [InComment] using h.symm) rfl
  | commentEndBang t => exact hread (t ++ "--!") (by simpa [InComment] using h.symm) rfl
  | _ => exact absurd h id

/-- A comment that is read as it is written. -/
def Readable (t : String) : Prop :=
  State.commentStart.run (t.toList ++ ['-', '-', '>']) = (.text .data, [.comment t])

/-- **A comment is read as it is written unless it contains what ends a comment, or begins with
what ends one at its beginning.** -/
theorem readable_of_not_ended {t : String} (hnull : '\x00' ∉ t.toList)
    (hend : ∀ cs, cs ++ ['>'] <+: t.toList → ¬ EndsComment cs) : Readable t := by
  -- In the middle of the comment, with `done` read and `rest` to come.
  have hmiddle : ∀ rest done s, done ++ rest = t.toList → InComment done s →
      s.run (rest ++ ['-', '-', '>']) = (.text .data, [.comment t]) := by
    intro rest
    induction rest with
    | nil =>
      intro done s hall hs
      rw [List.append_nil] at hall
      rw [List.nil_append, hs.run_close, hall, String.ofList_toList]
    | cons c rest ih =>
      intro done s hall hs
      have hc : visible c = c := visible_of_ne fun hc => hnull (by rw [← hall, hc]; simp)
      obtain ⟨s', hstep, hs'⟩ := hs.step (c := c) fun hgt hlast => by
        refine hend done ⟨rest, ?_⟩ (hs.endsComment hlast)
        rw [← hall, hgt]
        simp
      rw [hc] at hs'
      exact State.run_cons hstep (ih (done ++ [c]) s' (by simp [← hall]) hs')
  exact hmiddle t.toList [] .commentStart rfl rfl

/-- A comment, where markup is read. -/
theorem run_comment {t : String} (h : Readable t) :
    (State.text .data).run ("<!--" ++ t ++ "-->").toList = (.text .data, [.comment t]) := by
  have hopen : (State.text .data).run ['<', '!', '-', '-'] = (.commentStart, []) := rfl
  have hall := State.run_trans hopen h
  simpa using hall

end LiveMarkup.Markup
