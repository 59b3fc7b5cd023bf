/-
The order in which tokens come, and what can be in them.

Tokens do not come in any order.  After the beginning of a start tag come its attributes and
its end; after that end, where the content is no markup, only text comes up to the end tag
of the same name.  `Phase` says where in this order the tokens are, `Phase.Allows` which
tokens can come there, and what holds of their names, values and characters.

The lexer keeps to this: each of its states stands in a phase (`State.Stands`), and whatever
the next character is, the tokens it completes are allowed one after the other and the next
state stands in the phase they lead to (`follows_step`).  There is one lemma for each
function of the lexer; a function that leaves the character to another one cites the lemma
of that one.
-/
import LiveMarkup.Proofs.Markup.Reading

namespace LiveMarkup.Markup

/-! ### Characters -/

section Characters

variable {c : Char}

theorem visible_ne_null (c : Char) : visible c ≠ '\x00' := by
  unfold visible
  split
  · decide
  · assumption

/-- The equals sign is the only character that is read as one. -/
theorem nameChar_ne_equals (h : c ≠ '=') : nameChar c ≠ '=' := fun heq =>
  h (eq_of_nameChar_eq rfl (by decide) heq)

theorem isNameChar_of_isLower (h : c.isLower = true) : isNameChar c = true :=
  isNameChar_of_kind h (Bool.eq_false_iff.2 (Char.not_isUpper_of_isLower h)) (by decide)

/-- Names are made of the characters that stand for themselves in names. -/
theorem isNameChar_nameChar (hspace : isSpace c = false) (hslash : c ≠ '/')
    (hgt : c ≠ '>') (hreturn : c ≠ '\r') : isNameChar (nameChar c) = true := by
  by_cases hupper : c.isUpper = true
  · have hletter : c.toLower.isLower = true := by
      simp [Char.isAlpha, hupper]
    have hlower := isNameChar_of_isLower hletter
    rw [nameChar, visible_of_ne (isNameChar_iff.1 hlower).2.2.2.2.2]
    exact hlower
  · rw [nameChar, Char.toLower_eq_of_not_isUpper hupper]
    by_cases hnull : c = '\x00'
    · subst hnull
      decide
    · rw [visible_of_ne hnull]
      exact isNameChar_iff.2 ⟨Bool.eq_false_iff.2 hupper, hspace, hslash, hgt, hreturn, hnull⟩

end Characters

/-! ### The phases -/

/-- Where the tokens stand in the order in which they come. -/
inductive Phase where
  /-- Where markup is read; end tags are read here too. -/
  | markup
  /-- In an element whose content is no markup, up to its end tag. -/
  | raw (tag : String)
  /-- In a start tag. -/
  | opening (tag : String)

namespace Phase

/-- Where the text of a mode stands. -/
def ofMode (mode : Mode) : Phase :=
  match mode.closer? with
  | none => markup
  | some tag => raw tag

/-- What follows the end of a start tag. -/
def opened (selfClosing : Bool) : Phase → Phase
  | opening tag => if selfClosing then markup else ofMode (.ofTag tag)
  | markup => markup
  | raw tag => raw tag

/-- Where the tokens stand after one of them. -/
def next (p : Phase) : Token → Phase
  | .startTag tag => opening tag
  | .startTagEnd selfClosing => p.opened selfClosing
  | .endTag _ => markup
  | .text _ | .comment _ | .attributeName _ | .attributeValue _ => p

/-- Whether a token can come.  The attributes of end tags are read like any others. -/
def Allows : Phase → Token → Prop
  | markup, .startTag tag => TagName tag
  | markup, .comment s => Readable s ∧ '\r' ∉ s.toList
  | markup, .startTagEnd _ => False
  | markup, .endTag _ | markup, .text _ | markup, .attributeName _ | markup, .attributeValue _ =>
    True
  | raw _, .text s => '\x00' ∉ s.toList
  | raw tag, .endTag closed => closed = tag
  | raw _, .attributeName _ | raw _, .attributeValue _ => True
  | raw _, .startTag _ | raw _, .startTagEnd _ | raw _, .comment _ => False
  | opening _, .attributeName name => AttributeName name
  | opening _, .attributeValue value => '\x00' ∉ value.toList
  | opening _, .startTagEnd _ => True
  | opening _, .startTag _ | opening _, .endTag _ | opening _, .text _ | opening _, .comment _ =>
    False

/-- Whether tokens can come one after the other. -/
def AllowsAll : Phase → List Token → Prop
  | _, [] => True
  | p, t :: ts => p.Allows t ∧ (p.next t).AllowsAll ts

/-- Where the tokens stand after several of them. -/
def after (p : Phase) (ts : List Token) : Phase := ts.foldl next p

theorem allowsAll_append {p : Phase} {ts us : List Token} :
    p.AllowsAll (ts ++ us) ↔ p.AllowsAll ts ∧ (p.after ts).AllowsAll us := by
  induction ts generalizing p with
  | nil => simp [AllowsAll, after]
  | cons t ts ih => simp only [List.cons_append, AllowsAll, ih, and_assoc]; rfl

theorem allows_text {s : String} (mode : Mode) (hs : '\x00' ∉ s.toList) :
    (ofMode mode).Allows (.text s) := by
  unfold ofMode
  split
  · trivial
  · exact hs

end Phase

/-! ### Where the states stand -/

/-- Where a tag stands that is being read.  An end tag stands with the text before it. -/
def Tag.Stands (tag : Tag) (p : Phase) : Prop :=
  if tag.closing then p = .markup ∨ p = .raw tag.name else p = .opening tag.name

def Sink.Stands (p : Phase) : Sink → Prop
  | .data mode => p = .ofMode mode
  | .value tag _ soFar => tag.Stands p ∧ '\x00' ∉ soFar.toList

/-- Characters that mean nothing in a comment. -/
def Harmless (cs : List Char) : Prop := '>' ∉ cs ∧ '\x00' ∉ cs ∧ '\r' ∉ cs

/-- Where the lexer stands in a comment that, written as far as it was read, would lead there
again. -/
structure Replayed (s : State) (cs : List Char) : Prop where
  inComment : InComment cs s
  noReturn : '\r' ∉ cs
  again : State.commentStart.run cs = (s, [])
  /-- An exclamation mark after two dashes is no part of the comment if it ends there. -/
  beforeBang : ∀ t, s = .commentEndBang t →
    State.commentStart.run (t.toList ++ ['-', '-']) = (.commentEnd t, [])

/-- A state between two tokens stands in the given phase, and what it has read of the next
token can be part of it. -/
def State.Stands (p : Phase) : State → Prop
  | .text mode | .lessThan mode | .endTagOpen mode => p = .ofMode mode
  | .closerName mode letters => p = .ofMode mode ∧ '\x00' ∉ letters.toList
  | .escapeStart tag _ | .doubleStart tag _ | .doubleLess tag | .doubleEnd tag _ => p = .raw tag
  | .tagName _ name => p = .markup ∧ TagName name
  | .beforeName tag | .afterName tag | .beforeValue tag | .afterValue tag | .selfClosing tag =>
    tag.Stands p
  | .attributeName tag name => tag.Stands p ∧ AttributeName name
  | .value tag _ soFar => tag.Stands p ∧ '\x00' ∉ soFar.toList
  | .declaration chars => p = .markup ∧ Harmless chars
  | .documentType => p = .markup
  | .bogusComment t => p = .markup ∧ Harmless t.toList
  | s@.commentStart | s@.commentStartDash | s@(.comment _) | s@(.commentLess _)
  | s@(.commentBang _) | s@(.commentDash _) | s@(.commentEnd _) | s@(.commentEndBang _) =>
    p = .markup ∧ ∃ cs, Replayed s cs
  | .ampersand sink | .numberSign sink | .decimal sink _ | .hexadecimal sink _ => sink.Stands p
  | .named sink chars => sink.Stands p ∧ '\x00' ∉ chars
  | .hexStart sink mark => sink.Stands p ∧ mark ≠ '\x00'

/-- The tokens of a step can come in the given phase, and the next state stands where they
lead to. -/
def Phase.Follows (p : Phase) (step : Step) : Prop :=
  p.AllowsAll step.2 ∧ step.1.Stands (p.after step.2)

variable {s : State} {p : Phase} {mode : Mode} {tag : Tag} {sink : Sink} {c : Char} {t : Token}
  {out : Step}

theorem follows_nil (h : s.Stands p) : p.Follows (s, []) := ⟨trivial, h⟩

theorem follows_one (ht : p.Allows t) (h : s.Stands (p.next t)) : p.Follows (s, [t]) :=
  ⟨⟨ht, trivial⟩, h⟩

theorem Phase.Follows.after (ht : p.Allows t) (h : (p.next t).Follows out) :
    p.Follows (out.after [t]) :=
  ⟨⟨ht, h.1⟩, h.2⟩

/-! ### Character data -/

theorem follows_text {u : String} (hu : '\x00' ∉ u.toList)
    (h : (Phase.ofMode mode).Follows out) : (Phase.ofMode mode).Follows (out.after [.text u]) :=
  h.after (Phase.allows_text mode hu)

theorem follows_textToken {mode' : Mode} (hmode : Phase.ofMode mode = Phase.ofMode mode')
    (hc : mode = .data ∨ c ≠ '\x00') :
    (Phase.ofMode mode).Follows (.text mode', [textToken c]) := by
  refine follows_one ?_ hmode
  rcases hc with rfl | hc
  · trivial
  · exact Phase.allows_text mode (by simpa [eq_comm] using hc)

theorem follows_textStep (mode : Mode) (c : Char) :
    (Phase.ofMode mode).Follows (textStep mode c) := by
  have hvisible := visible_ne_null c
  cases mode with
  | data =>
    simp only [textStep]
    split
    · exact follows_nil rfl
    · split
      · exact follows_nil rfl
      · exact follows_textToken rfl (Or.inl rfl)
  | escapable tag =>
    simp only [textStep]
    split
    · exact follows_nil rfl
    · split
      · exact follows_nil rfl
      · exact follows_textToken rfl (Or.inr hvisible)
  | script tag =>
    simp only [textStep]
    split
    · exact follows_nil rfl
    · exact follows_textToken rfl (Or.inr hvisible)
  | escaped tag dashes =>
    simp only [textStep]
    split
    · next hc => exact follows_textToken rfl (Or.inr (by rw [hc]; decide))
    · split
      · exact follows_nil rfl
      · split
        · next hc => exact follows_textToken rfl (Or.inr (by rw [hc.1]; decide))
        · exact follows_textToken rfl (Or.inr hvisible)
  | doubled tag dashes =>
    simp only [textStep]
    split
    · next hc => exact follows_textToken rfl (Or.inr (by rw [hc]; decide))
    · split
      · next hc =>
        refine follows_one (Phase.allows_text (.doubled tag dashes) ?_) rfl
        rw [hc]
        decide
      · split
        · next hc => exact follows_textToken rfl (Or.inr (by rw [hc.1]; decide))
        · exact follows_textToken rfl (Or.inr hvisible)

theorem isAlpha_ne_null (h : c.isAlpha = true) : c ≠ '\x00' := by
  rintro rfl
  exact absurd h (by decide)

theorem endsName_ne_null (h : (isSpace c || c == '/' || c == '>') = true) : c ≠ '\x00' := by
  rintro rfl
  exact absurd h (by decide)

/-- A character of a script that is text whatever follows. -/
theorem follows_scriptToken {name : String} (hc : c ≠ '\x00') (hs : s.Stands (.raw name)) :
    (Phase.raw name).Follows (s, [textToken c]) :=
  follows_one (show '\x00' ∉ (String.singleton c).toList by simpa [eq_comm] using hc) hs

theorem follows_doubleStartStep (name letters : String) (c : Char) :
    (Phase.raw name).Follows (doubleStartStep name letters c) := by
  unfold doubleStartStep
  split
  · next hc => exact follows_scriptToken (isAlpha_ne_null hc) rfl
  · split
    · next hc =>
      refine follows_scriptToken (endsName_ne_null hc) ?_
      split <;> rfl
    · exact follows_textStep (.escaped name .zero) c

theorem follows_doubleEndStep (name letters : String) (c : Char) :
    (Phase.raw name).Follows (doubleEndStep name letters c) := by
  unfold doubleEndStep
  split
  · next hc => exact follows_scriptToken (isAlpha_ne_null hc) rfl
  · split
    · next hc =>
      refine follows_scriptToken (endsName_ne_null hc) ?_
      split <;> rfl
    · exact follows_textStep (.doubled name .zero) c

theorem follows_doubleLessStep (name : String) (c : Char) :
    (Phase.raw name).Follows (doubleLessStep name c) := by
  unfold doubleLessStep
  split
  · next hc => exact follows_scriptToken (by rw [hc]; decide) rfl
  · exact follows_textStep (.doubled name .zero) c

theorem follows_escapeStartStep (name : String) (dashed : Bool) (c : Char) :
    (Phase.raw name).Follows (escapeStartStep name dashed c) := by
  unfold escapeStartStep
  split
  · next hc =>
    refine follows_scriptToken (by rw [hc]; decide) ?_
    split <;> rfl
  · exact follows_textStep (.script name) c

/-! ### Comments -/

theorem visible_ne_return (h : c ≠ '\r') : visible c ≠ '\r' := by
  unfold visible
  split
  · decide
  · exact h

theorem visible_ne_gt (h : c ≠ '>') : visible c ≠ '>' := by
  unfold visible
  split
  · decide
  · exact h

theorem Harmless.push {u : String} (h : Harmless u.toList) (hgt : c ≠ '>') (hreturn : c ≠ '\r') :
    Harmless (u.push (visible c)).toList := by
  obtain ⟨h₁, h₂, h₃⟩ := h
  simp [Harmless, h₁, h₂, h₃, (visible_ne_gt hgt).symm, (visible_ne_null c).symm,
    (visible_ne_return hreturn).symm]

theorem Harmless.readable {u : String} (h : Harmless u.toList) : Readable u := by
  refine readable_of_not_ended h.2.1 fun cs hcs _ => h.1 ?_
  exact hcs.subset (by simp)

theorem follows_comment {u : String} (hu : Readable u) (hreturn : '\r' ∉ u.toList) :
    Phase.markup.Follows (.text .data, [.comment u]) :=
  follows_one ⟨hu, hreturn⟩ rfl

theorem follows_bogusStep {u : String} (h : Harmless u.toList) (hreturn : c ≠ '\r') :
    Phase.markup.Follows (bogusStep u c) := by
  unfold bogusStep
  split
  · exact follows_comment h.readable h.2.2
  · next hgt => exact follows_nil ⟨rfl, h.push hgt hreturn⟩

/-- In a comment the null character and what replaces it are read alike. -/
theorem InComment.step_visible {cs : List Char} (h : InComment cs s) (c : Char) :
    s.step (visible c) = s.step c := by
  unfold visible
  split
  · next hc =>
    subst hc
    cases s with
    | commentStart | commentStartDash | comment | commentLess | commentBang | commentDash
    | commentEnd | commentEndBang => rfl
    | _ => exact absurd h id
  · rfl

theorem commentStep_ne (u v : String) (c : Char) : (commentStep u c).1 ≠ .commentEndBang v := by
  unfold commentStep
  split
  · exact State.noConfusion
  · split <;> exact State.noConfusion

/-- Two dashes come before an exclamation mark that may end a comment. -/
theorem InComment.eq_commentEnd {cs : List Char} {u : String} (h : InComment cs s)
    (hstep : (s.step c).1 = .commentEndBang u) : s = .commentEnd u := by
  cases s with
  | commentEnd t =>
    simp only [State.step, commentEndStep] at hstep
    split_ifs at hstep
    · cases hstep
      rfl
    · exact absurd hstep (commentStep_ne _ _ _)
  | comment => exact absurd hstep (commentStep_ne _ _ _)
  | commentStart | commentStartDash | commentLess | commentBang | commentDash | commentEndBang =>
    simp only [State.step, commentStartStep, commentStartDashStep, commentLessStep,
      commentBangStep, commentDashStep, commentEndBangStep] at hstep
    split_ifs at hstep
    exact absurd hstep (commentStep_ne _ _ _)
  | _ => exact absurd h id

theorem InComment.stands {cs : List Char} (h : InComment cs s) (hs : Replayed s cs) :
    s.Stands .markup := by
  cases s with
  | commentStart | commentStartDash | comment | commentLess | commentBang | commentDash
  | commentEnd | commentEndBang => exact ⟨rfl, cs, hs⟩
  | _ => exact absurd h id

/-- A comment goes on. -/
theorem Replayed.follows {cs : List Char} (h : Replayed s cs) (hend : c = '>' → ¬ AtEnd s)
    (hreturn : c ≠ '\r') : Phase.markup.Follows (s.step c) := by
  obtain ⟨s', hstep, hs'⟩ := h.inComment.step hend
  have hagain : State.commentStart.run (cs ++ [visible c]) = (s', []) := by
    refine State.run_trans h.again (State.run_one ?_)
    rw [h.inComment.step_visible, hstep]
  have hreturn' : '\r' ∉ cs ++ [visible c] := by
    simp [h.noReturn, (visible_ne_return hreturn).symm]
  have hbang : ∀ u, s' = .commentEndBang u →
      State.commentStart.run (u.toList ++ ['-', '-']) = (.commentEnd u, []) := by
    rintro u rfl
    have hs := h.inComment.eq_commentEnd (congrArg Prod.fst hstep)
    subst hs
    have hcs : cs = u.toList ++ ['-', '-'] := h.inComment
    rw [← hcs]
    exact h.again
  rw [hstep]
  exact follows_nil (hs'.stands ⟨hs', hreturn', hagain, hbang⟩)

theorem Replayed.commentStart : Replayed .commentStart [] :=
  ⟨rfl, List.not_mem_nil, rfl, nofun⟩

/-- A comment that ends in this state is read as it is written. -/
theorem readable_of_again {cs : List Char} {u : String}
    (h : State.commentStart.run cs = (s, [])) {ds : List Char}
    (hcs : cs ++ ds = u.toList ++ ['-', '-', '>'])
    (hs : s.run ds = (.text .data, [.comment u])) : Readable u := by
  unfold Readable
  rw [← hcs]
  exact State.run_trans h hs

/-- What a comment is if it ends here, by a greater-than sign or by the end of the input. -/
theorem Replayed.ended {cs : List Char} (h : Replayed s cs) :
    ∃ u, s.finish = [.comment u] ∧ Readable u ∧ '\r' ∉ u.toList ∧
      (AtEnd s → s.step '>' = (.text .data, [.comment u])) := by
  obtain ⟨hs, hreturn, hagain, hbang⟩ := h
  cases s with
  | commentStart | commentStartDash => exact ⟨"", rfl, rfl, by simp, fun _ => rfl⟩
  | comment t | commentLess t | commentBang t =>
    obtain rfl : cs = t.toList := hs
    exact ⟨t, rfl, readable_of_again hagain rfl rfl, hreturn, nofun⟩
  | commentDash t =>
    obtain rfl : cs = t.toList ++ ['-'] := hs
    refine ⟨t, rfl, ?_, fun hmem => hreturn (by simp [hmem]), nofun⟩
    exact readable_of_again hagain (List.append_assoc _ _ ['-', '>']) rfl
  | commentEnd t =>
    obtain rfl : cs = t.toList ++ ['-', '-'] := hs
    refine ⟨t, rfl, ?_, fun hmem => hreturn (by simp [hmem]), fun _ => rfl⟩
    exact readable_of_again hagain (List.append_assoc _ _ ['>']) rfl
  | commentEndBang t =>
    obtain rfl : cs = t.toList ++ ['-', '-', '!'] := hs
    refine ⟨t, rfl, ?_, fun hmem => hreturn (by simp [hmem]), fun _ => rfl⟩
    exact readable_of_again (hbang t rfl) (List.append_assoc _ _ ['>']) rfl
  | _ => exact absurd hs id

theorem Replayed.follows_step {cs : List Char} (h : Replayed s cs) (hreturn : c ≠ '\r') :
    Phase.markup.Follows (s.step c) := by
  by_cases hend : c = '>' ∧ AtEnd s
  · obtain ⟨rfl, hlast⟩ := hend
    obtain ⟨u, -, hu, hnone, hstep⟩ := h.ended
    rw [hstep hlast]
    exact follows_comment hu hnone
  · exact h.follows (fun hc hlast => hend ⟨hc, hlast⟩) hreturn

/-! ### Declarations -/

theorem harmless_nil : Harmless [] := ⟨List.not_mem_nil, List.not_mem_nil, List.not_mem_nil⟩

theorem follows_documentTypeStep (c : Char) : Phase.markup.Follows (documentTypeStep c) := by
  unfold documentTypeStep
  split
  · exact follows_nil rfl
  · exact follows_nil rfl

/-- Nothing that can begin a comment or a document type means something in a comment. -/
theorem Harmless.append_declaration {chars : List Char} (h : Harmless chars)
    (hc : chars ++ [c] = ['-'] ∨
      ((chars ++ [c]).map Char.toLower).isPrefixOf documentTypeName = true) :
    Harmless (chars ++ [c]) := by
  have hlast : c = '-' ∨ c.toLower ∈ documentTypeName := by
    rcases hc with hc | hc
    · have hmem : c ∈ ['-'] := hc ▸ List.mem_append_right _ (List.mem_singleton_self c)
      exact Or.inl (List.mem_singleton.1 hmem)
    · exact Or.inr ((List.isPrefixOf_iff_prefix.1 hc).subset (by simp))
  have hne : ∀ x, x ≠ '-' → x.toLower ∉ documentTypeName → x ≠ c := by
    rintro x hdash hname rfl
    exact hlast.elim hdash hname
  obtain ⟨h₁, h₂, h₃⟩ := h
  simp [Harmless, h₁, h₂, h₃, hne '>' (by decide) (by decide),
    hne '\x00' (by decide) (by decide), hne '\r' (by decide) (by decide)]

theorem follows_declarationStep {chars : List Char} (h : Harmless chars) (hreturn : c ≠ '\r') :
    Phase.markup.Follows (declarationStep chars c) := by
  unfold declarationStep
  simp only
  split
  · exact follows_nil ⟨rfl, [], Replayed.commentStart⟩
  · split
    · exact follows_nil rfl
    · split
      · next hmore =>
        exact follows_nil ⟨rfl, h.append_declaration hmore⟩
      · exact follows_bogusStep (by simpa using h) hreturn

/-! ### Tags -/

theorem Tag.stands_closing {name : String} (h : p = .markup ∨ p = .raw name) :
    (Tag.mk true name).Stands p := h

/-- The end of a tag: an element is open, or the last one was closed. -/
theorem follows_leaveTag (h : tag.Stands p) (selfClosing : Bool) :
    p.Follows (leaveTag tag selfClosing) := by
  obtain ⟨closing, name⟩ := tag
  cases closing with
  | true =>
    refine follows_one ?_ rfl
    rcases h with rfl | rfl
    · trivial
    · exact rfl
  | false =>
    obtain rfl : p = .opening name := h
    refine follows_one trivial ?_
    cases selfClosing <;> rfl

theorem allows_attributeName {name : String} (p : Phase) (hname : AttributeName name) :
    p.Allows (.attributeName name) := by
  cases p with
  | opening => exact hname
  | markup | raw => trivial

theorem allows_attributeValue {value : String} (p : Phase) (hvalue : '\x00' ∉ value.toList) :
    p.Allows (.attributeValue value) := by
  cases p with
  | opening => exact hvalue
  | markup | raw => trivial

/-- A name goes on, or begins, with a character that is no equals sign. -/
theorem AttributeName.push {name : String} (h : name = "" ∨ AttributeName name)
    (hc : isNameChar (nameChar c) = true) (heq : c ≠ '=') :
    AttributeName (name.push (nameChar c)) := by
  rcases h with rfl | ⟨hnonempty, hchars, hequals⟩
  · exact ⟨String.push_ne_empty, by simpa using hc, by simp⟩
  · obtain ⟨x, xs, hname⟩ : ∃ x xs, name.toList = x :: xs :=
      List.exists_cons_of_ne_nil fun hnil => hnonempty (String.toList_eq_nil_iff.1 hnil)
    rw [hname] at hchars hequals
    refine ⟨String.push_ne_empty, ?_, ?_⟩
    · rw [String.toList_push, hname, List.forall_mem_append]
      exact ⟨hchars, by simpa using hc⟩
    · rw [String.toList_push, hname, List.cons_append, List.tail_cons, List.forall_mem_append]
      exact ⟨hequals, by simpa using nameChar_ne_equals heq⟩

/-- What an attribute name can begin with, besides an equals sign. -/
structure BeginsName (c : Char) : Prop where
  space : isSpace c = false
  slash : c ≠ '/'
  gt : c ≠ '>'
  equals : c ≠ '='

theorem follows_attributeNameStep {name : String} (h : tag.Stands p)
    (hname : name = "" ∧ BeginsName c ∨ AttributeName name) (hreturn : c ≠ '\r') :
    p.Follows (attributeNameStep tag name c) := by
  -- A character that ends the name does not begin it.
  have hended : ¬ BeginsName c → AttributeName name := fun hc =>
    hname.resolve_left fun hb => hc hb.2
  unfold attributeNameStep
  split
  · next hspace =>
    have hdone := hended fun hb => absurd hspace (by simp [hb.space])
    exact follows_one (allows_attributeName p hdone) h
  · split
    · next hslash =>
      exact follows_one (allows_attributeName p (hended fun hb => hb.slash hslash)) h
    · split
      · next hgt =>
        exact (follows_leaveTag h false).after (allows_attributeName p (hended fun hb => hb.gt hgt))
      · split
        · next heq =>
          exact follows_one (allows_attributeName p (hended fun hb => hb.equals heq)) h
        · next hspace hslash hgt heq =>
          have hchar := isNameChar_nameChar (Bool.eq_false_iff.2 hspace) hslash hgt hreturn
          exact follows_nil ⟨h, AttributeName.push (hname.imp_left And.left) hchar heq⟩

theorem attributeName_equals : AttributeName "=" :=
  ⟨by simp, by simp [isNameChar, isSpace], by simp⟩

theorem follows_beforeNameStep (h : tag.Stands p) (hreturn : c ≠ '\r') :
    p.Follows (beforeNameStep tag c) := by
  unfold beforeNameStep
  split
  · exact follows_nil h
  · split
    · exact follows_nil h
    · split
      · exact follows_leaveTag h false
      · split
        · exact follows_nil ⟨h, attributeName_equals⟩
        · next hspace hslash hgt heq =>
          exact follows_attributeNameStep h
            (Or.inl ⟨rfl, Bool.eq_false_iff.2 hspace, hslash, hgt, heq⟩) hreturn

theorem follows_afterNameStep (h : tag.Stands p) (hreturn : c ≠ '\r') :
    p.Follows (afterNameStep tag c) := by
  unfold afterNameStep
  split
  · exact follows_nil h
  · split
    · exact follows_nil h
    · split
      · exact follows_nil h
      · split
        · exact follows_leaveTag h false
        · next hspace hslash heq hgt =>
          exact follows_attributeNameStep h
            (Or.inl ⟨rfl, Bool.eq_false_iff.2 hspace, hslash, hgt, heq⟩) hreturn

theorem follows_selfClosingStep (h : tag.Stands p) (hreturn : c ≠ '\r') :
    p.Follows (selfClosingStep tag c) := by
  unfold selfClosingStep
  split
  · exact follows_leaveTag h true
  · exact follows_beforeNameStep h hreturn

theorem follows_valueStep {soFar : String} (h : tag.Stands p) (hvalue : '\x00' ∉ soFar.toList)
    (quoting : Quoting) (c : Char) : p.Follows (valueStep tag quoting soFar c) := by
  have hdone := allows_attributeValue p hvalue
  have hmore : '\x00' ∉ (soFar.push (visible c)).toList := by
    simp [hvalue, (visible_ne_null c).symm]
  unfold valueStep
  split
  · exact follows_nil ⟨h, hvalue⟩
  · cases quoting with
    | double =>
      simp only
      split
      · exact follows_one hdone h
      · exact follows_nil ⟨h, hmore⟩
    | single =>
      simp only
      split
      · exact follows_one hdone h
      · exact follows_nil ⟨h, hmore⟩
    | bare =>
      simp only
      split
      · exact follows_one hdone h
      · split
        · exact (follows_leaveTag h false).after hdone
        · exact follows_nil ⟨h, hmore⟩

theorem follows_beforeValueStep (h : tag.Stands p) (c : Char) :
    p.Follows (beforeValueStep tag c) := by
  have hempty : '\x00' ∉ "".toList := List.not_mem_nil
  unfold beforeValueStep
  split
  · exact follows_nil h
  · split
    · exact follows_nil ⟨h, hempty⟩
    · split
      · exact follows_nil ⟨h, hempty⟩
      · split
        · exact follows_leaveTag h false
        · exact follows_valueStep h hempty .bare c

theorem follows_afterValueStep (h : tag.Stands p) (hreturn : c ≠ '\r') :
    p.Follows (afterValueStep tag c) := by
  unfold afterValueStep
  split
  · exact follows_nil h
  · split
    · exact follows_nil h
    · split
      · exact follows_leaveTag h false
      · exact follows_beforeNameStep h hreturn

theorem follows_afterTagNameStep (h : tag.Stands p) (c : Char) :
    p.Follows (afterTagNameStep tag c) := by
  unfold afterTagNameStep
  split
  · exact follows_nil h
  · split
    · exact follows_leaveTag h false
    · exact follows_nil h

theorem TagName.push {name : String} (h : TagName name) (hc : isNameChar (nameChar c) = true) :
    TagName (name.push (nameChar c)) := by
  obtain ⟨⟨x, hfirst, hlower⟩, hchars⟩ := h
  obtain ⟨xs, hname⟩ := List.head?_eq_some_iff.1 hfirst
  refine ⟨⟨x, by simp [hname], hlower⟩, ?_⟩
  rw [String.toList_push, List.forall_mem_append]
  exact ⟨hchars, by simpa using hc⟩

theorem tagName_singleton (hc : c.isAlpha = true) : TagName (String.singleton c.toLower) := by
  have hlower := (Char.isLower_toLower_eq_isAlpha c).trans hc
  exact ⟨⟨_, by simp, hlower⟩, by simpa using isNameChar_of_isLower hlower⟩

theorem follows_tagNameStep {name : String} (hname : TagName name) (closing : Bool)
    (hreturn : c ≠ '\r') : Phase.markup.Follows (tagNameStep closing name c) := by
  unfold tagNameStep
  split
  · cases closing with
    | true => exact follows_afterTagNameStep (Tag.stands_closing (Or.inl rfl)) c
    | false =>
      have hopened : (Tag.mk false name).Stands (.opening name) := rfl
      exact (follows_afterTagNameStep hopened c).after hname
  · next hends =>
    simp only [Bool.or_eq_true, beq_iff_eq, not_or] at hends
    have hchar := isNameChar_nameChar (Bool.eq_false_iff.2 hends.1.1) hends.1.2 hends.2 hreturn
    exact follows_nil ⟨rfl, hname.push hchar⟩

/-! ### Where tags can begin -/

theorem follows_closerNameStep {letters : String} (hletters : '\x00' ∉ letters.toList) (c : Char) :
    (Phase.ofMode mode).Follows (closerNameStep mode letters c) := by
  unfold closerNameStep
  split
  · next hc =>
    refine follows_nil ⟨rfl, ?_⟩
    simp [hletters, (isAlpha_ne_null hc).symm]
  · split
    · next hcloser =>
      rw [Bool.and_eq_true, beq_iff_eq] at hcloser
      have hphase : Phase.ofMode mode = .raw letters.toLower := by
        rw [Phase.ofMode, hcloser.2]
      exact follows_afterTagNameStep (Tag.stands_closing (Or.inr hphase)) c
    · exact follows_text (by simp [hletters]) (follows_textStep mode c)

theorem follows_endTagOpenStep (mode : Mode) (hreturn : c ≠ '\r') :
    (Phase.ofMode mode).Follows (endTagOpenStep mode c) := by
  have hraw : (Phase.ofMode mode).Follows
      (if c.isAlpha then (.closerName mode (String.singleton c), [])
        else (textStep mode c).after [.text "</"]) := by
    split
    · next hc => exact follows_nil ⟨rfl, by simpa using (isAlpha_ne_null hc).symm⟩
    · exact follows_text (by simp) (follows_textStep mode c)
  cases mode with
  | data =>
    simp only [endTagOpenStep]
    split
    · next hc => exact follows_nil ⟨rfl, tagName_singleton hc⟩
    · split
      · exact follows_nil rfl
      · exact follows_bogusStep harmless_nil hreturn
  | escapable | script | escaped | doubled => exact hraw

theorem follows_lessThanStep (mode : Mode) (hreturn : c ≠ '\r') :
    (Phase.ofMode mode).Follows (lessThanStep mode c) := by
  have htext : (Phase.ofMode mode).Follows ((textStep mode c).after [.text "<"]) :=
    follows_text (by simp) (follows_textStep mode c)
  unfold lessThanStep
  split
  · exact follows_nil rfl
  · cases mode with
    | data =>
      simp only
      split
      · exact follows_nil ⟨rfl, harmless_nil⟩
      · split
        · next hc => exact follows_nil ⟨rfl, tagName_singleton hc⟩
        · split
          · exact follows_bogusStep harmless_nil hreturn
          · exact htext
    | script tag =>
      simp only
      split
      · exact follows_one (Phase.allows_text (.script tag) (by simp)) rfl
      · exact htext
    | escaped tag dashes =>
      simp only
      split
      · exact follows_text (by simp) (follows_doubleStartStep tag "" c)
      · exact htext
    | escapable tag => exact htext
    | doubled tag dashes => exact htext

/-! ### References -/

/-- No reference stands for the null character, and neither do the characters of one that is
none. -/
theorem settled_ne_null {chars : List Char} (h : '\x00' ∉ chars) (sink : Sink)
    (following : Option Char) : '\x00' ∉ (settled sink chars following).toList := by
  have hliteral : '\x00' ∉ (String.ofList ('&' :: chars)).toList := by simpa using h
  unfold settled
  simp only
  split
  · exact hliteral
  · next name text hlongest =>
    have htext := Reference.ne_null_of_longest? hlongest
    split
    · exact hliteral
    · rw [String.toList_append, String.toList_ofList, List.mem_append, not_or]
      exact ⟨htext, fun hc => h (List.mem_of_mem_drop hc)⟩

theorem numbered_ne_null (n : Nat) : Reference.numbered n ≠ '\x00' := by
  unfold Reference.numbered
  split
  · decide
  · next hn =>
    obtain ⟨hzero, hvalid⟩ := not_or.1 hn
    rw [not_not] at hvalid
    cases hlookup : Reference.controlNames.lookup n with
    | some c =>
      obtain ⟨before, rest, heq, -⟩ := List.lookup_eq_some_iff.1 hlookup
      have hall : ∀ entry ∈ Reference.controlNames, entry.2 ≠ '\x00' := by decide
      exact hall (n, c) (by simp [heq])
    | none =>
      intro hnull
      have hnumber : (Char.ofNat n).toNat = n := by
        unfold Char.ofNat
        rw [dif_pos hvalid]
        rfl
      rw [Option.getD_none] at hnull
      rw [hnull] at hnumber
      exact hzero hnumber.symm

/-- Characters that go into a sink. -/
theorem follows_putAndStay {u : String} (h : sink.Stands p) (hu : '\x00' ∉ u.toList) :
    p.Follows (sink.putAndStay u) := by
  cases sink with
  | data mode =>
    obtain rfl : p = .ofMode mode := h
    exact follows_one (Phase.allows_text mode hu) rfl
  | value tag quoting soFar => exact follows_nil ⟨h.1, by simp [h.2, hu]⟩

theorem follows_putAndStep {u : String} (h : sink.Stands p) (hu : '\x00' ∉ u.toList) (c : Char) :
    p.Follows (sink.putAndStep u c) := by
  cases sink with
  | data mode =>
    obtain rfl : p = .ofMode mode := h
    exact follows_text hu (follows_textStep mode c)
  | value tag quoting soFar =>
    exact follows_valueStep h.1 (by simp [h.2, hu]) quoting c

/-- The end of the input puts characters into a sink. -/
theorem allowsAll_put {u : String} (h : sink.Stands p) (hu : '\x00' ∉ u.toList) :
    p.AllowsAll (sink.put u).2 := by
  cases sink with
  | data mode =>
    obtain rfl : p = .ofMode mode := h
    exact ⟨Phase.allows_text mode hu, trivial⟩
  | value => trivial

theorem follows_namedStep {chars : List Char} (h : sink.Stands p) (hchars : '\x00' ∉ chars)
    (c : Char) : p.Follows (namedStep sink chars c) := by
  unfold namedStep
  simp only
  split
  · next hbegin =>
    have hall := Reference.isBeginning_ne_null hbegin
    split
    · exact follows_putAndStay h (settled_ne_null hall sink none)
    · exact follows_nil ⟨h, hall⟩
  · exact follows_putAndStep h (settled_ne_null hchars sink _) c

theorem follows_ampersandStep (h : sink.Stands p) (c : Char) :
    p.Follows (ampersandStep sink c) := by
  unfold ampersandStep
  split
  · exact follows_nil h
  · split
    · exact follows_namedStep h List.not_mem_nil c
    · exact follows_putAndStep h (by simp) c

theorem follows_numberedStep (h : sink.Stands p) (n : Nat) (c : Char) :
    p.Follows (numberedStep sink n c) := by
  have htext : '\x00' ∉ (String.singleton (Reference.numbered n)).toList := by
    simpa using (numbered_ne_null n).symm
  unfold numberedStep
  simp only
  split
  · exact follows_putAndStay h htext
  · exact follows_putAndStep h htext c

theorem follows_decimalStep (h : sink.Stands p) (n : Nat) (c : Char) :
    p.Follows (decimalStep sink n c) := by
  unfold decimalStep
  split
  · exact follows_nil h
  · exact follows_numberedStep h n c

theorem follows_hexadecimalStep (h : sink.Stands p) (n : Nat) (c : Char) :
    p.Follows (hexadecimalStep sink n c) := by
  unfold hexadecimalStep
  split
  · exact follows_nil h
  · exact follows_numberedStep h n c

theorem follows_hexStartStep {mark : Char} (h : sink.Stands p) (hmark : mark ≠ '\x00') (c : Char) :
    p.Follows (hexStartStep sink mark c) := by
  unfold hexStartStep
  split
  · exact follows_nil h
  · exact follows_putAndStep h (by simpa using hmark.symm) c

theorem follows_numberSignStep (h : sink.Stands p) (c : Char) :
    p.Follows (numberSignStep sink c) := by
  unfold numberSignStep
  split
  · next hmark =>
    refine follows_nil ⟨h, ?_⟩
    rcases hmark with rfl | rfl <;> decide
  · split
    · exact follows_nil h
    · exact follows_putAndStep h (by simp) c

/-! ### The machine -/

/-- **Whatever the next character, the lexer keeps to the order of tokens.** -/
theorem follows_step (h : s.Stands p) (hreturn : c ≠ '\r') : p.Follows (s.step c) := by
  cases s with
  | text mode =>
    obtain rfl : p = .ofMode mode := h
    exact follows_textStep mode c
  | lessThan mode =>
    obtain rfl : p = .ofMode mode := h
    exact follows_lessThanStep mode hreturn
  | endTagOpen mode =>
    obtain rfl : p = .ofMode mode := h
    exact follows_endTagOpenStep mode hreturn
  | closerName mode letters =>
    obtain ⟨rfl, hletters⟩ := h
    exact follows_closerNameStep hletters c
  | escapeStart name dashed =>
    obtain rfl : p = .raw name := h
    exact follows_escapeStartStep name dashed c
  | doubleStart name letters =>
    obtain rfl : p = .raw name := h
    exact follows_doubleStartStep name letters c
  | doubleLess name =>
    obtain rfl : p = .raw name := h
    exact follows_doubleLessStep name c
  | doubleEnd name letters =>
    obtain rfl : p = .raw name := h
    exact follows_doubleEndStep name letters c
  | tagName closing name =>
    obtain ⟨rfl, hname⟩ := h
    exact follows_tagNameStep hname closing hreturn
  | beforeName tag => exact follows_beforeNameStep h hreturn
  | attributeName tag name => exact follows_attributeNameStep h.1 (Or.inr h.2) hreturn
  | afterName tag => exact follows_afterNameStep h hreturn
  | beforeValue tag => exact follows_beforeValueStep h c
  | value tag quoting soFar => exact follows_valueStep h.1 h.2 quoting c
  | afterValue tag => exact follows_afterValueStep h hreturn
  | selfClosing tag => exact follows_selfClosingStep h hreturn
  | declaration chars =>
    obtain ⟨rfl, hchars⟩ := h
    exact follows_declarationStep hchars hreturn
  | documentType =>
    obtain rfl : p = .markup := h
    exact follows_documentTypeStep c
  | bogusComment u =>
    obtain ⟨rfl, hu⟩ := h
    exact follows_bogusStep hu hreturn
  | commentStart | commentStartDash | comment | commentLess | commentBang | commentDash
  | commentEnd | commentEndBang =>
    obtain ⟨rfl, cs, hcs⟩ := h
    exact hcs.follows_step hreturn
  | ampersand sink => exact follows_ampersandStep h c
  | named sink chars => exact follows_namedStep h.1 h.2 c
  | numberSign sink => exact follows_numberSignStep h c
  | hexStart sink mark => exact follows_hexStartStep h.1 h.2 c
  | decimal sink n => exact follows_decimalStep h n c
  | hexadecimal sink n => exact follows_hexadecimalStep h n c

/-- What the end of the input completes can come where the lexer stands. -/
theorem allowsAll_finish (h : s.Stands p) : p.AllowsAll s.finish := by
  cases s with
  | lessThan mode | endTagOpen mode =>
    obtain rfl : p = .ofMode mode := h
    exact ⟨Phase.allows_text mode (by simp), trivial⟩
  | closerName mode letters =>
    obtain ⟨rfl, hletters⟩ := h
    exact ⟨Phase.allows_text mode (by simp [hletters]), trivial⟩
  | declaration chars =>
    obtain ⟨rfl, hchars⟩ := h
    have hu : Harmless (String.ofList chars).toList := by rwa [String.toList_ofList]
    exact ⟨⟨hu.readable, hu.2.2⟩, trivial⟩
  | bogusComment u =>
    obtain ⟨rfl, hu⟩ := h
    exact ⟨⟨hu.readable, hu.2.2⟩, trivial⟩
  | commentStart | commentStartDash | comment | commentLess | commentBang | commentDash
  | commentEnd | commentEndBang =>
    obtain ⟨rfl, cs, hcs⟩ := h
    obtain ⟨u, hfinish, hu, hreturn, -⟩ := hcs.ended
    rw [hfinish]
    exact ⟨⟨hu, hreturn⟩, trivial⟩
  | ampersand sink | numberSign sink => exact allowsAll_put h (by simp)
  | named sink chars => exact allowsAll_put h.1 (settled_ne_null h.2 sink none)
  | hexStart sink mark => exact allowsAll_put h.1 (by simpa using h.2.symm)
  | decimal sink n | hexadecimal sink n =>
    exact allowsAll_put h (by simpa using (numbered_ne_null n).symm)
  | text | escapeStart | doubleStart | doubleLess | doubleEnd | tagName | beforeName
  | attributeName | afterName | beforeValue | value | afterValue | selfClosing | documentType =>
    trivial

theorem follows_run {cs : List Char} (h : s.Stands p) (hcs : '\r' ∉ cs) :
    p.Follows (s.run cs) := by
  induction cs generalizing s p with
  | nil => exact follows_nil h
  | cons c cs ih =>
    rw [List.mem_cons, not_or] at hcs
    obtain ⟨htokens, hnext⟩ := follows_step h (fun hc => hcs.1 hc.symm)
    obtain ⟨hrest, hend⟩ := ih hnext hcs.2
    refine ⟨Phase.allowsAll_append.2 ⟨htokens, hrest⟩, ?_⟩
    simp only [State.run, Step.after, Phase.after, List.foldl_append]
    exact hend

theorem not_mem_normalizeLines (cs : List Char) : '\r' ∉ normalizeLines cs := by
  induction cs using normalizeLines.induct with
  | case1 => exact List.not_mem_nil
  | case2 cs ih => simpa [normalizeLines] using ih
  | case3 cs hnext ih =>
    rw [normalizeLines.eq_3 cs hnext]
    simpa using ih
  | case4 c cs _ hc ih =>
    have hne : ¬ '\r' = c := fun heq => hc heq.symm
    simp [normalizeLines, hne, ih]

/-- **The tokens of any text come in this order.** -/
theorem allowsAll_tokens (markup : List Char) : Phase.markup.AllowsAll (tokens markup) := by
  have hstart : (State.text .data).Stands .markup := rfl
  obtain ⟨htokens, hend⟩ := follows_run hstart (not_mem_normalizeLines markup)
  exact Phase.allowsAll_append.2 ⟨htokens, allowsAll_finish hend⟩

end LiveMarkup.Markup
