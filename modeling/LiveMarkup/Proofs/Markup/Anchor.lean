/-
How the lexer reads a comment that carries a name.

Such a comment stands for a slot without a value, and it is put into the markup wherever the
slot is.  Where markup is read it is a comment, but in a tag, in a declaration or in a
comment that is open it is not.  It is text as it stands only where text is read up to an end
tag or a quote (`State.verbatim`).  Everywhere else its name ends up in a comment or as
the name of an attribute without a value, or nowhere, and the lexer goes on as it does
after an empty comment (`hushes_of_not_verbatim`).

Two runs are compared, one with the name and one without it, and what is said of them is
said from every state on the way: `State.Hushes`.
-/
import LiveMarkup.Proofs.Markup.Reading

namespace LiveMarkup.Markup

/-! ### Where markup is not read -/

def Mode.verbatim : Mode → Bool
  | .data => false
  | .escapable _ | .script _ | .escaped _ _ | .doubled _ _ => true

def Quoting.verbatim : Quoting → Bool
  | .bare => false
  | .double | .single => true

def Sink.verbatim : Sink → Bool
  | .data mode => mode.verbatim
  | .value _ quoting _ => quoting.verbatim

/-- Whether what comes next is taken as it stands: in an element whose content is no markup,
and between quotes. -/
def State.verbatim : State → Bool
  | .text mode | .lessThan mode | .endTagOpen mode | .closerName mode _ => mode.verbatim
  | .escapeStart _ _ | .doubleStart _ _ | .doubleLess _ | .doubleEnd _ _ => true
  | .value _ quoting _ => quoting.verbatim
  | .ampersand sink | .named sink _ | .numberSign sink | .hexStart sink _ | .decimal sink _
  | .hexadecimal sink _ => sink.verbatim
  | .tagName _ _ | .beforeName _ | .attributeName _ _ | .afterName _ | .beforeValue _
  | .afterValue _ | .selfClosing _ | .declaration _ | .documentType | .bogusComment _
  | .commentStart | .commentStartDash | .comment _ | .commentLess _ | .commentBang _
  | .commentDash _ | .commentEnd _ | .commentEndBang _ => false

/-! ### Hushed tokens -/

/-- The first tokens are the second, but for the text of a comment or one more attribute that
is written without a value. -/
inductive Hushed : List Token → List Token → Prop
  | same (ts : List Token) : Hushed ts ts
  | comment (before after : List Token) (s s' : String) :
    Hushed (before ++ .comment s :: after) (before ++ .comment s' :: after)
  | name (before after : List Token) (name next : String) :
    Hushed (before ++ .attributeName name :: .attributeName next :: after)
      (before ++ .attributeName next :: after)

variable {ts us : List Token}

theorem Hushed.append_left (h : Hushed ts us) (before : List Token) :
    Hushed (before ++ ts) (before ++ us) := by
  cases h with
  | same => exact .same _
  | comment before' after s s' =>
    rw [← List.append_assoc, ← List.append_assoc]
    exact .comment ..
  | name before' after name next =>
    rw [← List.append_assoc, ← List.append_assoc]
    exact .name ..

theorem Hushed.append_right (h : Hushed ts us) (after : List Token) :
    Hushed (ts ++ after) (us ++ after) := by
  cases h with
  | same => exact .same _
  | comment before after' s s' =>
    rw [List.append_assoc, List.append_assoc]
    exact .comment ..
  | name before after' name next =>
    rw [List.append_assoc, List.append_assoc]
    exact .name ..

/-! ### Comments with a name -/

/-- The beginning of a comment with a name. -/
def anchorOpening : List Char := ['<', '!', '-', '-', ' ']

/-- Its end. -/
def anchorClosing : List Char := [' ', '-', '-', '>']

/-- A comment with a name in it. -/
def anchorChars (name : String) : List Char := anchorOpening ++ name.toList ++ anchorClosing

/-- A name that would be the name of an attribute if it stood in a tag. -/
structure AnchorName (name : String) : Prop where
  nonempty : name ≠ ""
  chars : ∀ c ∈ name.toList, isNameChar c = true
  noEquals : '=' ∉ name.toList

variable {name : String} {s s' : State} {c : Char} {cs ds opening : List Char} {tag : Tag}

theorem AnchorName.attributeName (h : AnchorName name) : AttributeName name where
  nonempty := h.nonempty
  chars := h.chars
  noEquals _ hc heq := h.noEquals (heq ▸ List.mem_of_mem_tail hc)

theorem AnchorName.not_mem_gt (h : AnchorName name) : '>' ∉ name.toList := fun hc =>
  absurd (h.chars '>' hc) (by decide)

/-- After what is left of the beginning, `opening`, a name makes no difference but that of
hushed tokens. -/
def State.Hushes (opening : List Char) (name : String) (s : State) : Prop :=
  ∃ (q : State) (ts us : List Token),
    s.run (opening ++ name.toList ++ anchorClosing) = (q, ts) ∧
      s.run (opening ++ anchorClosing) = (q, us) ∧ Hushed ts us

/-- One character of the beginning. -/
theorem State.Hushes.cons (h : s'.Hushes opening name) (hs : s.step c = (s', ts)) :
    s.Hushes (c :: opening) name := by
  obtain ⟨q, us, us', hrun, hrun', hhushed⟩ := h
  refine ⟨q, ts ++ us, ts ++ us', ?_, ?_, hhushed.append_left ts⟩
  · rw [List.cons_append, List.cons_append, State.run, hs, hrun]
    rfl
  · rw [List.cons_append, State.run, hs, hrun']
    rfl

/-! #### In comments -/

/-- What goes on up to the next greater-than sign and is a comment then. -/
theorem hushes_of_comment
    (hend : ∀ ds, '>' ∉ ds → ∃ t, s.run (ds ++ ['-', '-', '>']) = (.text .data, [.comment t]))
    (hopening : '>' ∉ opening) (hname : '>' ∉ name.toList) : s.Hushes opening name := by
  obtain ⟨t, hnamed⟩ := hend (opening ++ name.toList ++ [' ']) (by simp [hopening, hname])
  obtain ⟨t', hempty⟩ := hend (opening ++ [' ']) (by simp [hopening])
  refine ⟨.text .data, _, _, ?_, ?_, .comment [] [] t t'⟩
  · simpa [anchorClosing] using hnamed
  · simpa [anchorClosing] using hempty

theorem hushes_of_inComment (h : InComment cs s) (hopening : '>' ∉ opening)
    (hname : '>' ∉ name.toList) : s.Hushes opening name := by
  refine hushes_of_comment (fun ds hgt => ?_) hopening hname
  induction ds generalizing cs s with
  | nil => exact ⟨_, h.run_close⟩
  | cons c rest ih =>
    rw [List.mem_cons, not_or] at hgt
    obtain ⟨s', hstep, hs'⟩ := h.step (c := c) fun hc => absurd hc.symm hgt.1
    obtain ⟨t, hrest⟩ := ih hs' hgt.2
    exact ⟨t, State.run_cons hstep hrest⟩

theorem hushes_bogusComment (text : String) (hopening : '>' ∉ opening)
    (hname : '>' ∉ name.toList) : (State.bogusComment text).Hushes opening name := by
  refine hushes_of_comment (fun ds hgt => ?_) hopening hname
  induction ds generalizing text with
  | nil => exact ⟨(text.push '-').push '-', rfl⟩
  | cons c rest ih =>
    rw [List.mem_cons, not_or] at hgt
    obtain ⟨t, hrest⟩ := ih (text.push (visible c)) hgt.2
    refine ⟨t, State.run_cons ?_ hrest⟩
    simp [State.step, bogusStep, Ne.symm hgt.1]

theorem hushes_documentType (hopening : '>' ∉ opening) (hname : '>' ∉ name.toList) :
    State.documentType.Hushes opening name := by
  have hend : ∀ ds : List Char, '>' ∉ ds →
      State.documentType.run (ds ++ anchorClosing) = (.text .data, []) := by
    intro ds hgt
    induction ds with
    | nil => rfl
    | cons c rest ih =>
      rw [List.mem_cons, not_or] at hgt
      refine State.run_cons ?_ (ih hgt.2)
      simp [State.step, documentTypeStep, Ne.symm hgt.1]
  exact ⟨_, _, _, hend _ (by simp [hopening, hname]), hend _ hopening, .same []⟩

/-- Where a comment can be opened. -/
theorem hushes_lessThan (hname : '>' ∉ name.toList) :
    (State.lessThan .data).Hushes ['!', '-', '-', ' '] name := by
  have hinside : State.commentStart.Hushes [' '] name :=
    hushes_of_inComment rfl (by decide) hname
  have hdash : (State.declaration ['-']).Hushes ['-', ' '] name := hinside.cons rfl
  have hbang : (State.declaration []).Hushes ['-', '-', ' '] name := hdash.cons rfl
  exact hbang.cons rfl

/-! #### In tags -/

/-- What closes a comment is an attribute in a tag. -/
theorem run_dashes (hs : s = .beforeName tag ∨ s = .afterName tag) :
    s.run ['-', '-', '>'] =
      ((leaveTag tag false).1, .attributeName "--" :: (leaveTag tag false).2) := by
  have hdash : s.step '-' = (.attributeName tag "-", []) := by rcases hs with rfl | rfl <;> rfl
  have hend : (State.attributeName tag "-").run ['-', '>'] =
      ((leaveTag tag false).1, .attributeName "--" :: (leaveTag tag false).2) := by
    simp [State.run, State.step, attributeNameStep, Step.after, isSpace, nameChar, visible]
  exact State.run_cons hdash hend

/-- Between two attributes the name is one more. -/
theorem hushes_between (hname : AnchorName name)
    (hs : s = .beforeName tag ∨ s = .afterName tag) : s.Hushes [] name := by
  have hfirst : ∀ c, name.toList.head? = some c →
      s.step c = (.attributeName tag (String.singleton c), []) := by
    intro c hc
    have hmem := List.mem_of_mem_head? hc
    have hchar := hname.chars c hmem
    rcases hs with rfl | rfl
    · exact step_beforeName tag hchar
    · have heq : c ≠ '=' := fun heq => hname.noEquals (heq ▸ hmem)
      obtain ⟨-, hspace, hslash, hgt, -⟩ := isNameChar_iff.1 hchar
      simp [State.step, afterNameStep, attributeNameStep, hspace, hslash, hgt, heq,
        nameChar_of_isNameChar hchar]
  have hread := run_attributeName hname.attributeName hfirst
  have hblank : (State.attributeName tag name).run [' '] =
      (.afterName tag, [.attributeName name]) := rfl
  have hnamed : s.run (name.toList ++ anchorClosing) = _ :=
    State.run_trans hread (State.run_trans hblank (run_dashes (Or.inr rfl)))
  have hempty : s.run anchorClosing = _ :=
    State.run_cons (by rcases hs with rfl | rfl <;> rfl) (run_dashes hs)
  exact ⟨_, _, _, hnamed, hempty, .name [] (leaveTag tag false).2 name "--"⟩

/-- What is read up to a blank has the beginning of the comment in it. -/
theorem hushes_of_collecting {f : String → State}
    (hbang : ∀ t, (f t).step '!' = (f (t.push '!'), []))
    (hdash : ∀ t, (f t).step '-' = (f (t.push '-'), []))
    (hblank : ∀ t, (f t).Hushes [' '] name) (t : String) : (f t).Hushes ['!', '-', '-', ' '] name :=
  (((hblank _).cons (hdash _)).cons (hdash _)).cons (hbang t)

theorem hushes_attributeName (hname : AnchorName name) (tag : Tag) (t : String) :
    (State.attributeName tag t).Hushes ['!', '-', '-', ' '] name :=
  hushes_of_collecting (f := .attributeName tag) (fun _ => rfl) (fun _ => rfl)
    (fun _ => (hushes_between hname (Or.inr rfl)).cons rfl) t

theorem hushes_tagName (hname : AnchorName name) (closing : Bool) (t : String) :
    (State.tagName closing t).Hushes ['!', '-', '-', ' '] name :=
  hushes_of_collecting (f := .tagName closing) (fun _ => rfl) (fun _ => rfl)
    (fun _ => (hushes_between hname (Or.inl rfl)).cons rfl) t

theorem hushes_value (hname : AnchorName name) (tag : Tag) (t : String) :
    (State.value tag .bare t).Hushes ['!', '-', '-', ' '] name :=
  hushes_of_collecting (f := .value tag .bare) (fun _ => rfl) (fun _ => rfl)
    (fun _ => (hushes_between hname (Or.inl rfl)).cons rfl) t

/-! #### Everywhere -/

/-- A less-than sign ends a character reference. -/
theorem hushes_of_reference (hname : AnchorName name) {sink : Sink} (hsink : sink.verbatim = false)
    (chars : String) (hs : s.step '<' = sink.putAndStep chars '<') :
    s.Hushes anchorOpening name := by
  cases sink with
  | data mode =>
    cases mode with
    | data => exact (hushes_lessThan hname.not_mem_gt).cons hs
    | escapable | script | escaped | doubled => cases hsink
  | value tag quoting soFar =>
    cases quoting with
    | bare => exact (hushes_value hname tag ((soFar ++ chars).push '<')).cons hs
    | double | single => cases hsink

/-- What occurs in no declaration makes one a comment, unless it is a dash that opens one. -/
theorem declarationStep_of_not_mem {chars : List Char} (hc : c.toLower ∉ documentTypeName)
    (hone : chars ++ [c] ≠ ['-']) (htwo : chars ++ [c] ≠ ['-', '-']) :
    declarationStep chars c = bogusStep (String.ofList chars) c := by
  have hlower : c.toLower ∈ (chars ++ [c]).map Char.toLower :=
    List.mem_map_of_mem (List.mem_append_right chars List.mem_cons_self)
  have hname : (chars ++ [c]).map Char.toLower ≠ documentTypeName := fun heq => hc (heq ▸ hlower)
  have hbegins : ((chars ++ [c]).map Char.toLower).isPrefixOf documentTypeName = false := by
    rw [Bool.eq_false_iff]
    exact fun hbegins => hc ((List.isPrefixOf_iff_prefix.1 hbegins).subset hlower)
  unfold declarationStep
  simp only
  rw [if_neg htwo, if_neg hname, if_neg]
  rw [hbegins, not_or]
  exact ⟨hone, Bool.false_ne_true⟩

/-- Nothing that is declared has a less-than sign in it. -/
theorem declarationStep_lessThan (chars : List Char) :
    declarationStep chars '<' = (.bogusComment ((String.ofList chars).push '<'), []) := by
  have hne : ∀ l : List Char, '<' ∉ l → chars ++ ['<'] ≠ l := by
    rintro l hl rfl
    exact hl (by simp)
  exact declarationStep_of_not_mem (by decide) (hne _ (by decide)) (hne _ (by decide))

/-- **Where markup is read, the name in a comment makes no difference but that of hushed
tokens.** -/
theorem hushes_of_not_verbatim (hs : s.verbatim = false) (hname : AnchorName name) :
    s.Hushes anchorOpening name := by
  have hgt := hname.not_mem_gt
  have hopening : '>' ∉ anchorOpening := by decide
  have hrest : '>' ∉ ['!', '-', '-', ' '] := by decide
  cases s with
  | text mode | lessThan mode =>
    cases mode with
    | data => exact (hushes_lessThan hgt).cons rfl
    | escapable | script | escaped | doubled => cases hs
  | endTagOpen mode =>
    cases mode with
    | data => exact (hushes_bogusComment "<" hrest hgt).cons rfl
    | escapable | script | escaped | doubled => cases hs
  | closerName mode letters =>
    cases mode with
    | data => exact (hushes_lessThan hgt).cons rfl
    | escapable | script | escaped | doubled => cases hs
  | escapeStart | doubleStart | doubleLess | doubleEnd => cases hs
  | tagName closing t => exact (hushes_tagName hname closing (t.push '<')).cons rfl
  | beforeName tag | afterName tag | afterValue tag | selfClosing tag =>
    exact (hushes_attributeName hname tag "<").cons rfl
  | attributeName tag t => exact (hushes_attributeName hname tag (t.push '<')).cons rfl
  | beforeValue tag => exact (hushes_value hname tag "<").cons rfl
  | value tag quoting soFar =>
    cases quoting with
    | bare => exact (hushes_value hname tag (soFar.push '<')).cons rfl
    | double | single => cases hs
  | declaration chars =>
    exact (hushes_bogusComment _ hrest hgt).cons (declarationStep_lessThan chars)
  | documentType => exact hushes_documentType hopening hgt
  | bogusComment t => exact hushes_bogusComment t hopening hgt
  | commentStart | commentStartDash | comment | commentLess | commentBang | commentDash
  | commentEnd | commentEndBang => exact hushes_of_inComment rfl hopening hgt
  | ampersand sink => exact hushes_of_reference hname hs "&" rfl
  | named sink chars =>
    refine hushes_of_reference hname hs (settled sink chars (some '<')) ?_
    have hends := Reference.isBeginning_concat (c := '<') (by decide) (by decide) chars
    simp [State.step, namedStep, hends]
  | numberSign sink => exact hushes_of_reference hname hs "&#" rfl
  | hexStart sink mark => exact hushes_of_reference hname hs (String.ofList ['&', '#', mark]) rfl
  | decimal sink number | hexadecimal sink number =>
    exact hushes_of_reference hname hs (String.singleton (Reference.numbered number)) rfl

/-! ### Markup with a comment in it -/

/-- What does not begin with a line feed is no part of the end of a line. -/
theorem normalizeLines_append_cons (hc : c ≠ '\n') (cs ds : List Char) :
    normalizeLines (cs ++ c :: ds) = normalizeLines cs ++ normalizeLines (c :: ds) := by
  induction cs using normalizeLines.induct with
  | case1 => rfl
  | case2 cs ih => simp [normalizeLines, ih]
  | case3 cs hnext ih =>
    rw [normalizeLines.eq_3 cs hnext, List.cons_append, List.cons_append, ← ih]
    refine normalizeLines.eq_3 _ fun rest hrest => ?_
    cases cs with
    | nil => exact hc (List.cons.inj hrest).1
    | cons c' cs' =>
      obtain ⟨rfl, -⟩ := List.cons.inj hrest
      exact hnext cs' rfl
  | case4 c' cs _ hc' ih =>
    have hreturn : '\r' ∉ [c'] := fun hmem => hc' (List.mem_singleton.1 hmem).symm
    have hone : ∀ rest, normalizeLines (c' :: rest) = c' :: normalizeLines rest :=
      normalizeLines_append hreturn
    rw [List.cons_append, hone, hone, ih]
    rfl

theorem normalizeLines_anchorChars (hname : '\r' ∉ name.toList) (before after : List Char) :
    normalizeLines (before ++ anchorChars name ++ after) =
      normalizeLines before ++ (anchorChars name ++ normalizeLines after) := by
  have hanchor : '\r' ∉ anchorChars name := by
    simp [anchorChars, anchorOpening, anchorClosing, hname]
  rw [← normalizeLines_append hanchor, List.append_assoc]
  exact normalizeLines_append_cons (by decide) before _

/-- **Where markup is read, the name in a comment makes no difference to the tokens but that of
hushed ones.** -/
theorem hushed_tokens (hname : AnchorName name) (before after : List Char)
    (hs : ((State.text .data).run (normalizeLines before)).1.verbatim = false) :
    Hushed (tokens (before ++ anchorChars name ++ after))
      (tokens (before ++ anchorChars "" ++ after)) := by
  have hreturn : '\r' ∉ name.toList := fun hc => absurd (hname.chars '\r' hc) (by decide)
  obtain ⟨q, ts, us, hnamed, hempty, hhushed⟩ := hushes_of_not_verbatim hs hname
  have htokens : ∀ (name : String) (ts : List Token), '\r' ∉ name.toList →
      ((State.text .data).run (normalizeLines before)).1.run (anchorChars name) = (q, ts) →
      tokens (before ++ anchorChars name ++ after) =
        ((State.text .data).run (normalizeLines before)).2 ++
          (ts ++ ((q.run (normalizeLines after)).2 ++ (q.run (normalizeLines after)).1.finish)) := by
    intro name ts hreturn hrun
    have hrest := State.run_trans hrun (Prod.eta (q.run (normalizeLines after))).symm
    have hall := State.run_trans
      (Prod.eta ((State.text .data).run (normalizeLines before))).symm hrest
    rw [tokens, normalizeLines_anchorChars hreturn, hall]
    simp
  rw [htokens name ts hreturn hnamed, htokens "" us (by decide) hempty]
  exact (hhushed.append_right _).append_left _

end LiveMarkup.Markup
