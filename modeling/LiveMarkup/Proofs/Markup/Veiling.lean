/-
Lexing behind a veil.

Two runs of the lexer, one over markup with veiled markers and one over the same markup with the
markers themselves.  What is said of two states is `AlikeState`: they are the same but for what
was read of names, values and comments.  Names and values are woven of the same stretches; of
comments nothing is said, for their text is never looked at again.

A character of the markup keeps states alike, one lemma for each step of the lexer.  A marker
does so as well.  Wherever it is met it ends up as a whole in a name, in a value, in a
comment or in character data (`AlikeState.mark`), because its first dash ends whatever a dash is no
part of.
-/
import LiveMarkup.Proofs.Markup.Veil

namespace LiveMarkup.Markup

open Marker

/-! ### States and tokens that are alike -/

/-- The end tag that is waited for, if any, is one of an element that holds no markup. -/
def Mode.Proper (mode : Mode) : Prop := ∀ tag ∈ mode.closer?, contentModel tag ≠ .markup

/-- Whether the lexer has read nothing in this state that it will give on: no name, no value, no
comment and no tag. -/
def State.Idle : State → Prop
  | .text mode | .lessThan mode | .endTagOpen mode | .closerName mode _ => mode.Proper
  | .escapeStart tag _ | .doubleStart tag _ | .doubleLess tag | .doubleEnd tag _ =>
    contentModel tag ≠ .markup
  | .declaration _ | .commentStart | .commentStartDash | .documentType => True
  | _ => False

namespace Veil

variable (v : Veil)

structure AlikeTag (tag tag' : Tag) : Prop where
  closing : tag.closing = tag'.closing
  name : v.Named tag.name tag'.name

inductive AlikeSink : Sink → Sink → Prop
  | data {mode : Mode} (hmode : mode.Proper) : AlikeSink (.data mode) (.data mode)
  | value {tag tag' : Tag} {soFar soFar' : String} (htag : v.AlikeTag tag tag')
      (quoting : Quoting) (hvalue : v.Woven soFar soFar') :
      AlikeSink (.value tag quoting soFar) (.value tag' quoting soFar')

/-- States of the two runs, `cs` being the characters since the last marker. -/
inductive AlikeState (cs : List Char) : State → State → Prop
  | idle {s : State} (hs : s.Idle) : AlikeState cs s s
  | tagName (closing : Bool) {name name' : String} (hname : v.Reading cs name name') :
      AlikeState cs (.tagName closing name) (.tagName closing name')
  | beforeName {tag tag' : Tag} (htag : v.AlikeTag tag tag') :
      AlikeState cs (.beforeName tag) (.beforeName tag')
  | attributeName {tag tag' : Tag} {name name' : String} (htag : v.AlikeTag tag tag')
      (hname : v.Reading cs name name') :
      AlikeState cs (.attributeName tag name) (.attributeName tag' name')
  | afterName {tag tag' : Tag} (htag : v.AlikeTag tag tag') :
      AlikeState cs (.afterName tag) (.afterName tag')
  | beforeValue {tag tag' : Tag} (htag : v.AlikeTag tag tag') :
      AlikeState cs (.beforeValue tag) (.beforeValue tag')
  | value {tag tag' : Tag} {soFar soFar' : String} (htag : v.AlikeTag tag tag')
      (quoting : Quoting) (hvalue : v.Woven soFar soFar') :
      AlikeState cs (.value tag quoting soFar) (.value tag' quoting soFar')
  | afterValue {tag tag' : Tag} (htag : v.AlikeTag tag tag') :
      AlikeState cs (.afterValue tag) (.afterValue tag')
  | selfClosing {tag tag' : Tag} (htag : v.AlikeTag tag tag') :
      AlikeState cs (.selfClosing tag) (.selfClosing tag')
  | bogusComment (s s' : String) : AlikeState cs (.bogusComment s) (.bogusComment s')
  | comment (s s' : String) : AlikeState cs (.comment s) (.comment s')
  | commentLess (s s' : String) : AlikeState cs (.commentLess s) (.commentLess s')
  | commentBang (s s' : String) : AlikeState cs (.commentBang s) (.commentBang s')
  | commentDash (s s' : String) : AlikeState cs (.commentDash s) (.commentDash s')
  | commentEnd (s s' : String) : AlikeState cs (.commentEnd s) (.commentEnd s')
  | commentEndBang (s s' : String) : AlikeState cs (.commentEndBang s) (.commentEndBang s')
  | ampersand {sink sink' : Sink} (hsink : v.AlikeSink sink sink') :
      AlikeState cs (.ampersand sink) (.ampersand sink')
  | named {sink sink' : Sink} (hsink : v.AlikeSink sink sink') (chars : List Char) :
      AlikeState cs (.named sink chars) (.named sink' chars)
  | numberSign {sink sink' : Sink} (hsink : v.AlikeSink sink sink') :
      AlikeState cs (.numberSign sink) (.numberSign sink')
  | hexStart {sink sink' : Sink} (hsink : v.AlikeSink sink sink') (mark : Char) :
      AlikeState cs (.hexStart sink mark) (.hexStart sink' mark)
  | decimal {sink sink' : Sink} (hsink : v.AlikeSink sink sink') (number : Nat) :
      AlikeState cs (.decimal sink number) (.decimal sink' number)
  | hexadecimal {sink sink' : Sink} (hsink : v.AlikeSink sink sink') (number : Nat) :
      AlikeState cs (.hexadecimal sink number) (.hexadecimal sink' number)

inductive AlikeToken : Token → Token → Prop
  | startTag {tag tag' : String} (htag : v.Named tag tag') :
      AlikeToken (.startTag tag) (.startTag tag')
  | attributeName {name name' : String} (hname : v.Named name name') :
      AlikeToken (.attributeName name) (.attributeName name')
  | attributeValue {value value' : String} (hvalue : v.Woven value value') :
      AlikeToken (.attributeValue value) (.attributeValue value')
  | startTagEnd (selfClosing : Bool) :
      AlikeToken (.startTagEnd selfClosing) (.startTagEnd selfClosing)
  | endTag {tag tag' : String} (htag : v.Named tag tag') : AlikeToken (.endTag tag) (.endTag tag')
  | text (s : String) : AlikeToken (.text s) (.text s)
  | comment (s s' : String) : AlikeToken (.comment s) (.comment s')

/-- Tokens of the two runs.  A marker in character data comes character by character. -/
inductive AlikeTokens : List Token → List Token → Prop
  | nil : AlikeTokens [] []
  | cons {t t' : Token} {ts ts' : List Token} (ht : v.AlikeToken t t') (hts : AlikeTokens ts ts') :
      AlikeTokens (t :: ts) (t' :: ts')
  | mark {index : Nat} {ts ts' : List Token} (hindex : index < v.slots) (hts : AlikeTokens ts ts') :
      AlikeTokens ((markChars v.brace index).map textToken ++ ts)
        ((encodeChars index).map textToken ++ ts')

/-- Steps of the two runs. -/
structure AlikeStep (cs : List Char) (p p' : Step) : Prop where
  state : v.AlikeState cs p.1 p'.1
  tokens : v.AlikeTokens p.2 p'.2

end Veil

variable {v : Veil} {cs : List Char} {c : Char} {s s' : State} {tag tag' : Tag}
  {sink sink' : Sink} {mode : Mode} {p p' : Step} {ts ts' us us' : List Token}
  {name name' soFar soFar' : String}

namespace Veil

theorem AlikeToken.single {t t' : Token} (h : v.AlikeToken t t') : v.AlikeTokens [t] [t'] :=
  .cons h .nil

theorem AlikeTokens.append (h : v.AlikeTokens ts ts') (h' : v.AlikeTokens us us') :
    v.AlikeTokens (ts ++ us) (ts' ++ us') := by
  induction h with
  | nil => exact h'
  | cons ht _ ih => exact .cons ht ih
  | mark hindex _ ih =>
    rw [List.append_assoc, List.append_assoc]
    exact .mark hindex ih

theorem AlikeStep.after (h : v.AlikeStep cs p p') (hts : v.AlikeTokens ts ts') :
    v.AlikeStep cs (p.after ts) (p'.after ts') :=
  ⟨h.state, hts.append h.tokens⟩

/-- A step that gives no token. -/
theorem AlikeState.silent (h : v.AlikeState cs s s') : v.AlikeStep cs (s, []) (s', []) := ⟨h, .nil⟩

/-! ### Character data -/

theorem alikeStep_idle (h : s.Idle) : v.AlikeStep cs (s, []) (s, []) := ⟨.idle h, .nil⟩

theorem alikeStep_char (h : s.Idle) : v.AlikeStep cs (s, [textToken c]) (s, [textToken c]) :=
  ⟨.idle h, (AlikeToken.text _).single⟩

theorem alikeStep_textStep (h : mode.Proper) (c : Char) :
    v.AlikeStep cs (textStep mode c) (textStep mode c) := by
  cases mode with
  | data | escapable =>
    unfold textStep
    simp only
    split
    · exact (AlikeState.ampersand (.data h)).silent
    · split
      · exact alikeStep_idle h
      · exact alikeStep_char h
  | script =>
    unfold textStep
    simp only
    split
    · exact alikeStep_idle h
    · exact alikeStep_char h
  | escaped tag dashes =>
    unfold textStep
    simp only
    split
    · exact alikeStep_char h
    · split
      · exact alikeStep_idle h
      · split
        · exact alikeStep_char h
        · exact alikeStep_char h
  | doubled tag dashes =>
    unfold textStep
    simp only
    split
    · exact alikeStep_char h
    · split
      · exact alikeStep_char (h tag rfl)
      · split
        · exact alikeStep_char h
        · exact alikeStep_char h

theorem proper_of_closer {tag : String} (hmode : mode.closer? = some tag)
    (h : contentModel tag ≠ .markup) : mode.Proper := by
  intro t ht
  rw [Option.mem_def, hmode, Option.some.injEq] at ht
  exact ht ▸ h

section Scripts

variable {tag : String} (h : contentModel tag ≠ .markup)

include h

theorem alikeStep_doubleStartStep (letters : String) (c : Char) :
    v.AlikeStep cs (doubleStartStep tag letters c) (doubleStartStep tag letters c) := by
  unfold doubleStartStep
  split
  · exact alikeStep_char h
  · split
    · split
      · exact alikeStep_char (proper_of_closer rfl h)
      · exact alikeStep_char (proper_of_closer rfl h)
    · exact alikeStep_textStep (proper_of_closer rfl h) c

theorem alikeStep_doubleEndStep (letters : String) (c : Char) :
    v.AlikeStep cs (doubleEndStep tag letters c) (doubleEndStep tag letters c) := by
  unfold doubleEndStep
  split
  · exact alikeStep_char h
  · split
    · split
      · exact alikeStep_char (proper_of_closer rfl h)
      · exact alikeStep_char (proper_of_closer rfl h)
    · exact alikeStep_textStep (proper_of_closer rfl h) c

theorem alikeStep_doubleLessStep (c : Char) :
    v.AlikeStep cs (doubleLessStep tag c) (doubleLessStep tag c) := by
  unfold doubleLessStep
  split
  · exact alikeStep_char h
  · exact alikeStep_textStep (proper_of_closer rfl h) c

theorem alikeStep_escapeStartStep (dashed : Bool) (c : Char) :
    v.AlikeStep cs (escapeStartStep tag dashed c) (escapeStartStep tag dashed c) := by
  unfold escapeStartStep
  split
  · split
    · exact alikeStep_char (proper_of_closer rfl h)
    · exact alikeStep_char h
  · exact alikeStep_textStep (proper_of_closer rfl h) c

end Scripts

/-! ### Comments -/

section Comments

variable (t t' : String) (c : Char)

theorem alikeStep_ended : v.AlikeStep cs (.text .data, [.comment t]) (.text .data, [.comment t']) :=
  ⟨.idle nofun, (AlikeToken.comment t t').single⟩

theorem alikeStep_bogusStep : v.AlikeStep cs (bogusStep t c) (bogusStep t' c) := by
  unfold bogusStep
  split
  · exact alikeStep_ended t t'
  · exact (AlikeState.bogusComment ..).silent

theorem alikeStep_commentStep : v.AlikeStep cs (commentStep t c) (commentStep t' c) := by
  unfold commentStep
  split
  · exact (AlikeState.commentLess ..).silent
  · split
    · exact (AlikeState.commentDash ..).silent
    · exact (AlikeState.comment ..).silent

theorem alikeStep_commentStartStep : v.AlikeStep cs (commentStartStep c) (commentStartStep c) := by
  unfold commentStartStep
  split
  · exact alikeStep_idle trivial
  · split
    · exact alikeStep_ended "" ""
    · exact alikeStep_commentStep "" "" c

theorem alikeStep_commentStartDashStep :
    v.AlikeStep cs (commentStartDashStep c) (commentStartDashStep c) := by
  unfold commentStartDashStep
  split
  · exact (AlikeState.commentEnd ..).silent
  · split
    · exact alikeStep_ended "" ""
    · exact alikeStep_commentStep "-" "-" c

theorem alikeStep_commentLessStep :
    v.AlikeStep cs (commentLessStep t c) (commentLessStep t' c) := by
  unfold commentLessStep
  split
  · exact (AlikeState.commentBang ..).silent
  · split
    · exact (AlikeState.commentLess ..).silent
    · exact alikeStep_commentStep t t' c

theorem alikeStep_commentBangStep :
    v.AlikeStep cs (commentBangStep t c) (commentBangStep t' c) := by
  unfold commentBangStep
  split
  · exact (AlikeState.commentDash ..).silent
  · exact alikeStep_commentStep t t' c

theorem alikeStep_commentDashStep :
    v.AlikeStep cs (commentDashStep t c) (commentDashStep t' c) := by
  unfold commentDashStep
  split
  · exact (AlikeState.commentEnd ..).silent
  · exact alikeStep_commentStep _ _ c

theorem alikeStep_commentEndStep : v.AlikeStep cs (commentEndStep t c) (commentEndStep t' c) := by
  unfold commentEndStep
  split
  · exact alikeStep_ended t t'
  · split
    · exact (AlikeState.commentEndBang ..).silent
    · split
      · exact (AlikeState.commentEnd ..).silent
      · exact alikeStep_commentStep _ _ c

theorem alikeStep_commentEndBangStep :
    v.AlikeStep cs (commentEndBangStep t c) (commentEndBangStep t' c) := by
  unfold commentEndBangStep
  split
  · exact (AlikeState.commentDash ..).silent
  · split
    · exact alikeStep_ended t t'
    · exact alikeStep_commentStep _ _ c

theorem alikeStep_declarationStep (chars : List Char) :
    v.AlikeStep cs (declarationStep chars c) (declarationStep chars c) := by
  unfold declarationStep
  simp only
  split
  · exact alikeStep_idle trivial
  · split
    · exact alikeStep_idle trivial
    · split
      · exact alikeStep_idle trivial
      · exact alikeStep_bogusStep _ _ c

theorem alikeStep_documentTypeStep :
    v.AlikeStep cs (documentTypeStep c) (documentTypeStep c) := by
  unfold documentTypeStep
  split
  · exact alikeStep_idle nofun
  · exact alikeStep_idle trivial

end Comments

/-! ### Tags -/

theorem contentModel_of_mem_bang {tag : String} (h : '!' ∈ tag.toList) :
    contentModel tag = .markup := by
  unfold contentModel
  rw [if_neg, if_neg]
  · rintro (rfl | rfl) <;> exact absurd h (by decide)
  · rintro (rfl | rfl) <;> exact absurd h (by decide)

/-- Both contents are read in the same way, up to the same end tag. -/
theorem Named.ofTag_eq (h : v.Named name name') : Mode.ofTag name = Mode.ofTag name' := by
  rcases h.eq_or_mem with rfl | ⟨hmem, hmem'⟩
  · rfl
  · unfold Mode.ofTag
    rw [contentModel_of_mem_bang hmem, contentModel_of_mem_bang hmem']

theorem proper_ofTag (tag : String) : (Mode.ofTag tag).Proper := by
  unfold Mode.ofTag
  split
  · exact nofun
  · next h => exact proper_of_closer rfl (by rw [h]; nofun)
  · next h => exact proper_of_closer rfl (by rw [h]; nofun)

theorem AlikeTag.leaveTag (h : v.AlikeTag tag tag') (selfClosing : Bool) :
    v.AlikeStep cs (leaveTag tag selfClosing) (leaveTag tag' selfClosing) := by
  unfold Markup.leaveTag
  rw [← h.closing, h.name.ofTag_eq]
  split
  · exact ⟨.idle nofun, (AlikeToken.endTag h.name).single⟩
  · split
    · exact ⟨.idle nofun, (AlikeToken.startTagEnd _).single⟩
    · exact ⟨.idle (proper_ofTag _), (AlikeToken.startTagEnd _).single⟩

theorem AlikeTag.attributeNameStep (h : v.AlikeTag tag tag') (hname : v.Reading cs name name')
    (hcs : v.Free cs) (c : Char) :
    v.AlikeStep (cs ++ [c]) (attributeNameStep tag name c) (attributeNameStep tag' name' c) := by
  have hread := (AlikeToken.attributeName (hname.named hcs)).single
  unfold Markup.attributeNameStep
  split
  · exact ⟨.afterName h, hread⟩
  · split
    · exact ⟨.selfClosing h, hread⟩
    · split
      · exact (h.leaveTag false).after hread
      · split
        · exact ⟨.beforeValue h, hread⟩
        · exact (AlikeState.attributeName h (hname.push c)).silent

theorem AlikeTag.beforeNameStep (h : v.AlikeTag tag tag') (hcs : v.Free cs) (c : Char) :
    v.AlikeStep (cs ++ [c]) (beforeNameStep tag c) (beforeNameStep tag' c) := by
  unfold Markup.beforeNameStep
  split
  · exact (AlikeState.beforeName h).silent
  · split
    · exact (AlikeState.selfClosing h).silent
    · split
      · exact h.leaveTag false
      · split
        · next hc => exact (AlikeState.attributeName h (hc ▸ (Reading.empty cs).push '=')).silent
        · exact h.attributeNameStep (Reading.empty cs) hcs c

theorem AlikeTag.afterNameStep (h : v.AlikeTag tag tag') (hcs : v.Free cs) (c : Char) :
    v.AlikeStep (cs ++ [c]) (afterNameStep tag c) (afterNameStep tag' c) := by
  unfold Markup.afterNameStep
  split
  · exact (AlikeState.afterName h).silent
  · split
    · exact (AlikeState.selfClosing h).silent
    · split
      · exact (AlikeState.beforeValue h).silent
      · split
        · exact h.leaveTag false
        · exact h.attributeNameStep (Reading.empty cs) hcs c

theorem AlikeTag.selfClosingStep (h : v.AlikeTag tag tag') (hcs : v.Free cs) (c : Char) :
    v.AlikeStep (cs ++ [c]) (selfClosingStep tag c) (selfClosingStep tag' c) := by
  unfold Markup.selfClosingStep
  split
  · exact h.leaveTag true
  · exact h.beforeNameStep hcs c

theorem AlikeTag.valueStep (h : v.AlikeTag tag tag') (quoting : Quoting)
    (hvalue : v.Woven soFar soFar') (c : Char) :
    v.AlikeStep cs (valueStep tag quoting soFar c) (valueStep tag' quoting soFar' c) := by
  have hread := (AlikeToken.attributeValue hvalue).single
  have hmore : v.AlikeStep cs (.value tag quoting (soFar.push (visible c)), [])
      (.value tag' quoting (soFar'.push (visible c)), []) :=
    (AlikeState.value h quoting (hvalue.push _)).silent
  unfold Markup.valueStep
  split
  · exact (AlikeState.ampersand (.value h quoting hvalue)).silent
  · cases quoting with
    | double | single =>
      simp only
      split
      · exact ⟨.afterValue h, hread⟩
      · exact hmore
    | bare =>
      simp only
      split
      · exact ⟨.beforeName h, hread⟩
      · split
        · exact (h.leaveTag false).after hread
        · exact hmore

theorem AlikeTag.beforeValueStep (h : v.AlikeTag tag tag') (c : Char) :
    v.AlikeStep cs (beforeValueStep tag c) (beforeValueStep tag' c) := by
  unfold Markup.beforeValueStep
  split
  · exact (AlikeState.beforeValue h).silent
  · split
    · exact (AlikeState.value h .double (Woven.refl "")).silent
    · split
      · exact (AlikeState.value h .single (Woven.refl "")).silent
      · split
        · exact h.leaveTag false
        · exact h.valueStep .bare (Woven.refl "") c

theorem AlikeTag.afterValueStep (h : v.AlikeTag tag tag') (hcs : v.Free cs) (c : Char) :
    v.AlikeStep (cs ++ [c]) (afterValueStep tag c) (afterValueStep tag' c) := by
  unfold Markup.afterValueStep
  split
  · exact (AlikeState.beforeName h).silent
  · split
    · exact (AlikeState.selfClosing h).silent
    · split
      · exact h.leaveTag false
      · exact h.beforeNameStep hcs c

theorem AlikeTag.afterTagNameStep (h : v.AlikeTag tag tag') (c : Char) :
    v.AlikeStep cs (afterTagNameStep tag c) (afterTagNameStep tag' c) := by
  unfold Markup.afterTagNameStep
  split
  · exact (AlikeState.selfClosing h).silent
  · split
    · exact h.leaveTag false
    · exact (AlikeState.beforeName h).silent

theorem alikeStep_tagNameStep (closing : Bool) (hname : v.Reading cs name name') (hcs : v.Free cs)
    (c : Char) :
    v.AlikeStep (cs ++ [c]) (tagNameStep closing name c) (tagNameStep closing name' c) := by
  have hnamed := hname.named hcs
  have htag : v.AlikeTag ⟨closing, name⟩ ⟨closing, name'⟩ := ⟨rfl, hnamed⟩
  unfold tagNameStep
  split
  · refine (htag.afterTagNameStep c).after ?_
    cases closing with
    | true => exact .nil
    | false => exact (AlikeToken.startTag hnamed).single
  · exact (AlikeState.tagName closing (hname.push c)).silent

/-! ### Where tags begin -/

/-- The names of elements that hold no markup are free of anything. -/
theorem named_of_contentModel {tag : String} (h : contentModel tag ≠ .markup) :
    v.Named tag tag := by
  refine ⟨[], tag, nofun, ?_, rfl, rfl⟩
  have halnum : ∀ c ∈ tag.toList, c.isAlphanum = true := by
    unfold contentModel at h
    split at h
    · next hscript => rcases hscript with rfl | rfl <;> exact List.all_eq_true.1 rfl
    · split at h
      · next htext => rcases htext with rfl | rfl <;> exact List.all_eq_true.1 rfl
      · exact absurd rfl h
  constructor
  · intro hopening
    exact absurd (halnum '-' (hopening.subset (by simp [opening]))) (by decide)
  · intro hmem
    have hinert := v.inert
    simp [isInert, halnum v.brace hmem] at hinert

/-- The first letter of a name. -/
theorem Reading.first (cs : List Char) {c : Char} (hc : c.isAlpha = true) :
    v.Reading (cs ++ [c]) (String.singleton c.toLower) (String.singleton c.toLower) := by
  have hname : nameChar c = c.toLower := by
    refine visible_of_ne fun hnull => ?_
    have halpha : c.toLower.isAlpha = true := by simp [hc]
    rw [hnull] at halpha
    cases halpha
  have hone := (Reading.empty cs).push (v := v) c
  rwa [hname] at hone

theorem alikeStep_textStep_after (h : mode.Proper) (c : Char) (t : String) :
    v.AlikeStep cs ((textStep mode c).after [.text t]) ((textStep mode c).after [.text t]) :=
  (alikeStep_textStep h c).after (AlikeToken.text t).single

theorem alikeStep_closerNameStep (h : mode.Proper) (letters : String) (c : Char) :
    v.AlikeStep cs (closerNameStep mode letters c) (closerNameStep mode letters c) := by
  unfold closerNameStep
  split
  · exact alikeStep_idle h
  · split
    · next hends =>
      rw [Bool.and_eq_true, beq_iff_eq] at hends
      have hname : v.Named letters.toLower letters.toLower :=
        named_of_contentModel (h letters.toLower hends.2)
      have htag : v.AlikeTag ⟨true, letters.toLower⟩ ⟨true, letters.toLower⟩ := ⟨rfl, hname⟩
      exact htag.afterTagNameStep c
    · exact alikeStep_textStep_after h c _

theorem alikeStep_endTagOpenStep (h : mode.Proper) (c : Char) :
    v.AlikeStep (cs ++ [c]) (endTagOpenStep mode c) (endTagOpenStep mode c) := by
  unfold endTagOpenStep
  split
  · split
    · next hc => exact (AlikeState.tagName true (Reading.first cs hc)).silent
    · split
      · exact alikeStep_idle h
      · exact alikeStep_bogusStep "" "" c
  · split
    · exact alikeStep_idle h
    · exact alikeStep_textStep_after h c _

theorem alikeStep_lessThanStep (h : mode.Proper) (c : Char) :
    v.AlikeStep (cs ++ [c]) (lessThanStep mode c) (lessThanStep mode c) := by
  have htext : v.AlikeStep (cs ++ [c]) ((textStep mode c).after [.text "<"])
      ((textStep mode c).after [.text "<"]) := alikeStep_textStep_after h c "<"
  unfold lessThanStep
  split
  · exact alikeStep_idle h
  · cases mode with
    | data =>
      simp only
      split
      · exact alikeStep_idle trivial
      · split
        · next hc => exact (AlikeState.tagName false (Reading.first cs hc)).silent
        · split
          · exact alikeStep_bogusStep "" "" c
          · exact htext
    | script tag =>
      simp only
      split
      · exact ⟨.idle (h tag rfl), (AlikeToken.text _).single⟩
      · exact htext
    | escaped tag dashes =>
      simp only
      split
      · exact (alikeStep_doubleStartStep (h tag rfl) "" c).after (AlikeToken.text _).single
      · exact htext
    | escapable | doubled => exact htext

/-! ### References -/

theorem AlikeSink.settled_eq (h : v.AlikeSink sink sink') (chars : List Char) (next : Option Char) :
    settled sink chars next = settled sink' chars next := by
  cases h <;> rfl

theorem AlikeSink.step (h : v.AlikeSink sink sink') (c : Char) :
    v.AlikeStep cs (sink.step c) (sink'.step c) := by
  cases h with
  | data hmode => exact alikeStep_textStep hmode c
  | value htag quoting hvalue => exact htag.valueStep quoting hvalue c

theorem AlikeSink.put (h : v.AlikeSink sink sink') (chars : String) :
    v.AlikeSink (sink.put chars).1 (sink'.put chars).1 ∧
      v.AlikeTokens (sink.put chars).2 (sink'.put chars).2 := by
  cases h with
  | data hmode => exact ⟨.data hmode, (AlikeToken.text chars).single⟩
  | value htag quoting hvalue => exact ⟨.value htag quoting (hvalue.append chars), .nil⟩

theorem AlikeSink.state (h : v.AlikeSink sink sink') : v.AlikeState cs sink.state sink'.state := by
  cases h with
  | data hmode => exact .idle hmode
  | value htag quoting hvalue => exact .value htag quoting hvalue

theorem AlikeSink.putAndStay (h : v.AlikeSink sink sink') (chars : String) :
    v.AlikeStep cs (sink.putAndStay chars) (sink'.putAndStay chars) :=
  ⟨(h.put chars).1.state, (h.put chars).2⟩

theorem AlikeSink.putAndStep (h : v.AlikeSink sink sink') (chars : String) (c : Char) :
    v.AlikeStep cs (sink.putAndStep chars c) (sink'.putAndStep chars c) :=
  ((h.put chars).1.step c).after (h.put chars).2

theorem AlikeSink.namedStep (h : v.AlikeSink sink sink') (chars : List Char) (c : Char) :
    v.AlikeStep cs (namedStep sink chars c) (namedStep sink' chars c) := by
  unfold Markup.namedStep
  simp only [h.settled_eq]
  split
  · split
    · exact h.putAndStay _
    · exact (AlikeState.named h _).silent
  · exact h.putAndStep _ c

theorem AlikeSink.ampersandStep (h : v.AlikeSink sink sink') (c : Char) :
    v.AlikeStep cs (ampersandStep sink c) (ampersandStep sink' c) := by
  unfold Markup.ampersandStep
  split
  · exact (AlikeState.numberSign h).silent
  · split
    · exact h.namedStep [] c
    · exact h.putAndStep _ c

theorem AlikeSink.numberedStep (h : v.AlikeSink sink sink') (number : Nat) (c : Char) :
    v.AlikeStep cs (numberedStep sink number c) (numberedStep sink' number c) := by
  unfold Markup.numberedStep
  simp only
  split
  · exact h.putAndStay _
  · exact h.putAndStep _ c

theorem AlikeSink.decimalStep (h : v.AlikeSink sink sink') (number : Nat) (c : Char) :
    v.AlikeStep cs (decimalStep sink number c) (decimalStep sink' number c) := by
  unfold Markup.decimalStep
  split
  · exact (AlikeState.decimal h _).silent
  · exact h.numberedStep number c

theorem AlikeSink.hexadecimalStep (h : v.AlikeSink sink sink') (number : Nat) (c : Char) :
    v.AlikeStep cs (hexadecimalStep sink number c) (hexadecimalStep sink' number c) := by
  unfold Markup.hexadecimalStep
  split
  · exact (AlikeState.hexadecimal h _).silent
  · exact h.numberedStep number c

theorem AlikeSink.hexStartStep (h : v.AlikeSink sink sink') (mark c : Char) :
    v.AlikeStep cs (hexStartStep sink mark c) (hexStartStep sink' mark c) := by
  unfold Markup.hexStartStep
  split
  · exact (AlikeState.hexadecimal h _).silent
  · exact h.putAndStep _ c

theorem AlikeSink.numberSignStep (h : v.AlikeSink sink sink') (c : Char) :
    v.AlikeStep cs (numberSignStep sink c) (numberSignStep sink' c) := by
  unfold Markup.numberSignStep
  split
  · exact (AlikeState.hexStart h c).silent
  · split
    · exact (AlikeState.decimal h _).silent
    · exact h.putAndStep _ c

/-! ### One character -/

theorem alikeStep_of_idle (hs : s.Idle) (c : Char) :
    v.AlikeStep (cs ++ [c]) (s.step c) (s.step c) := by
  cases s with
  | text mode => exact alikeStep_textStep hs c
  | lessThan mode => exact alikeStep_lessThanStep hs c
  | endTagOpen mode => exact alikeStep_endTagOpenStep hs c
  | closerName mode letters => exact alikeStep_closerNameStep hs letters c
  | escapeStart tag dashed => exact alikeStep_escapeStartStep hs dashed c
  | doubleStart tag letters => exact alikeStep_doubleStartStep hs letters c
  | doubleLess tag => exact alikeStep_doubleLessStep hs c
  | doubleEnd tag letters => exact alikeStep_doubleEndStep hs letters c
  | declaration chars => exact alikeStep_declarationStep c chars
  | documentType => exact alikeStep_documentTypeStep c
  | commentStart => exact alikeStep_commentStartStep c
  | commentStartDash => exact alikeStep_commentStartDashStep c
  | _ => exact hs.elim

/-- **A character of the markup keeps states alike.** -/
theorem AlikeState.step (h : v.AlikeState cs s s') (hcs : v.Free cs) (c : Char) :
    v.AlikeStep (cs ++ [c]) (s.step c) (s'.step c) := by
  cases h with
  | idle hs => exact alikeStep_of_idle hs c
  | tagName closing hname => exact alikeStep_tagNameStep closing hname hcs c
  | beforeName htag => exact htag.beforeNameStep hcs c
  | attributeName htag hname => exact htag.attributeNameStep hname hcs c
  | afterName htag => exact htag.afterNameStep hcs c
  | beforeValue htag => exact htag.beforeValueStep c
  | value htag quoting hvalue => exact htag.valueStep quoting hvalue c
  | afterValue htag => exact htag.afterValueStep hcs c
  | selfClosing htag => exact htag.selfClosingStep hcs c
  | bogusComment t t' => exact alikeStep_bogusStep t t' c
  | comment t t' => exact alikeStep_commentStep t t' c
  | commentLess t t' => exact alikeStep_commentLessStep t t' c
  | commentBang t t' => exact alikeStep_commentBangStep t t' c
  | commentDash t t' => exact alikeStep_commentDashStep t t' c
  | commentEnd t t' => exact alikeStep_commentEndStep t t' c
  | commentEndBang t t' => exact alikeStep_commentEndBangStep t t' c
  | ampersand hsink => exact hsink.ampersandStep c
  | named hsink chars => exact hsink.namedStep chars c
  | numberSign hsink => exact hsink.numberSignStep c
  | hexStart hsink mark => exact hsink.hexStartStep mark c
  | decimal hsink number => exact hsink.decimalStep number c
  | hexadecimal hsink number => exact hsink.hexadecimalStep number c

theorem AlikeState.run (h : v.AlikeState cs s s') {ds : List Char} (hds : v.Free (cs ++ ds)) :
    v.AlikeStep (cs ++ ds) (s.run ds) (s'.run ds) := by
  induction ds generalizing cs s s' with
  | nil =>
    rw [List.append_nil]
    exact h.silent
  | cons c ds ih =>
    have hcs : v.Free cs := hds.part (List.prefix_append cs _).isInfix
    have hone := h.step hcs c
    rw [List.append_cons] at hds ⊢
    exact (ih hone.state hds).after hone.tokens

/-- What the end of the markup completes. -/
theorem AlikeState.finish (h : v.AlikeState cs s s') : v.AlikeTokens s.finish s'.finish := by
  cases h with
  | @idle s hs =>
    cases s with
    | lessThan | endTagOpen | closerName => exact (AlikeToken.text _).single
    | declaration | commentStart | commentStartDash => exact (AlikeToken.comment ..).single
    | text | escapeStart | doubleStart | doubleLess | doubleEnd | documentType => exact .nil
    | _ => exact hs.elim
  | bogusComment | comment | commentLess | commentBang | commentDash | commentEnd
  | commentEndBang => exact (AlikeToken.comment ..).single
  | named hsink chars =>
    show v.AlikeTokens (Sink.put _ (settled _ chars none)).2 (Sink.put _ (settled _ chars none)).2
    rw [hsink.settled_eq]
    exact (hsink.put _).2
  | ampersand hsink | numberSign hsink | hexStart hsink | decimal hsink | hexadecimal hsink =>
    exact (hsink.put _).2
  | tagName | beforeName | attributeName | afterName | beforeValue | value | afterValue
  | selfClosing => exact .nil

end Veil

/-! ### Markers in character data -/

/-- A mode after a character that is no dash. -/
def Mode.undashed : Mode → Mode
  | escaped tag _ => escaped tag .zero
  | doubled tag _ => doubled tag .zero
  | mode => mode

/-- A mode after a dash. -/
def Mode.dashed : Mode → Mode
  | escaped tag dashes => escaped tag dashes.next
  | doubled tag dashes => doubled tag dashes.next
  | mode => mode

theorem Mode.Proper.undashed (h : mode.Proper) : mode.undashed.Proper := by
  cases mode <;> exact h

theorem Mode.Proper.dashed (h : mode.Proper) : mode.dashed.Proper := by
  cases mode <;> exact h

theorem Mode.undashed_undashed (mode : Mode) : mode.undashed.undashed = mode.undashed := by
  cases mode <;> rfl

theorem step_text_dash (mode : Mode) :
    (State.text mode).step '-' = (.text mode.dashed, [textToken '-']) := by
  cases mode <;> rfl

theorem step_text_of_isPlain (mode : Mode) (hc : isPlain c = true) (hdash : c ≠ '-') :
    (State.text mode).step c = (.text mode.undashed, [textToken c]) := by
  have hamp : c ≠ '&' := ne_of_isPlain hc (by decide)
  have hlt : c ≠ '<' := ne_of_isPlain hc (by decide)
  have hgt : c ≠ '>' := ne_of_isPlain hc (by decide)
  cases mode <;>
    simp [State.step, textStep, Mode.undashed, hamp, hlt, hgt, hdash, visible_of_isPlain hc]

variable {brace : Char} {index : Nat}

/-- A marker is text where text is read, and only what was a comment in a script may look
different behind it. -/
theorem run_markChars_text (hbrace : isInert brace = true) (mode : Mode) :
    (State.text mode).run (markChars brace index) =
      (.text mode.undashed.dashed.dashed.dashed, (markChars brace index).map textToken) := by
  have hdashes : ∀ mode : Mode, (State.text mode).run ['-', '-', '-'] =
      (.text mode.dashed.dashed.dashed, ['-', '-', '-'].map textToken) := fun mode =>
    State.run_trans (State.run_one (step_text_dash mode))
      (State.run_trans (State.run_one (step_text_dash _)) (State.run_one (step_text_dash _)))
  have hbang : (State.text mode.dashed.dashed.dashed).run ['!'] =
      (.text mode.undashed, ['!'].map textToken) := by
    cases mode <;> rfl
  have hbody : (State.text mode.undashed).run (markBody brace index) =
      (.text mode.undashed, (markBody brace index).map textToken) := by
    have hone : ∀ c ∈ markBody brace index,
        (State.text mode.undashed).run [c] = (.text mode.undashed, [textToken c]) := by
      intro c hc
      have hstep := step_text_of_isPlain mode.undashed (isPlain_of_mem_markBody hbrace hc)
        (ne_dash_of_mem_markBody hbrace hc)
      rw [Mode.undashed_undashed] at hstep
      exact State.run_one hstep
    simpa using State.run_flatMap_text (fun c => [c]) hone
  have hall := State.run_trans (State.run_trans (hdashes mode) hbang)
    (State.run_trans hbody (hdashes mode.undashed))
  rw [markChars_eq]
  simpa using hall

/-! ### Markers in names, values and comments -/

/-- A marker is kept where all plain characters are. -/
theorem run_markChars_collect (hbrace : isInert brace = true) (f : String → State)
    (hone : ∀ t c, isPlain c = true → (f t).step c = (f (t.push c), [])) (t : String) :
    (f t).run (markChars brace index) = (f (t ++ String.ofList (markChars brace index)), []) :=
  State.run_collect f (fun t c hc => hone t c (isPlain_of_mem_markChars hbrace hc)) t

section Plain

variable (hc : isPlain c = true) (t : String)

include hc

theorem step_tagName_of_isPlain (closing : Bool) :
    (State.tagName closing t).step c = (.tagName closing (t.push c), []) := by
  have hslash : c ≠ '/' := ne_of_isPlain hc (by decide)
  have hgt : c ≠ '>' := ne_of_isPlain hc (by decide)
  simp [State.step, tagNameStep, isSpace_of_isPlain hc, hslash, hgt,
    nameChar_of_isNameChar (isNameChar_of_isPlain hc)]

theorem step_attributeName_of_isPlain (tag : Tag) :
    (State.attributeName tag t).step c = (.attributeName tag (t.push c), []) := by
  have hslash : c ≠ '/' := ne_of_isPlain hc (by decide)
  have hgt : c ≠ '>' := ne_of_isPlain hc (by decide)
  have heq : c ≠ '=' := ne_of_isPlain hc (by decide)
  simp [State.step, attributeNameStep, isSpace_of_isPlain hc, hslash, hgt, heq,
    nameChar_of_isNameChar (isNameChar_of_isPlain hc)]

theorem step_value_of_isPlain (tag : Tag) (quoting : Quoting) :
    (State.value tag quoting t).step c = (.value tag quoting (t.push c), []) := by
  have hamp : c ≠ '&' := ne_of_isPlain hc (by decide)
  have hgt : c ≠ '>' := ne_of_isPlain hc (by decide)
  have hdouble : c ≠ '"' := ne_of_isPlain hc (by decide)
  have hsingle : c ≠ '\'' := ne_of_isPlain hc (by decide)
  cases quoting <;>
    simp [State.step, valueStep, isSpace_of_isPlain hc, hamp, hgt, hdouble, hsingle,
      visible_of_isPlain hc]

theorem step_bogusComment_of_isPlain :
    (State.bogusComment t).step c = (.bogusComment (t.push c), []) := by
  have hgt : c ≠ '>' := ne_of_isPlain hc (by decide)
  simp [State.step, bogusStep, hgt, visible_of_isPlain hc]

theorem step_comment_of_isPlain (hdash : c ≠ '-') :
    (State.comment t).step c = (.comment (t.push c), []) := by
  have hlt : c ≠ '<' := ne_of_isPlain hc (by decide)
  simp [State.step, commentStep, hlt, hdash, visible_of_isPlain hc]

theorem step_documentType_of_isPlain : State.documentType.step c = (.documentType, []) := by
  have hgt : c ≠ '>' := ne_of_isPlain hc (by decide)
  simp [State.step, documentTypeStep, hgt]

end Plain

/-- Whether a marker is read as part of a comment here, perhaps of one that it opens. -/
def State.Commenting : State → Prop
  | .declaration chars => chars = [] ∨ chars = ['-']
  | .commentStart | .commentStartDash | .comment _ | .commentLess _ | .commentBang _
  | .commentDash _ | .commentEnd _ | .commentEndBang _ => True
  | _ => False

/-- A comment that a marker is part of could end behind it. -/
theorem State.Commenting.run_markChars (h : s.Commenting) (hbrace : isInert brace = true) :
    ∃ t, s.run (markChars brace index) = (.commentEnd t, []) := by
  have hplain := isPlain_of_isInert hbrace
  have hdash : brace ≠ '-' := ne_of_isInert hbrace (by decide)
  have hfirst : ∀ t, (State.comment t).step brace = (.comment (t.push brace), []) := fun t =>
    step_comment_of_isPlain hplain t hdash
  have hbang : ∀ t, (State.commentEndBang t).step brace =
      (.comment ((t ++ "--!").push brace), []) := by
    intro t
    have hgt : brace ≠ '>' := ne_of_isPlain hplain (by decide)
    rw [← hfirst]
    simp [State.step, commentEndBangStep, hdash, hgt]
  have hopen : ∃ t, s.run ['-', '-', '-', '!', brace] = (.comment t, []) := by
    have hthen : ∀ {s' : State} {t : String}, s.run ['-', '-', '-', '!'] = (s', []) →
        s'.step brace = (.comment t, []) →
        ∃ t, s.run ['-', '-', '-', '!', brace] = (.comment t, []) :=
      fun hlead hbrace => ⟨_, State.run_trans hlead (State.run_one hbrace)⟩
    cases s with
    | declaration chars =>
      rcases h with rfl | rfl
      · exact hthen rfl (hfirst _)
      · exact hthen rfl (hbang _)
    | commentStart | commentStartDash | comment | commentLess | commentBang | commentDash
    | commentEnd | commentEndBang => exact hthen rfl (hbang _)
    | _ => exact h.elim
  obtain ⟨t, ht⟩ := hopen
  have hkept : ∀ t, ∀ c ∈ Nat.toDigits 10 index ++ ['\x7d', '!'],
      (State.comment t).step c = (.comment (t.push c), []) := by
    intro t c hc
    have hmem : c ∈ markBody brace index := List.mem_cons_of_mem brace hc
    exact step_comment_of_isPlain (isPlain_of_mem_markBody hbrace hmem) t
      (ne_dash_of_mem_markBody hbrace hmem)
  have hclose : ∀ t, (State.comment t).run ['-', '-', '-'] = (.commentEnd (t.push '-'), []) :=
    fun _ => rfl
  have hall := State.run_trans ht (State.run_trans (State.run_collect .comment hkept t) (hclose _))
  refine ⟨_, Eq.trans (congrArg s.run ?_) hall⟩
  simp [markChars_eq, markBody]

/-! ### Markers anywhere -/

/-- What a state does with a dash, and so with a marker, is what another one does. -/
theorem State.run_of_step_dash {b : State} (h : s.step '-' = (b.step '-').after ts) :
    s.run (markChars brace index) = (b.run (markChars brace index)).after ts := by
  have hcons : markChars brace index =
      '-' :: (['-', '-', '!', brace] ++ Nat.toDigits 10 index ++ closing) := rfl
  rw [hcons, State.run, h, State.run]
  simp only [Step.after, List.append_assoc]

namespace Veil

/-- Runs over a marker of each kind. -/
abbrev AlikeMark (v : Veil) (index : Nat) (s s' : State) : Prop :=
  v.AlikeStep [] (s.run (markChars v.brace index)) (s'.run (encodeChars index))

/-- What takes a dash as other states do takes a marker as these. -/
theorem AlikeMark.of_dash {b b' : State} (h : v.AlikeMark index b b') (hts : v.AlikeTokens ts ts')
    (hs : s.step '-' = (b.step '-').after ts) (hs' : s'.step '-' = (b'.step '-').after ts') :
    v.AlikeMark index s s' := by
  have hrun : s'.run (encodeChars index) = (b'.run (encodeChars index)).after ts' := by
    rw [← markChars_brace]
    exact State.run_of_step_dash hs'
  rw [AlikeMark, State.run_of_step_dash hs, hrun]
  exact h.after hts

theorem alikeMark_collect (f f' : String → State) (t t' : String)
    (hone : ∀ t c, isPlain c = true → (f t).step c = (f (t.push c), []))
    (hone' : ∀ t c, isPlain c = true → (f' t).step c = (f' (t.push c), []))
    (h : v.AlikeState [] (f (t ++ v.mark index)) (f' (t' ++ encode index))) :
    v.AlikeMark index (f t) (f' t') := by
  have hrun : (f' t').run (encodeChars index) =
      (f' (t' ++ String.ofList (encodeChars index)), []) := by
    rw [← markChars_brace]
    exact run_markChars_collect isInert_brace f' hone' t'
  rw [AlikeMark, run_markChars_collect v.inert f hone t, hrun]
  exact h.silent

theorem alikeMark_bogusComment (index : Nat) (t t' : String) :
    v.AlikeMark index (.bogusComment t) (.bogusComment t') :=
  alikeMark_collect .bogusComment .bogusComment t t'
    (fun t _ hc => step_bogusComment_of_isPlain hc t)
    (fun t _ hc => step_bogusComment_of_isPlain hc t) (.bogusComment ..)

theorem alikeMark_documentType (index : Nat) : v.AlikeMark index .documentType .documentType :=
  alikeMark_collect (fun _ => .documentType) (fun _ => .documentType) "" ""
    (fun _ _ hc => step_documentType_of_isPlain hc)
    (fun _ _ hc => step_documentType_of_isPlain hc) (.idle trivial)

theorem alikeMark_of_commenting (index : Nat) (hs : s.Commenting) (hs' : s'.Commenting) :
    v.AlikeMark index s s' := by
  obtain ⟨t, ht⟩ : ∃ t, s.run (markChars v.brace index) = (.commentEnd t, []) :=
    hs.run_markChars v.inert
  obtain ⟨t', ht'⟩ : ∃ t', s'.run (encodeChars index) = (.commentEnd t', []) := by
    rw [← markChars_brace]
    exact hs'.run_markChars isInert_brace
  rw [AlikeMark, ht, ht']
  exact (AlikeState.commentEnd t t').silent

theorem step_declaration_dash {chars : List Char} (h : ¬ (State.declaration chars).Commenting) :
    (State.declaration chars).step '-' = (State.bogusComment (String.ofList chars)).step '-' := by
  have hne : chars ≠ [] ∧ chars ≠ ['-'] := not_or.1 h
  refine declarationStep_of_not_mem (by decide) (fun hone => ?_) (fun htwo => ?_)
  · exact hne.1 (List.append_cancel_right (show chars ++ ['-'] = [] ++ ['-'] from hone))
  · exact hne.2 (List.append_cancel_right (show chars ++ ['-'] = ['-'] ++ ['-'] from htwo))

section Landing

variable (hindex : index < v.slots)

include hindex

theorem alikeMark_text (hmode : mode.Proper) : v.AlikeMark index (.text mode) (.text mode) := by
  have hrun : (State.text mode).run (encodeChars index) =
      (.text mode.undashed.dashed.dashed.dashed, (encodeChars index).map textToken) := by
    rw [← markChars_brace]
    exact run_markChars_text isInert_brace mode
  rw [AlikeMark, run_markChars_text v.inert, hrun]
  refine ⟨.idle hmode.undashed.dashed.dashed.dashed, ?_⟩
  have htokens := AlikeTokens.mark hindex AlikeTokens.nil
  rwa [List.append_nil, List.append_nil] at htokens

theorem alikeMark_tagName (closing : Bool) (hname : v.Reading cs name name') (hcs : v.Free cs) :
    v.AlikeMark index (.tagName closing name) (.tagName closing name') :=
  alikeMark_collect (.tagName closing) (.tagName closing) name name'
    (fun t _ hc => step_tagName_of_isPlain hc t closing)
    (fun t _ hc => step_tagName_of_isPlain hc t closing) (.tagName closing (hname.mark hcs hindex))

theorem alikeMark_attributeName (htag : v.AlikeTag tag tag') (hname : v.Reading cs name name')
    (hcs : v.Free cs) : v.AlikeMark index (.attributeName tag name) (.attributeName tag' name') :=
  alikeMark_collect (.attributeName tag) (.attributeName tag') name name'
    (fun t _ hc => step_attributeName_of_isPlain hc t tag)
    (fun t _ hc => step_attributeName_of_isPlain hc t tag')
    (.attributeName htag (hname.mark hcs hindex))

theorem alikeMark_value (htag : v.AlikeTag tag tag') (quoting : Quoting)
    (hvalue : v.Woven soFar soFar') :
    v.AlikeMark index (.value tag quoting soFar) (.value tag' quoting soFar') :=
  alikeMark_collect (.value tag quoting) (.value tag' quoting) soFar soFar'
    (fun t _ hc => step_value_of_isPlain hc t tag quoting)
    (fun t _ hc => step_value_of_isPlain hc t tag' quoting)
    (.value htag quoting (hvalue.mark hindex))

/-- A marker begins an attribute where one can begin. -/
theorem alikeMark_between (htag : v.AlikeTag tag tag') (hcs : v.Free cs)
    (hs : s.step '-' = (State.attributeName tag "").step '-')
    (hs' : s'.step '-' = (State.attributeName tag' "").step '-') : v.AlikeMark index s s' :=
  (alikeMark_attributeName hindex htag (Reading.empty cs) hcs).of_dash .nil hs hs'

/-- A dash ends a reference. -/
theorem alikeMark_of_sink (hsink : v.AlikeSink sink sink') (chars : String)
    (hs : s.step '-' = sink.putAndStep chars '-') (hs' : s'.step '-' = sink'.putAndStep chars '-') :
    v.AlikeMark index s s' := by
  cases hsink with
  | data hmode => 
    exact (alikeMark_text hindex hmode).of_dash (AlikeToken.text chars).single hs hs'
  | value htag quoting hvalue =>
    exact (alikeMark_value hindex htag quoting (hvalue.append chars)).of_dash .nil hs hs'

theorem alikeMark_of_idle (hs : s.Idle) : v.AlikeMark index s s := by
  cases s with
  | text mode => exact alikeMark_text hindex hs
  | lessThan mode =>
    exact (alikeMark_text hindex hs).of_dash (AlikeToken.text "<").single (by cases mode <;> rfl)
      (by cases mode <;> rfl)
  | endTagOpen mode =>
    cases mode with
    | data => exact (alikeMark_bogusComment index "" "").of_dash .nil rfl rfl
    | escapable | script | escaped | doubled =>
      exact (alikeMark_text hindex hs).of_dash (AlikeToken.text "</").single rfl rfl
  | closerName mode letters =>
    exact (alikeMark_text hindex hs).of_dash (AlikeToken.text _).single rfl rfl
  | escapeStart tag dashed =>
    -- Two dashes open the comment, and a third one makes no difference.
    have hrun : ∀ brace, (State.escapeStart tag dashed).run (markChars brace index) =
        (State.text (.escaped tag .zero)).run (markChars brace index) := by
      intro brace
      cases dashed <;> rfl
    have hmark : v.AlikeMark index (.text (.escaped tag .zero)) (.text (.escaped tag .zero)) :=
      alikeMark_text hindex (proper_of_closer rfl hs)
    unfold AlikeMark at hmark ⊢
    rwa [hrun, ← markChars_brace, hrun]
  | doubleStart tag letters =>
    have hmark : v.AlikeMark index (.text (.escaped tag .zero)) (.text (.escaped tag .zero)) :=
      alikeMark_text hindex (proper_of_closer rfl hs)
    exact hmark.of_dash .nil rfl rfl
  | doubleLess tag | doubleEnd tag letters =>
    have hmark : v.AlikeMark index (.text (.doubled tag .zero)) (.text (.doubled tag .zero)) :=
      alikeMark_text hindex (proper_of_closer rfl hs)
    exact hmark.of_dash .nil rfl rfl
  | declaration chars =>
    by_cases hopens : (State.declaration chars).Commenting
    · exact alikeMark_of_commenting index hopens hopens
    · exact (alikeMark_bogusComment index _ _).of_dash .nil (step_declaration_dash hopens)
        (step_declaration_dash hopens)
  | documentType => exact alikeMark_documentType index
  | commentStart | commentStartDash => exact alikeMark_of_commenting index trivial trivial
  | _ => exact hs.elim

/-- **A marker keeps states alike, whatever it stands in.** -/
theorem AlikeState.mark (h : v.AlikeState cs s s') (hcs : v.Free cs) : v.AlikeMark index s s' := by
  cases h with
  | idle hs => exact alikeMark_of_idle hindex hs
  | tagName closing hname => exact alikeMark_tagName hindex closing hname hcs
  | attributeName htag hname => exact alikeMark_attributeName hindex htag hname hcs
  | beforeName htag | afterName htag | afterValue htag | selfClosing htag =>
    exact alikeMark_between hindex htag hcs rfl rfl
  | beforeValue htag =>
    exact (alikeMark_value hindex htag .bare (Woven.refl "")).of_dash .nil rfl rfl
  | value htag quoting hvalue => exact alikeMark_value hindex htag quoting hvalue
  | bogusComment t t' => exact alikeMark_bogusComment index t t'
  | comment | commentLess | commentBang | commentDash | commentEnd | commentEndBang =>
    exact alikeMark_of_commenting index trivial trivial
  | ampersand hsink => exact alikeMark_of_sink hindex hsink "&" rfl rfl
  | named hsink chars =>
    have hends := Reference.isBeginning_concat (c := '-') (by decide) (by decide) chars
    have hstep : ∀ sink, (State.named sink chars).step '-' =
        sink.putAndStep (settled sink chars (some '-')) '-' := by
      intro sink
      simp [State.step, namedStep, hends]
    refine alikeMark_of_sink hindex hsink _ (hstep _) ?_
    rw [hsink.settled_eq]
    exact hstep _
  | numberSign hsink => exact alikeMark_of_sink hindex hsink "&#" rfl rfl
  | hexStart hsink mark =>
    exact alikeMark_of_sink hindex hsink (String.ofList ['&', '#', mark]) rfl rfl
  | decimal hsink number | hexadecimal hsink number =>
    exact alikeMark_of_sink hindex hsink (String.singleton (Reference.numbered number)) rfl rfl

end Landing

/-! ### Markup -/

variable {pieces : List (String × Nat)} {last : String}

/-- Runs over markup that is woven of free stretches and markers, or veiled ones. -/
theorem AlikeState.run_weave (h : v.AlikeState [] s s')
    (hpieces : ∀ piece ∈ pieces, v.Free piece.1.toList ∧ piece.2 < v.slots)
    (hlast : v.Free last.toList) :
    ∃ cs, v.AlikeStep cs (s.run (normalizeLines (weave v.mark pieces last).toList))
      (s'.run (normalizeLines (weave encode pieces last).toList)) := by
  induction pieces generalizing s s' with
  | nil => exact ⟨_, h.run hlast.normalizeLines⟩
  | cons piece rest ih =>
    obtain ⟨⟨hfree, hindex⟩, hrest⟩ := List.forall_mem_cons.1 hpieces
    have hcut : ∀ (brace : Char) (mark : Nat → String), isInert brace = true →
        (mark piece.2).toList = markChars brace piece.2 →
        normalizeLines (weave mark (piece :: rest) last).toList =
          normalizeLines piece.1.toList ++
            (markChars brace piece.2 ++ normalizeLines (weave mark rest last).toList) := by
      intro brace mark hbrace hmark
      rw [weave_cons, String.toList_append, String.toList_append, hmark,
        normalizeLines_append_markChars hbrace]
    have hstretch := h.run hfree.normalizeLines
    have hmark := hstretch.state.mark hindex hfree.normalizeLines
    obtain ⟨cs, hrun⟩ := ih hmark.state hrest
    refine ⟨cs, ?_⟩
    rw [hcut v.brace v.mark v.inert (v.toList_mark _),
      hcut '\x7b' encode isInert_brace String.toList_ofList, State.run_append, State.run_append,
      State.run_append, State.run_append]
    exact (hrun.after hmark.tokens).after hstretch.tokens

/-- **Veiled markup has the tokens of the markup, with its markers veiled.** -/
theorem alikeTokens_weave
    (hpieces : ∀ piece ∈ pieces, v.Free piece.1.toList ∧ piece.2 < v.slots)
    (hlast : v.Free last.toList) :
    v.AlikeTokens (tokens (weave v.mark pieces last).toList)
      (tokens (weave encode pieces last).toList) := by
  have hstart : v.AlikeState [] (.text .data) (.text .data) := .idle nofun
  obtain ⟨cs, hrun⟩ := hstart.run_weave hpieces hlast
  exact hrun.tokens.append hrun.state.finish

end Veil

end LiveMarkup.Markup
