/-
Markup written and read again.

Trees that are legible are read back from their markup (`parse_html`), with what markup does
not show left out: properties and shadow roots.  One thing more is not as it was.  The
writer escapes all text, but the reader takes the content of a script or a style as it
stands, so a text there comes back with its references spelled out.  `readBack` is what
comes back, and where there is no such text it is what was written (`readBack_eq_self`).

The lexer goes through the markup of a tree as the writer goes through the tree, so the proof
is one induction over trees, with the pieces of markup read as in `Reading`; what the
builder makes of the tokens is known from `Building`.
-/
import LiveMarkup.Proofs.Markup.Reading

namespace LiveMarkup

open Markup

/-- No content, or one text without null characters. -/
def Markup.PlainText (kids : Forest Content) : Prop :=
  kids = .nil ∨ ∃ t : String, '\x00' ∉ t.toList ∧ kids = .tree (.text t) .nil

namespace Content

/-- A node with trees below it that can be read back from its markup. -/
def Legible (kids : Forest Content) : Content → Prop
  | element e => LegibleElement e ∧ (contentModel e.tag ≠ .markup → PlainText kids)
  | comment t => Readable t ∧ '\r' ∉ t.toList
  | text _ => True
  | fragment | shadowRoot => False

/-- Whether the texts right below the node are read as they stand. -/
def holdsScript : Content → Bool
  | element e => contentModel e.tag == .script
  | fragment | text _ | comment _ | shadowRoot => false

/-- What markup shows of a node. -/
def written : Content → Content
  | element e => element { tag := e.tag, attributes := e.attributes }
  | fragment => fragment
  | text t => text t
  | comment t => comment t
  | shadowRoot => shadowRoot

/-- What comes back of a node.  In a script references are not read. -/
def readBack (inScript : Bool) : Content → Content
  | text t => text (if inScript then escapeText t else t)
  | fragment => written fragment
  | element e => written (element e)
  | comment t => written (comment t)
  | shadowRoot => written shadowRoot

/-- If the texts right below the node are read as they stand, there is nothing in them that
would be escaped. -/
def Verbatim (kids : Forest Content) (c : Content) : Prop :=
  c.holdsScript = true → ∀ t, text t ∈ kids.roots →
    ∀ x ∈ t.toList, x ≠ '&' ∧ x ≠ '<' ∧ x ≠ '>'

/-- No text and no attribute value of the node has a carriage return. -/
def NoReturn : Content → Prop
  | element e => ∀ entry ∈ e.attributes.entries, '\r' ∉ entry.2.toList
  | text t => '\r' ∉ t.toList
  | fragment | comment _ | shadowRoot => True

end Content

namespace Markup

variable {f g kids : Forest Content} {c : Content}

/-- What comes back of trees that were written and read again. -/
def readBack (inScript : Bool) : Forest Content → Forest Content
  | .nil => .nil
  | .node c kids rest =>
    .node (c.readBack inScript) (readBack c.holdsScript kids) (readBack inScript rest)

/-- Trees that can be read back from their markup. -/
def Legible (f : Forest Content) : Prop := f.Every fun c kids => c.Legible kids

/-! ### The lexer on the markup of trees -/

theorem contentModel_of_isVoid {tag : String} (h : isVoid tag = true) :
    contentModel tag = .markup := by
  have hnone : ∀ tag ∈ ["script", "style", "textarea", "title"], isVoid tag = false := by
    decide +kernel
  have hne : tag ∉ ["script", "style", "textarea", "title"] := by
    intro hmem
    rw [hnone tag hmem] at h
    cases h
  simp only [List.mem_cons, List.not_mem_nil, or_false, not_or] at hne
  simp [contentModel, hne]

theorem ofTag_of_markup {tag : String} (h : contentModel tag = .markup) :
    Mode.ofTag tag = .data := by
  rw [Mode.ofTag, h]

theorem not_mem_escapeText_lt (t : String) : '<' ∉ (escapeText t).toList := by
  rw [escapeText, String.toList_ofList, List.mem_flatMap]
  rintro ⟨c, -, hc⟩
  unfold escapeTextChar at hc
  split at hc
  · exact absurd hc (by decide)
  · exact absurd hc (by decide)
  · exact absurd hc (by decide)
  · next hlt _ => exact hlt (List.mem_singleton.1 hc).symm

/-- A character that no reference is made of is in escaped text only if it was in the text. -/
theorem not_mem_escapeText {x : Char} (hx : x ∉ ['&', 'a', 'm', 'p', 'l', 't', 'g', ';'])
    {t : String} (h : x ∉ t.toList) : x ∉ (escapeText t).toList := by
  rw [escapeText, String.toList_ofList, List.mem_flatMap]
  rintro ⟨c, hct, hc⟩
  unfold escapeTextChar at hc
  split at hc
  · exact hx ((by decide : ['&', 'a', 'm', 'p', ';'] ⊆ _) hc)
  · exact hx ((by decide : ['&', 'l', 't', ';'] ⊆ _) hc)
  · exact hx ((by decide : ['&', 'g', 't', ';'] ⊆ _) hc)
  · exact h (List.mem_singleton.1 hc ▸ hct)

theorem not_mem_escapeValue {x : Char} (hx : x ∉ ['&', 'a', 'm', 'p', 'q', 'u', 'o', 't', ';'])
    {v : String} (h : x ∉ v.toList) : x ∉ (escapeValue v).toList := by
  rw [escapeValue, String.toList_ofList, List.mem_flatMap]
  rintro ⟨c, hcv, hc⟩
  unfold escapeValueChar at hc
  split at hc
  · exact hx ((by decide : ['&', 'a', 'm', 'p', ';'] ⊆ _) hc)
  · exact hx ((by decide : ['&', 'q', 'u', 'o', 't', ';'] ⊆ _) hc)
  · exact h (List.mem_singleton.1 hc ▸ hcv)

/-- The content of an element whose content is no markup. -/
theorem run_plainText {e : Element} (he : contentModel e.tag ≠ .markup) (h : PlainText kids) :
    (State.text (.ofTag e.tag)).run (html kids).toList =
      (.text (.ofTag e.tag), spelling (readBack (Content.element e).holdsScript kids)) := by
  rcases h with rfl | ⟨t, hnull, rfl⟩
  · rfl
  · have hwritten : (html (.tree (.text t) .nil)).toList = (escapeText t).toList := by
      simp [html, Forest.tree, nodeHtml]
    rw [hwritten]
    have hnull' := not_mem_escapeText (by decide) hnull
    cases hmodel : contentModel e.tag with
    | markup => exact absurd hmodel he
    | escapableText =>
      rw [Mode.ofTag, hmodel, run_escapeText_escapable _ hnull]
      simp [Content.holdsScript, hmodel, Forest.tree, readBack, Content.readBack, spelling,
        nodeSpelling]
    | script =>
      rw [Mode.ofTag, hmodel, run_script _ (not_mem_escapeText_lt t) hnull']
      simp [Content.holdsScript, hmodel, Forest.tree, readBack, Content.readBack, spelling,
        nodeSpelling]

/-- The lexer on the markup of one tree, if it does as it should on that of the trees below. -/
theorem run_nodeHtml (hc : c.Legible kids)
    (hkids : (State.text .data).run (html kids).toList =
      (.text .data, spelling (readBack false kids))) :
    (State.text .data).run (nodeHtml (html kids) c).toList =
      (.text .data, nodeSpelling (spelling (readBack c.holdsScript kids)) (c.readBack false)) := by
  cases c with
  | text t => exact run_escapeText t
  | comment t => exact run_comment hc.1
  | fragment | shadowRoot => exact absurd hc id
  | element e =>
    obtain ⟨he, hplain⟩ := hc
    have hstart := run_startTag he
    -- Neither the tag nor what is void depends on what is left out.
    show (State.text .data).run (if e.isVoid then startTagHtml e else
        startTagHtml e ++ html kids ++ endTagHtml e).toList =
      (.text .data, if e.isVoid then startTokens e else
        startTokens e ++ spelling (readBack (Content.element e).holdsScript kids) ++
          [.endTag e.tag])
    by_cases hvoid : e.isVoid = true
    · rw [if_pos hvoid, if_pos hvoid, hstart, ofTag_of_markup (contentModel_of_isVoid hvoid)]
    · rw [if_neg hvoid, if_neg hvoid, String.toList_append, String.toList_append]
      by_cases hmodel : contentModel e.tag = .markup
      · -- The trees below are read as markup, and then the end tag.
        rw [ofTag_of_markup hmodel] at hstart
        have hscript : (Content.element e).holdsScript = false := by
          simp [Content.holdsScript, hmodel]
        rw [hscript]
        exact State.run_trans (State.run_trans hstart hkids) (run_endTag he.tag)
      · -- The content is taken as it stands, up to the end tag.
        have hcontent := run_plainText hmodel (hplain hmodel)
        exact State.run_trans (State.run_trans hstart hcontent) (run_endTag_raw hmodel)

/-- **The markup of legible trees gives the tokens that spell out what comes back of them.** -/
theorem run_html (h : Legible f) :
    (State.text .data).run (html f).toList = (.text .data, spelling (readBack false f)) := by
  induction f with
  | nil => rfl
  | node c kids rest ihKids ihRest =>
    obtain ⟨hc, hkids, hrest⟩ := h
    rw [html, String.toList_append]
    exact State.run_trans (run_nodeHtml hc (ihKids hkids)) (ihRest hrest)

/-! ### Line ends -/

theorem normalizeLines_eq_self {cs : List Char} (h : '\r' ∉ cs) : normalizeLines cs = cs := by
  have hall := normalizeLines_append h []
  rwa [List.append_nil, normalizeLines, List.append_nil] at hall

theorem not_mem_startTagHtml {e : Element} (he : LegibleElement e)
    (hvalues : ∀ entry ∈ e.attributes.entries, '\r' ∉ entry.2.toList) :
    '\r' ∉ (startTagHtml e).toList := by
  have hname : ∀ name : String, (∀ c ∈ name.toList, isNameChar c = true) → '\r' ∉ name.toList :=
    fun name h hmem => absurd (h _ hmem) (by decide)
  have htag := hname e.tag he.tag.chars
  have hattribute : ∀ entry ∈ e.attributes.entries, '\r' ∉ (attributeHtml entry).toList := by
    intro entry hentry
    have hfirst := hname entry.1 (he.names entry hentry).chars
    have hsecond := not_mem_escapeValue (by decide) (hvalues entry hentry)
    simp [attributeHtml, hfirst, hsecond]
  simp only [startTagHtml, String.toList_append, String.toList_join, List.mem_append,
    List.mem_flatMap, List.mem_map]
  rintro (((h | h) | ⟨-, ⟨entry, hentry, rfl⟩, h⟩) | h)
  · exact absurd h (by decide)
  · exact htag h
  · exact hattribute entry hentry h
  · exact absurd h (by decide)

/-- No line end of the markup of legible trees has to be normalized, if none of the texts and
values has a carriage return. -/
theorem not_mem_html (h : Legible f) (hf : ∀ c ∈ f.labels, c.NoReturn) :
    '\r' ∉ (html f).toList := by
  induction f with
  | nil => exact List.not_mem_nil
  | node c kids rest ihKids ihRest =>
    obtain ⟨hc, hkids, hrest⟩ := h
    have hreturn := hf c (by simp [Forest.labels])
    have hinner := ihKids hkids fun x hx => hf x (by simp [Forest.labels, hx])
    have houter := ihRest hrest fun x hx => hf x (by simp [Forest.labels, hx])
    have hnode : '\r' ∉ (nodeHtml (html kids) c).toList := by
      cases c with
      | text t => exact not_mem_escapeText (by decide) hreturn
      | comment t => simpa [nodeHtml] using hc.2
      | fragment | shadowRoot => exact absurd hc id
      | element e =>
        have hstart := not_mem_startTagHtml hc.1 hreturn
        have hend : '\r' ∉ (endTagHtml e).toList := by
          have htag : '\r' ∉ e.tag.toList := fun hmem =>
            absurd (hc.1.tag.chars _ hmem) (by decide)
          simp [endTagHtml, htag]
        by_cases hvoid : e.isVoid = true <;> simp [nodeHtml, hvoid, hstart, hinner, hend]
    simp [html, hnode, houter]

/-! ### What comes back -/

theorem isText_readBack (inScript : Bool) (c : Content) :
    (c.readBack inScript).isText = c.isText := by
  cases c <;> rfl

theorem roots_readBack (inScript : Bool) (f : Forest Content) :
    (readBack inScript f).roots = f.roots.map (Content.readBack inScript) := by
  induction f generalizing inScript with
  | nil => rfl
  | node c kids rest _ ih => simp [readBack, Forest.roots, ih]

theorem escapeText_ne_empty {t : String} (h : t ≠ "") : escapeText t ≠ "" := by
  intro hempty
  have hnone : t.toList.flatMap escapeTextChar = [] := by
    rw [← String.toList_ofList (l := t.toList.flatMap escapeTextChar)]
    exact String.toList_eq_nil_iff.2 hempty
  have hchars : ∀ c, escapeTextChar c ≠ [] := by
    intro c
    unfold escapeTextChar
    split <;> exact List.cons_ne_nil _ _
  cases hcs : t.toList with
  | nil => exact h (String.toList_eq_nil_iff.1 hcs)
  | cons c cs =>
    rw [hcs, List.flatMap_cons] at hnone
    exact hchars c (List.append_eq_nil_iff.1 hnone).1

theorem isChain_readBack (inScript : Bool) (h : f.roots.IsChain Content.NotBothTexts) :
    (readBack inScript f).roots.IsChain Content.NotBothTexts := by
  rw [roots_readBack, List.isChain_map]
  refine h.imp fun c c' hne hboth => hne ?_
  rwa [isText_readBack, isText_readBack] at hboth

theorem arrangedOver_readBack (inScript : Bool) (h : c.ArrangedOver kids) :
    (c.readBack inScript).ArrangedOver (readBack c.holdsScript kids) := by
  cases c with
  | text t =>
    obtain ⟨ht, rfl⟩ := h
    refine ⟨?_, rfl⟩
    split
    · exact escapeText_ne_empty ht
    · exact ht
  | comment t =>
    obtain rfl : kids = .nil := h
    rfl
  | element e =>
    refine ⟨fun hvoid => ?_, isChain_readBack _ h.2⟩
    rw [h.1 hvoid]
    rfl
  | fragment | shadowRoot => exact h

theorem arranged_readBack (h : Arranged f) : Arranged (readBack false f) := by
  refine ⟨?_, isChain_readBack false h.roots⟩
  have hnodes := h.nodes
  have hall : ∀ inScript, (readBack inScript f).Every fun c kids => c.ArrangedOver kids := by
    clear h
    induction f with
    | nil => exact fun _ => trivial
    | node c kids rest ihKids ihRest =>
      obtain ⟨hc, hkids, hrest⟩ := hnodes
      exact fun inScript => ⟨arrangedOver_readBack inScript hc, ihKids hkids _, ihRest hrest _⟩
  exact hall false

theorem fresh_readBack (inScript : Bool) (hc : c.Legible kids) (hproper : c.Proper) :
    (c.readBack inScript).Fresh := by
  cases c with
  | text t => trivial
  | comment t => trivial
  | element e => exact ⟨hproper.1, rfl, rfl⟩
  | fragment | shadowRoot => exact hc

theorem freshTrees_readBack (h : Legible f) (hproper : ∀ c ∈ f.labels, c.Proper) :
    FreshTrees (readBack false f) := by
  have hall : ∀ inScript, ∀ c ∈ (readBack inScript f).labels, c.Fresh := by
    induction f with
    | nil => exact fun _ c hc => absurd hc List.not_mem_nil
    | node c kids rest ihKids ihRest =>
      obtain ⟨hc, hkids, hrest⟩ := h
      intro inScript x hx
      rw [readBack, Forest.labels, List.mem_cons, List.mem_append] at hx
      rcases hx with rfl | hx | hx
      · exact fresh_readBack inScript hc (hproper c (by simp [Forest.labels]))
      · exact ihKids hkids (fun y hy => hproper y (by simp [Forest.labels, hy])) _ x hx
      · exact ihRest hrest (fun y hy => hproper y (by simp [Forest.labels, hy])) _ x hx
  exact hall false

/-- **Legible trees come back from their markup, but for references in scripts.** -/
theorem parse_html (h : Legible f) (harranged : Arranged f) (hproper : ∀ c ∈ f.labels, c.Proper)
    (hreturn : ∀ c ∈ f.labels, c.NoReturn) : parse (html f) = readBack false f := by
  have htokens : tokens (html f).toList = spelling (readBack false f) := by
    rw [tokens, normalizeLines_eq_self (not_mem_html h hreturn), run_html h]
    simp [State.finish]
  rw [parse, htokens]
  exact build_spelling (arranged_readBack harranged) (freshTrees_readBack h hproper)

/-! ### What is not changed by it -/

/-- Where no node takes its texts as they stand, all that is left out is what markup does not
show. -/
theorem readBack_eq_map (h : ∀ c ∈ f.labels, c.holdsScript = false) :
    readBack false f = f.map Content.written := by
  induction f with
  | nil => rfl
  | node c kids rest ihKids ihRest =>
    have hc := h c (by simp [Forest.labels])
    have hsame : c.readBack false = c.written := by cases c <;> rfl
    rw [readBack, hc, hsame, ihKids fun x hx => h x (by simp [Forest.labels, hx]),
      ihRest fun x hx => h x (by simp [Forest.labels, hx])]
    rfl

/-- A character is written as it stands, or it is one of three and what is put for it is
longer. -/
theorem escapeTextChar_cases (c : Char) :
    (c ≠ '&' ∧ c ≠ '<' ∧ c ≠ '>') ∧ escapeTextChar c = [c] ∨
      ¬ (c ≠ '&' ∧ c ≠ '<' ∧ c ≠ '>') ∧ 1 < (escapeTextChar c).length := by
  unfold escapeTextChar
  split
  · exact Or.inr (by decide)
  · exact Or.inr (by decide)
  · exact Or.inr (by decide)
  · next hamp hlt hgt => exact Or.inl ⟨⟨hamp, hlt, hgt⟩, rfl⟩

theorem length_le_flatMap_escapeTextChar (cs : List Char) :
    cs.length ≤ (cs.flatMap escapeTextChar).length := by
  induction cs with
  | nil => exact Nat.le_refl _
  | cons c cs ih =>
    have hc : 1 ≤ (escapeTextChar c).length := by
      rcases escapeTextChar_cases c with ⟨-, hsame⟩ | ⟨-, hlong⟩
      · rw [hsame]
        exact Nat.le_refl _
      · omega
    simp only [List.flatMap_cons, List.length_append, List.length_cons]
    omega

/-- Text is written as it stands exactly if it has none of the three characters that are
escaped. -/
theorem escapeText_eq_self_iff {t : String} :
    escapeText t = t ↔ ∀ c ∈ t.toList, c ≠ '&' ∧ c ≠ '<' ∧ c ≠ '>' := by
  rw [escapeText, ← String.toList_inj, String.toList_ofList]
  induction t.toList with
  | nil => simp
  | cons c cs ih =>
    rw [List.flatMap_cons, List.forall_mem_cons]
    rcases escapeTextChar_cases c with ⟨hc, hsame⟩ | ⟨hc, hlong⟩
    · rw [hsame, List.singleton_append, List.cons_inj_right, ih]
      exact ⟨fun h => ⟨hc, h⟩, fun h => h.2⟩
    · refine ⟨fun heq => ?_, fun h => absurd h.1 hc⟩
      have hrest := length_le_flatMap_escapeTextChar cs
      have hlength := congrArg List.length heq
      simp only [List.length_append, List.length_cons] at hlength
      omega

/-- What is written as it stands comes back. -/
theorem readBack_eq_self_iff (hf : FreshTrees f) (inScript : Bool) :
    readBack inScript f = f ↔
      (inScript = true → ∀ t, Content.text t ∈ f.roots → escapeText t = t) ∧
        f.Every fun c kids => c.Verbatim kids := by
  induction f generalizing inScript with
  | nil => simp [readBack, Forest.roots, Forest.Every]
  | node c kids rest ihKids ihRest =>
    have hc := hf c (by simp [Forest.labels])
    have hkids := ihKids (fun x hx => hf x (by simp [Forest.labels, hx])) c.holdsScript
    have hrest := ihRest (fun x hx => hf x (by simp [Forest.labels, hx])) inScript
    have hone : c.readBack inScript = c ↔
        (inScript = true → ∀ t, Content.text t = c → escapeText t = t) := by
      cases c with
      | text t => cases inScript <;> simp [Content.readBack]
      | comment t => simp [Content.readBack, Content.written]
      | element e =>
        obtain ⟨tag, attributes, properties, shadow⟩ := e
        obtain ⟨-, hproperties, hshadow⟩ := hc
        simp only at hproperties hshadow
        simp [Content.readBack, Content.written, hproperties, hshadow]
      | fragment | shadowRoot => exact absurd hc id
    simp only [readBack, Forest.node.injEq, hone, hkids, hrest, Forest.roots, List.mem_cons,
      Forest.Every, Content.Verbatim, escapeText_eq_self_iff]
    constructor
    · rintro ⟨hfirst, ⟨hscript, hbelow⟩, hothers, hbeside⟩
      refine ⟨fun hin t ht => ?_, hscript, hbelow, hbeside⟩
      rcases ht with ht | ht
      · exact hfirst hin t ht
      · exact hothers hin t ht
    · rintro ⟨hroots, hscript, hbelow, hbeside⟩
      exact ⟨fun hin t ht => hroots hin t (Or.inl ht), ⟨hscript, hbelow⟩,
        fun hin t ht => hroots hin t (Or.inr ht), hbeside⟩

end Markup

end LiveMarkup
