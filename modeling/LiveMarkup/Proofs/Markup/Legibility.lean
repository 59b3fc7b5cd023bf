/-
Trees from markup are legible.

Whatever a text says, the trees it is read as can be written and read again: their names
are such that they need no escaping, their comments can be told from the markup around
them, and where the content of an element is not read as markup it is a text.

The lexer sees to all this by the order and the content of its tokens (`Grammar`), so it is
enough to follow the builder from phase to phase.  `Builder.Stands` says what it has in each
of them: nowhere else than innermost can there be an open element whose content is not
markup, and then all it has is a text.
-/
import LiveMarkup.Proofs.Markup.Grammar
import LiveMarkup.Proofs.Markup.RoundTrip

namespace LiveMarkup.Markup

variable {b : Builder} {p : Phase} {t : Token} {f kids : Forest Content} {e : Element}

theorem Phase.ofMode_ofTag_markup {tag : String} (h : contentModel tag = .markup) :
    Phase.ofMode (.ofTag tag) = .markup := by
  rw [ofTag_of_markup h]
  rfl

theorem Phase.ofMode_ofTag_raw {tag : String} (h : contentModel tag ≠ .markup) :
    Phase.ofMode (.ofTag tag) = .raw tag := by
  unfold Mode.ofTag
  split
  · next hmodel => exact absurd hmodel h
  · rfl
  · rfl

theorem legible_nil : Legible .nil := trivial

theorem legible_append : Legible (f ++ kids) ↔ Legible f ∧ Legible kids := Forest.every_append

theorem legible_tree {c : Content} : Legible (.tree c kids) ↔ c.Legible kids ∧ Legible kids :=
  Forest.every_tree

theorem PlainText.legible (h : PlainText kids) : Legible kids := by
  rcases h with rfl | ⟨u, -, rfl⟩
  · exact legible_nil
  · exact legible_tree.2 ⟨trivial, legible_nil⟩

theorem legible_appendText (hf : Legible f) (s : String) : Legible (appendText s f) := by
  induction f with
  | nil => exact legible_tree.2 ⟨trivial, legible_nil⟩
  | node c kids rest _ ih =>
    obtain ⟨hc, hkids, hrest⟩ := hf
    have hother : Legible (.node c kids (appendText s rest)) := ⟨hc, hkids, ih hrest⟩
    cases rest with
    | nil =>
      cases c with
      | text u => exact ⟨trivial, hkids, trivial⟩
      | fragment | element | comment | shadowRoot => exact hother
    | node => cases c <;> exact hother

/-- Text that is all the content there is stays so when it goes on. -/
theorem PlainText.appendText (h : PlainText kids) {s : String} (hs : '\x00' ∉ s.toList) :
    PlainText (appendText s kids) := by
  rcases h with rfl | ⟨u, hu, rfl⟩
  · exact Or.inr ⟨s, hs, rfl⟩
  · exact Or.inr ⟨u ++ s, by simp [hu, hs], rfl⟩

/-! ### Elements that are being read -/

theorem LegibleElement.addAttribute (h : LegibleElement e) {name value : String}
    (hname : AttributeName name) (hvalue : '\x00' ∉ value.toList) :
    LegibleElement (addAttribute e name value) := by
  unfold Markup.addAttribute OrderedMap.insertNew
  split
  · exact h
  · refine ⟨h.tag, ?_, ?_⟩
    · intro entry hentry
      rcases List.mem_append.1 hentry with hentry | hentry
      · exact h.names entry hentry
      · rw [List.mem_singleton.1 hentry]
        exact hname
    · intro entry hentry
      rcases List.mem_append.1 hentry with hentry | hentry
      · exact h.values entry hentry
      · rw [List.mem_singleton.1 hentry]
        exact hvalue

/-- The start tag of an element of this name is being read. -/
structure PendingTag.Legible (name : String) (t : PendingTag) : Prop where
  tag : t.element.tag = name
  element : LegibleElement t.element
  waiting : ∀ n, t.waiting = some n → AttributeName n

theorem PendingTag.Legible.settle {name : String} {t : PendingTag} (h : t.Legible name)
    {value : String} (hvalue : '\x00' ∉ value.toList) : (t.settle value).Legible name := by
  unfold PendingTag.settle
  split
  · next n hn => exact ⟨h.tag, h.element.addAttribute (h.waiting n hn) hvalue, nofun⟩
  · exact h

/-- An open element whose content is markup. -/
def Container (e : Element) : Prop := LegibleElement e ∧ contentModel e.tag = .markup

namespace Builder

/-- What a builder has in each phase. -/
def Stands (b : Builder) : Phase → Prop
  | .markup => b.tag = none ∧ b.Holds Legible Container
  | .opening name => (∃ t, b.tag = some t ∧ t.Legible name) ∧ b.Holds Legible Container
  | .raw name => b.tag = none ∧ ∃ e kids outer, b.stack = ⟨e, kids⟩ :: outer ∧ e.tag = name ∧
      LegibleElement e ∧ PlainText kids ∧ Holds Legible Container ⟨b.top, outer, none⟩

theorem legible_append_element (hf : Legible f) (he : Container e) (hkids : Legible kids) :
    Legible (f ++ .tree (.element e) kids) :=
  legible_append.2 ⟨hf, legible_tree.2 ⟨⟨he.1, fun hraw => absurd he.2 hraw⟩, hkids⟩⟩

theorem legible_append_plain (hf : Legible f) (he : LegibleElement e) (hkids : PlainText kids) :
    Legible (f ++ .tree (.element e) kids) :=
  legible_append.2 ⟨hf, legible_tree.2 ⟨⟨he, fun _ => hkids⟩, hkids.legible⟩⟩

theorem stands_step_markup (hb : b.Stands .markup) (ht : Phase.markup.Allows t) :
    (b.step t).Stands (Phase.markup.next t) := by
  obtain ⟨htag, hholds⟩ := hb
  cases t with
  | startTag name =>
    have hattributes : ∀ entry ∈ (∅ : OrderedMap String).entries, False := nofun
    have he : LegibleElement { tag := name } :=
      ⟨ht, fun _ h => (hattributes _ h).elim, fun _ h => (hattributes _ h).elim⟩
    exact ⟨⟨_, rfl, rfl, he, nofun⟩, hholds.top, hholds.stack⟩
  | attributeName | attributeValue =>
    refine ⟨?_, hholds.top, hholds.stack⟩
    simp [Builder.step, htag]
  | startTagEnd => exact absurd ht id
  | endTag name =>
    have hread : Holds Legible Container { b with tag := none } := ⟨hholds.top, hholds.stack⟩
    exact ⟨tag_closeThrough _ name,
      hread.closeThrough (fun _ _ _ hf he hkids => legible_append_element hf he hkids) name⟩
  | text s =>
    unfold Builder.step
    simp only
    split
    · exact ⟨htag, hholds⟩
    · exact ⟨(tag_onChildren _ _).trans htag,
        hholds.onChildren fun _ hf => legible_appendText hf s⟩
  | comment s =>
    have hcomment : Legible (.tree (.comment s) .nil) := legible_tree.2 ⟨ht, legible_nil⟩
    exact ⟨(tag_onChildren _ _).trans htag,
      hholds.onChildren fun _ hf => legible_append.2 ⟨hf, hcomment⟩⟩

/-- The end of a start tag leaves the element open, unless it cannot have content. -/
theorem stands_completeTag {name : String} {pending : PendingTag} (htag : b.tag = some pending)
    (hpending : (pending.settle "").Legible name) (hholds : b.Holds Legible Container)
    (selfClosing : Bool) :
    (b.completeTag selfClosing).Stands ((Phase.opening name).opened selfClosing) := by
  obtain ⟨top, stack, tag⟩ := b
  obtain rfl : tag = some pending := htag
  obtain ⟨rfl, he, -⟩ := hpending
  unfold Builder.completeTag
  simp only [Phase.opened]
  split
  · next hempty =>
    -- The element has no content, and markup goes on after it.
    have hphase : (if selfClosing = true then Phase.markup
        else .ofMode (.ofTag (pending.settle "").element.tag)) = .markup := by
      split
      · rfl
      · next hopen =>
        have hvoid : (pending.settle "").element.isVoid = true := by simpa [hopen] using hempty
        exact Phase.ofMode_ofTag_markup (contentModel_of_isVoid hvoid)
    have hread : Holds Legible Container ⟨top, stack, none⟩ := ⟨hholds.top, hholds.stack⟩
    rw [hphase]
    exact ⟨tag_onChildren _ _,
      hread.onChildren fun _ hf => legible_append_plain hf he (Or.inl rfl)⟩
  · next hcontent =>
    have hopen : ¬ selfClosing = true := fun hc => hcontent (by simp [hc])
    rw [if_neg hopen]
    by_cases hmodel : contentModel (pending.settle "").element.tag = .markup
    · rw [Phase.ofMode_ofTag_markup hmodel]
      exact ⟨rfl, hholds.top,
        List.forall_mem_cons.2 ⟨⟨⟨he, hmodel⟩, legible_nil⟩, hholds.stack⟩⟩
    · rw [Phase.ofMode_ofTag_raw hmodel]
      exact ⟨rfl, _, _, stack, rfl, rfl, he, Or.inl rfl, hholds.top, hholds.stack⟩

theorem stands_step_opening {name : String} (hb : b.Stands (.opening name))
    (ht : (Phase.opening name).Allows t) : (b.step t).Stands ((Phase.opening name).next t) := by
  obtain ⟨⟨pending, htag, hpending⟩, hholds⟩ := hb
  have hempty : '\x00' ∉ "".toList := List.not_mem_nil
  have hsettled := hpending.settle hempty
  cases t with
  | attributeName n =>
    refine ⟨⟨{ pending.settle "" with waiting := some n }, ?_, ?_⟩, hholds.top, hholds.stack⟩
    · simp [Builder.step, htag]
    · refine ⟨hsettled.tag, hsettled.element, fun m hm => ?_⟩
      cases hm
      exact ht
  | attributeValue value =>
    refine ⟨⟨pending.settle value, ?_, hpending.settle ht⟩, hholds.top, hholds.stack⟩
    simp [Builder.step, htag]
  | startTagEnd selfClosing => exact stands_completeTag htag hsettled hholds selfClosing
  | startTag | endTag | text | comment => exact absurd ht id

theorem stands_step_raw {name : String} (hb : b.Stands (.raw name))
    (ht : (Phase.raw name).Allows t) : (b.step t).Stands ((Phase.raw name).next t) := by
  obtain ⟨top, stack, tag⟩ := b
  obtain ⟨rfl, e, kids, outer, rfl, rfl, he, hkids, hholds⟩ := hb
  cases t with
  | text s =>
    unfold Builder.step
    simp only
    split
    · exact ⟨rfl, e, kids, outer, rfl, rfl, he, hkids, hholds⟩
    · exact ⟨rfl, e, _, outer, rfl, rfl, he, hkids.appendText ht, hholds⟩
  | attributeName | attributeValue => exact ⟨rfl, e, kids, outer, rfl, rfl, he, hkids, hholds⟩
  | endTag closed =>
    obtain rfl : closed = e.tag := ht
    have hclosed : (Builder.mk top (⟨e, kids⟩ :: outer) none).step (.endTag e.tag) =
        (Builder.mk top outer none).add (.tree (.element e) kids) := by
      simp only [Builder.step, Builder.closeThrough, List.findIdx?_cons, beq_self_eq_true, if_true,
        Builder.closeMany, Builder.close]
    rw [hclosed]
    exact ⟨tag_onChildren _ _, hholds.onChildren fun _ hf => legible_append_plain hf he hkids⟩
  | startTag | startTagEnd | comment => exact absurd ht id

/-- One token leads the builder from phase to phase. -/
theorem stands_step (hb : b.Stands p) (ht : p.Allows t) : (b.step t).Stands (p.next t) := by
  cases p with
  | markup => exact stands_step_markup hb ht
  | opening name => exact stands_step_opening hb ht
  | raw name => exact stands_step_raw hb ht

theorem stands_foldl {ts : List Token} (hb : b.Stands p) (ht : p.AllowsAll ts) :
    (ts.foldl Builder.step b).Stands (p.after ts) := by
  induction ts generalizing b p with
  | nil => exact hb
  | cons t ts ih => exact ih (stands_step hb ht.1) ht.2

/-- What is open at the end is closed there. -/
theorem Stands.finish (hb : b.Stands p) : Legible b.finish := by
  have hclose (hb : b.Holds Legible Container) : Legible b.finish :=
    (hb.closeMany (fun _ _ _ hf he hkids => legible_append_element hf he hkids) _).top
  cases p with
  | markup | opening => exact hclose hb.2
  | raw name =>
    obtain ⟨top, stack, tag⟩ := b
    obtain ⟨rfl, e, kids, outer, rfl, rfl, he, hkids, hholds⟩ := hb
    have hinner : ((Builder.mk top outer none).add (.tree (.element e) kids)).Holds
        Legible Container := hholds.onChildren fun _ hf => legible_append_plain hf he hkids
    exact (hinner.closeMany
      (fun _ _ _ hf he hkids => legible_append_element hf he hkids) outer.length).top

end Builder

/-- **Trees from markup are legible.** -/
theorem legible_parse (markup : String) : Legible (parse markup) := by
  have hstart : Builder.Stands {} .markup := ⟨rfl, legible_nil, nofun⟩
  exact (Builder.stands_foldl hstart (allowsAll_tokens markup.toList)).finish

/-- **What is read from markup comes back from its own markup, but for references in scripts.** -/
theorem parse_html_parse {markup : String} (h : ∀ c ∈ (parse markup).labels, c.NoReturn) :
    parse (html (parse markup)) = readBack false (parse markup) :=
  parse_html (legible_parse markup) (arranged_build _)
    (fun c hc => (fresh_parse markup c hc).proper) h

end LiveMarkup.Markup
