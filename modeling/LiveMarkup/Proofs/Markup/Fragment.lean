/-
What kinds of nodes markup makes.

Whatever the text, reading it gives elements, texts and comments, and nothing else.  The
elements come straight from their tags: no attribute twice, no properties, no shadow
root.  `Builder.Fresh` says this of a builder half way, with open elements and a start tag
still being read; each token keeps it (`Builder.Fresh.step`), and so does closing what is
open at the end.
-/
import LiveMarkup.Markup.Fragment
import LiveMarkup.Proofs.Forest
import LiveMarkup.Proofs.OrderedMap

namespace LiveMarkup

namespace Content

/-- An element names no attribute and no property twice. -/
def Proper : Content → Prop
  | element e => e.attributes.Distinct ∧ e.properties.Distinct
  | fragment | text _ | comment _ | shadowRoot => True

/-- Content as markup gives it. -/
def Fresh : Content → Prop
  | element e => e.attributes.Distinct ∧ e.properties = ∅ ∧ e.shadow = none
  | text _ | comment _ => True
  | fragment | shadowRoot => False

theorem Fresh.proper {c : Content} (h : c.Fresh) : c.Proper := by
  cases c with
  | element e =>
    obtain ⟨hattributes, hproperties, -⟩ := h
    refine ⟨hattributes, ?_⟩
    rw [hproperties]
    exact OrderedMap.distinct_empty
  | fragment | text | comment | shadowRoot => trivial

end Content

namespace Markup

/-- Trees whose nodes are all as markup gives them. -/
def FreshTrees (f : Forest Content) : Prop := ∀ c ∈ f.labels, c.Fresh

theorem freshTrees_nil : FreshTrees .nil := fun _ hc => absurd hc List.not_mem_nil

theorem freshTrees_append {f g : Forest Content} (hf : FreshTrees f) (hg : FreshTrees g) :
    FreshTrees (f ++ g) := by
  intro c hc
  rw [Forest.labels_append] at hc
  exact (List.mem_append.1 hc).elim (hf c) (hg c)

theorem freshTrees_of_append {f g : Forest Content} (h : FreshTrees (f ++ g)) :
    FreshTrees f ∧ FreshTrees g := by
  unfold FreshTrees at h
  rw [Forest.labels_append] at h
  exact List.forall_mem_append.1 h

theorem freshTrees_node {c : Content} {kids rest : Forest Content}
    (h : FreshTrees (.node c kids rest)) : c.Fresh ∧ FreshTrees kids ∧ FreshTrees rest :=
  ⟨h c (by simp [Forest.labels]), fun x hx => h x (by simp [Forest.labels, hx]),
    fun x hx => h x (by simp [Forest.labels, hx])⟩

theorem freshTrees_tree {c : Content} {kids : Forest Content} (hc : c.Fresh)
    (hkids : FreshTrees kids) : FreshTrees (.tree c kids) := by
  intro x hx
  simp only [Forest.tree, Forest.labels, List.append_nil] at hx
  rcases List.mem_cons.1 hx with rfl | hx
  · exact hc
  · exact hkids x hx

theorem freshTrees_appendText {f : Forest Content} (hf : FreshTrees f) (s : String) :
    FreshTrees (appendText s f) := by
  induction f with
  | nil => exact freshTrees_tree trivial freshTrees_nil
  | node c kids rest ihKids ihRest =>
    obtain ⟨hc, hkids, hrest⟩ := freshTrees_node hf
    have hother : FreshTrees (.node c kids (appendText s rest)) :=
      freshTrees_append (freshTrees_tree hc hkids) (ihRest hrest)
    cases rest with
    | nil =>
      cases c with
      | text t => exact freshTrees_tree trivial hkids
      | fragment | element | comment | shadowRoot => exact hother
    | node => cases c <;> exact hother

theorem fresh_addAttribute {e : Element} (h : (Content.element e).Fresh) (name value : String) :
    (Content.element (addAttribute e name value)).Fresh :=
  ⟨h.1.insertNew name value, h.2⟩

theorem PendingTag.fresh_settle {t : PendingTag} (h : (Content.element t.element).Fresh)
    (value : String) : (Content.element (t.settle value).element).Fresh := by
  unfold PendingTag.settle
  split
  · exact fresh_addAttribute h _ _
  · exact h

namespace Builder

/-- All that a builder holds is as markup gives it. -/
structure Fresh (b : Builder) : Prop where
  top : FreshTrees b.top
  stack : ∀ o ∈ b.stack, (Content.element o.element).Fresh ∧ FreshTrees o.children
  tag : ∀ t, b.tag = some t → (Content.element t.element).Fresh

variable {b : Builder}

theorem fresh_empty : Fresh {} where
  top := freshTrees_nil
  stack _ ho := absurd ho List.not_mem_nil
  tag _ ht := by cases ht

theorem Fresh.onChildren (h : b.Fresh) {change : Forest Content → Forest Content}
    (hchange : ∀ f, FreshTrees f → FreshTrees (change f)) : (b.onChildren change).Fresh := by
  obtain ⟨top, stack, tag⟩ := b
  cases stack with
  | nil => exact ⟨hchange _ h.top, h.stack, h.tag⟩
  | cons inner outer =>
    have hinner := h.stack inner (List.mem_cons_self ..)
    refine ⟨h.top, List.forall_mem_cons.2 ⟨⟨hinner.1, hchange _ hinner.2⟩, fun o ho => ?_⟩, h.tag⟩
    exact h.stack o (List.mem_cons_of_mem _ ho)

theorem Fresh.add (h : b.Fresh) {trees : Forest Content} (htrees : FreshTrees trees) :
    (b.add trees).Fresh :=
  h.onChildren fun _ hf => freshTrees_append hf htrees

theorem Fresh.close (h : b.Fresh) : b.close.Fresh := by
  obtain ⟨top, stack, tag⟩ := b
  cases stack with
  | nil => exact h
  | cons inner outer =>
    have hinner := h.stack inner (List.mem_cons_self ..)
    have houter : Fresh ⟨top, outer, tag⟩ :=
      ⟨h.top, fun o ho => h.stack o (List.mem_cons_of_mem _ ho), h.tag⟩
    exact houter.add (freshTrees_tree hinner.1 hinner.2)

theorem Fresh.closeMany (h : b.Fresh) (n : Nat) : (b.closeMany n).Fresh := by
  induction n generalizing b with
  | zero => exact h
  | succ n ih => exact ih h.close

theorem Fresh.closeThrough (h : b.Fresh) (tag : String) : (b.closeThrough tag).Fresh := by
  unfold Builder.closeThrough
  split
  · exact h.closeMany _
  · exact h

theorem Fresh.withTag (h : b.Fresh) {tag : Option PendingTag}
    (htag : ∀ t, tag = some t → (Content.element t.element).Fresh) :
    Fresh { b with tag } :=
  ⟨h.top, h.stack, htag⟩

theorem Fresh.completeTag (h : b.Fresh) (selfClosing : Bool) :
    (b.completeTag selfClosing).Fresh := by
  unfold Builder.completeTag
  split
  · exact h
  · next tag htag =>
    have helement : (Content.element (tag.settle "").element).Fresh :=
      PendingTag.fresh_settle (h.tag tag htag) ""
    have hread : Fresh { b with tag := none } := h.withTag fun _ ht => by cases ht
    simp only
    split
    · exact hread.add (freshTrees_tree helement freshTrees_nil)
    · exact ⟨hread.top, List.forall_mem_cons.2 ⟨⟨helement, freshTrees_nil⟩, hread.stack⟩,
        hread.tag⟩

theorem Fresh.mapTag (h : b.Fresh) {change : PendingTag → PendingTag}
    (hchange : ∀ t : PendingTag, (Content.element t.element).Fresh →
      (Content.element (change t).element).Fresh) :
    Fresh { b with tag := b.tag.map change } := by
  refine h.withTag fun t ht => ?_
  obtain ⟨read, hread, rfl⟩ := Option.map_eq_some_iff.1 ht
  exact hchange read (h.tag read hread)

/-- One token keeps everything as markup gives it. -/
theorem Fresh.step (h : b.Fresh) (token : Token) : (b.step token).Fresh := by
  cases token with
  | startTag name =>
    refine h.withTag fun t ht => ?_
    cases ht
    exact ⟨OrderedMap.distinct_empty, rfl, rfl⟩
  | attributeName name => exact h.mapTag fun t ht => PendingTag.fresh_settle ht ""
  | attributeValue value => exact h.mapTag fun t ht => PendingTag.fresh_settle ht value
  | startTagEnd selfClosing => exact h.completeTag selfClosing
  | endTag name => exact (h.withTag fun _ ht => by cases ht).closeThrough name
  | text s =>
    unfold Builder.step
    simp only
    split
    · exact h
    · exact h.onChildren fun f hf => freshTrees_appendText hf s
  | comment s => exact h.add (freshTrees_tree trivial freshTrees_nil)

theorem Fresh.foldl (h : b.Fresh) (tokens : List Token) :
    (tokens.foldl Builder.step b).Fresh := by
  induction tokens generalizing b with
  | nil => exact h
  | cons token rest ih => exact ih (h.step token)

end Builder

/-- **Markup makes elements, texts and comments, and the elements are as their tags say.** -/
theorem fresh_parse (markup : String) : FreshTrees (parse markup) := by
  unfold parse build Builder.finish
  exact ((Builder.fresh_empty.foldl _).closeMany _).top

end Markup

end LiveMarkup
