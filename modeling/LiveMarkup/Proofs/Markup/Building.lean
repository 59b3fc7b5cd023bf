/-
How the trees of markup are arranged.

Whatever the tokens, the builder makes trees in which texts are not empty and never stand
side by side, and in which only elements, and no void ones, have anything below them
(`arranged_build`).
-/
import LiveMarkup.Proofs.Markup.Fragment
import LiveMarkup.Proofs.Nesting
import Mathlib.Data.List.Chain

namespace LiveMarkup

namespace Content

/-- Whether the node is a text. -/
def isText : Content → Bool
  | text _ => true
  | fragment | element _ | comment _ | shadowRoot => false

/-- At least one of two neighbours is no text. -/
def NotBothTexts (c c' : Content) : Prop := ¬ (c.isText = true ∧ c'.isText = true)

/-- A node of markup with trees below it that the builder could have put there. -/
def ArrangedOver (kids : Forest Content) : Content → Prop
  | text s => s ≠ "" ∧ kids = .nil
  | comment _ => kids = .nil
  | element e => (e.isVoid = true → kids = .nil) ∧ kids.roots.IsChain NotBothTexts
  | fragment | shadowRoot => False

theorem ArrangedOver.chain {kids : Forest Content} {c : Content} (h : c.ArrangedOver kids) :
    kids.roots.IsChain NotBothTexts := by
  cases c with
  | text s =>
    rw [h.2]
    exact List.isChain_nil
  | comment s =>
    obtain rfl : kids = .nil := h
    exact List.isChain_nil
  | element e => exact h.2
  | fragment | shadowRoot => exact absurd h id

end Content

namespace Markup

open Content

variable {f g kids : Forest Content} {c : Content}

/-- Trees arranged as the builder arranges them. -/
structure Arranged (f : Forest Content) : Prop where
  nodes : f.Every fun c kids => c.ArrangedOver kids
  roots : f.roots.IsChain NotBothTexts

/-- The first tree of `g` can stand after the last of `f`. -/
def Joins (f g : Forest Content) : Prop :=
  ∀ x ∈ f.roots.getLast?, ∀ y ∈ g.roots.head?, NotBothTexts x y

theorem joins_nil (g : Forest Content) : Joins .nil g := fun _ hx => by cases hx

theorem Joins.left {g' : Forest Content} (h : Joins f (g ++ g')) : Joins f g := by
  intro x hx y hy
  refine h x hx y ?_
  rw [Forest.roots_append, List.head?_append, hy]
  rfl

theorem arranged_nil : Arranged .nil := ⟨trivial, List.isChain_nil⟩

theorem arranged_append : Arranged (f ++ g) ↔ Arranged f ∧ Arranged g ∧ Joins f g := by
  constructor
  · rintro ⟨hnodes, hroots⟩
    rw [Forest.every_append] at hnodes
    rw [Forest.roots_append, List.isChain_append] at hroots
    exact ⟨⟨hnodes.1, hroots.1⟩, ⟨hnodes.2, hroots.2.1⟩, hroots.2.2⟩
  · rintro ⟨hf, hg, hjoins⟩
    refine ⟨Forest.every_append.2 ⟨hf.nodes, hg.nodes⟩, ?_⟩
    rw [Forest.roots_append, List.isChain_append]
    exact ⟨hf.roots, hg.roots, hjoins⟩

theorem arranged_node {rest : Forest Content} (h : Arranged (.node c kids rest)) :
    c.ArrangedOver kids ∧ Arranged kids ∧ Arranged rest ∧ Joins (.tree c kids) rest := by
  obtain ⟨htree, hrest, hjoins⟩ := arranged_append (f := .tree c kids).1 h
  obtain ⟨hc, hkids⟩ := Forest.every_tree.1 htree.nodes
  exact ⟨hc, ⟨hkids, hc.chain⟩, hrest, hjoins⟩

theorem arranged_tree (hc : c.ArrangedOver kids)
    (hkids : kids.Every fun c kids => c.ArrangedOver kids) : Arranged (.tree c kids) :=
  ⟨Forest.every_tree.2 ⟨hc, hkids⟩, List.isChain_singleton c⟩

theorem joins_tree_of_not_text (hc : c.isText = false) (f kids : Forest Content) :
    Joins f (.tree c kids) := by
  intro x _ y hy hboth
  simp only [Forest.tree, Forest.roots, List.head?_cons, Option.mem_some_iff] at hy
  rw [hy, hboth.2] at hc
  cases hc

/-! ### Text after trees -/

/-- Text makes the text at the end longer. -/
theorem appendText_append_text (f : Forest Content) (t s : String) :
    appendText s (f ++ .tree (.text t) kids) = f ++ .tree (.text (t ++ s)) kids := by
  induction f with
  | nil => rfl
  | node c kids rest _ ih =>
    rw [Forest.node_append, Forest.node_append, ← ih]
    cases rest <;> cases c <;> rfl

/-- Text becomes a tree of its own where no text is at the end. -/
theorem appendText_of_joins {s : String} (h : Joins f (.tree (.text s) .nil)) :
    appendText s f = f ++ .tree (.text s) .nil := by
  induction f with
  | nil => rfl
  | node c kids rest _ ih =>
    cases rest with
    | nil =>
      cases c with
      | text t => exact absurd ⟨rfl, rfl⟩ (h (.text t) rfl (.text s) rfl)
      | fragment | element | comment | shadowRoot => rfl
    | node c' kids' rest' =>
      have hrest : Joins (.node c' kids' rest') (.tree (.text s) .nil) := by
        intro x hx
        refine h x ?_
        simpa only [Forest.roots, List.getLast?_cons_cons] using hx
      rw [Forest.node_append, ← ih hrest]
      cases c <;> rfl

/-- Where text does not become a tree of its own there is a text at the end. -/
theorem exists_text_of_not_joins {s : String} (h : ¬ Joins f (.tree (.text s) .nil)) :
    ∃ before t kids, f = before ++ .tree (.text t) kids := by
  induction f with
  | nil => exact absurd (fun x hx => by cases hx) h
  | node c kids rest _ ih =>
    cases rest with
    | nil =>
      cases c with
      | text t => exact ⟨.nil, t, kids, rfl⟩
      | fragment | element | comment | shadowRoot =>
        refine absurd (fun x hx y _ hboth => ?_) h
        cases hx
        cases hboth.1
    | node c' kids' rest' =>
      have hrest : ¬ Joins (.node c' kids' rest') (.tree (.text s) .nil) := by
        intro hjoins
        refine h fun x hx => hjoins x ?_
        simpa only [Forest.roots, List.getLast?_cons_cons] using hx
      obtain ⟨before, t, last, heq⟩ := ih hrest
      exact ⟨.node c kids before, t, last, by rw [heq]; rfl⟩

theorem joins_of_joins_text {s t : String} (h : Joins f (.tree (.text t) .nil)) :
    Joins f (.tree (.text s) .nil) := by
  intro x hx y hy hboth
  exact h x hx (.text t) rfl ⟨hboth.1, rfl⟩

theorem arranged_appendText (hf : Arranged f) {s : String} (hs : s ≠ "") :
    Arranged (appendText s f) := by
  by_cases hjoins : Joins f (.tree (.text s) .nil)
  · rw [appendText_of_joins hjoins]
    exact arranged_append.2 ⟨hf, arranged_tree ⟨hs, rfl⟩ trivial, hjoins⟩
  · obtain ⟨before, t, last, rfl⟩ := exists_text_of_not_joins hjoins
    obtain ⟨hbefore, hlast, hend⟩ := arranged_append.1 hf
    obtain ⟨-, rfl⟩ : t ≠ "" ∧ last = .nil := (Forest.every_tree.1 hlast.nodes).1
    rw [appendText_append_text]
    have hne : t ++ s ≠ "" := by
      intro heq
      rw [String.append_eq_empty_iff] at heq
      exact hs heq.2
    exact arranged_append.2
      ⟨hbefore, arranged_tree ⟨hne, rfl⟩ trivial, joins_of_joins_text hend⟩

/-! ### Whatever the tokens -/

namespace Builder

/-- The trees of the innermost open element, or those at the top if none is open. -/
def children (b : Builder) : Forest Content :=
  match b.stack with
  | [] => b.top
  | inner :: _ => inner.children

/-- What holds of all trees a builder has so far, and of the elements that are open. -/
structure Holds (T : Forest Content → Prop) (E : Element → Prop) (b : Builder) : Prop where
  top : T b.top
  stack : ∀ o ∈ b.stack, E o.element ∧ T o.children

variable {T : Forest Content → Prop} {E : Element → Prop} {b : Builder}

theorem Holds.onChildren (h : b.Holds T E) {change : Forest Content → Forest Content}
    (hchange : ∀ f, T f → T (change f)) : (b.onChildren change).Holds T E := by
  obtain ⟨top, stack, tag⟩ := b
  cases stack with
  | nil => exact ⟨hchange _ h.top, h.stack⟩
  | cons inner outer =>
    obtain ⟨hinner, houter⟩ := List.forall_mem_cons.1 h.stack
    exact ⟨h.top, List.forall_mem_cons.2 ⟨⟨hinner.1, hchange _ hinner.2⟩, houter⟩⟩

theorem Holds.children (h : b.Holds T E) : T b.children := by
  obtain ⟨top, stack, tag⟩ := b
  cases stack with
  | nil => exact h.top
  | cons inner outer => exact (h.stack inner List.mem_cons_self).2

theorem Holds.close (h : b.Holds T E)
    (htree : ∀ f e kids, T f → E e → T kids → T (f ++ .tree (.element e) kids)) :
    b.close.Holds T E := by
  obtain ⟨top, stack, tag⟩ := b
  cases stack with
  | nil => exact h
  | cons inner outer =>
    obtain ⟨hinner, houter⟩ := List.forall_mem_cons.1 h.stack
    have hrest : Holds T E ⟨top, outer, tag⟩ := ⟨h.top, houter⟩
    exact hrest.onChildren fun f hf => htree f _ _ hf hinner.1 hinner.2

theorem Holds.closeMany (h : b.Holds T E)
    (htree : ∀ f e kids, T f → E e → T kids → T (f ++ .tree (.element e) kids)) (n : Nat) :
    (b.closeMany n).Holds T E := by
  induction n generalizing b with
  | zero => exact h
  | succ n ih => exact ih (h.close htree)

theorem Holds.closeThrough (h : b.Holds T E)
    (htree : ∀ f e kids, T f → E e → T kids → T (f ++ .tree (.element e) kids)) (tag : String) :
    (b.closeThrough tag).Holds T E := by
  unfold Builder.closeThrough
  split
  · exact h.closeMany htree _
  · exact h

theorem Holds.completeTag (h : b.Holds T E) (selfClosing : Bool)
    (hempty : ∀ t, b.tag = some t → ∀ f, T f →
      T (f ++ .tree (.element (t.settle "").element) .nil))
    (hopen : ∀ t, b.tag = some t → (t.settle "").element.isVoid = false →
      E (t.settle "").element ∧ T .nil) :
    (b.completeTag selfClosing).Holds T E := by
  unfold Builder.completeTag
  split
  · exact h
  · next t ht =>
    have hread : Holds T E { b with tag := none } := ⟨h.top, h.stack⟩
    simp only
    split
    · exact hread.onChildren (hempty t ht)
    · next hcontent =>
      rw [Bool.not_eq_true, Bool.or_eq_false_iff] at hcontent
      exact ⟨h.top, List.forall_mem_cons.2 ⟨hopen t ht hcontent.2, h.stack⟩⟩

end Builder

theorem arranged_append_element {e : Element} (hf : Arranged f)
    (he : e.isVoid = false ∨ kids = .nil) (hkids : Arranged kids) :
    Arranged (f ++ .tree (.element e) kids) := by
  refine arranged_append.2 ⟨hf, arranged_tree ⟨fun hvoid => ?_, hkids.roots⟩ hkids.nodes,
    joins_tree_of_not_text rfl f kids⟩
  exact he.resolve_left (by simp [hvoid])

/-- One token keeps the trees arranged. -/
theorem arranged_step {b : Builder} (h : b.Holds Arranged fun e => e.isVoid = false)
    (token : Token) : (b.step token).Holds Arranged fun e => e.isVoid = false := by
  cases token with
  | startTag | attributeName | attributeValue => exact ⟨h.top, h.stack⟩
  | startTagEnd selfClosing =>
    exact h.completeTag selfClosing
      (fun _ _ _ hf => arranged_append_element hf (Or.inr rfl) arranged_nil)
      fun _ _ hvoid => ⟨hvoid, arranged_nil⟩
  | endTag name =>
    have hread : Builder.Holds Arranged (fun e => e.isVoid = false) { b with tag := none } :=
      ⟨h.top, h.stack⟩
    exact hread.closeThrough
      (fun _ _ _ hf he hkids => arranged_append_element hf (Or.inl he) hkids) name
  | text s =>
    unfold Builder.step
    simp only
    split
    · exact h
    · next hs =>
      rw [String.isEmpty_iff] at hs
      exact h.onChildren fun _ hf => arranged_appendText hf hs
  | comment s =>
    have hcomment : Arranged (.tree (.comment s) .nil) :=
      arranged_tree (show ArrangedOver .nil (.comment s) from rfl) trivial
    exact h.onChildren fun f hf =>
      arranged_append.2 ⟨hf, hcomment, joins_tree_of_not_text rfl f .nil⟩

/-- **Whatever the tokens, the builder makes arranged trees.** -/
theorem arranged_build (tokens : List Token) : Arranged (build tokens) := by
  have hall : ∀ b : Builder, b.Holds Arranged (fun e => e.isVoid = false) →
      (tokens.foldl Builder.step b).Holds Arranged fun e => e.isVoid = false := by
    induction tokens with
    | nil => exact fun b hb => hb
    | cons token rest ih => exact fun b hb => ih _ (arranged_step hb token)
  have hread := hall {} ⟨arranged_nil, fun o ho => absurd ho List.not_mem_nil⟩
  exact (hread.closeMany
    (fun _ _ _ hf he hkids => arranged_append_element hf (Or.inl he) hkids) _).top

/-! ### Adding trees -/

namespace Builder

variable {b : Builder}

theorem children_onChildren (b : Builder) (change : Forest Content → Forest Content) :
    (b.onChildren change).children = change b.children := by
  obtain ⟨top, stack, tag⟩ := b
  cases stack <;> rfl

theorem children_add (b : Builder) (f : Forest Content) :
    (b.add f).children = b.children ++ f :=
  b.children_onChildren _

theorem tag_onChildren (b : Builder) (change : Forest Content → Forest Content) :
    (b.onChildren change).tag = b.tag := by
  obtain ⟨top, stack, tag⟩ := b
  cases stack <;> rfl

theorem tag_close (b : Builder) : b.close.tag = b.tag := by
  obtain ⟨top, stack, tag⟩ := b
  cases stack with
  | nil => rfl
  | cons inner outer => exact tag_onChildren ⟨top, outer, tag⟩ _

theorem tag_closeMany (b : Builder) (n : Nat) : (b.closeMany n).tag = b.tag := by
  induction n generalizing b with
  | zero => rfl
  | succ n ih => exact (ih b.close).trans b.tag_close

theorem tag_closeThrough (b : Builder) (name : String) : (b.closeThrough name).tag = b.tag := by
  unfold Builder.closeThrough
  split
  · exact tag_closeMany b _
  · rfl

theorem onChildren_congr {change change' : Forest Content → Forest Content}
    (h : change b.children = change' b.children) : b.onChildren change = b.onChildren change' := by
  obtain ⟨top, stack, tag⟩ := b
  cases stack with
  | nil => exact congrArg (fun f => (⟨f, [], tag⟩ : Builder)) h
  | cons inner outer =>
    exact congrArg (fun f => (⟨top, { inner with children := f } :: outer, tag⟩ : Builder)) h

theorem onChildren_onChildren (b : Builder) (change change' : Forest Content → Forest Content) :
    (b.onChildren change).onChildren change' = b.onChildren fun f => change' (change f) := by
  obtain ⟨top, stack, tag⟩ := b
  cases stack <;> rfl

theorem add_add (b : Builder) (f g : Forest Content) : (b.add f).add g = b.add (f ++ g) := by
  unfold Builder.add
  rw [onChildren_onChildren]
  exact onChildren_congr (Forest.append_assoc _ _ _)

theorem add_nil (b : Builder) : b.add .nil = b := by
  obtain ⟨top, stack, tag⟩ := b
  cases stack with
  | nil => exact congrArg (fun f => (⟨f, [], tag⟩ : Builder)) (Forest.append_nil top)
  | cons inner outer =>
    exact congrArg (fun f => (⟨top, { inner with children := f } :: outer, tag⟩ : Builder))
      (Forest.append_nil inner.children)

end Builder

end Markup

end LiveMarkup
