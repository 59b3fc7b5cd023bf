/-
Builders side by side.

Two builders that get tokens side by side keep trees of one shape, with labels that are
related, as long as the tokens are.  What "related" means is left open here.  It has to say
enough of elements for an end tag to close as many of them on both sides, and for a start tag to
open one on both sides or on neither.
-/
import LiveMarkup.Proofs.Markup.Building

namespace LiveMarkup

namespace Forest

variable {α β : Type} {R : α → β → Prop} {f f' : Forest α} {g g' : Forest β}

/-- Forests of the same shape with `R` between the labels. -/
inductive Pairs (R : α → β → Prop) : Forest α → Forest β → Prop
  | nil : Pairs R .nil .nil
  | node {a : α} {b : β} {kids rest : Forest α} {kids' rest' : Forest β} (hlabel : R a b)
    (hkids : Pairs R kids kids') (hrest : Pairs R rest rest') :
    Pairs R (.node a kids rest) (.node b kids' rest')

theorem Pairs.append (hf : Pairs R f g) (hf' : Pairs R f' g') : Pairs R (f ++ f') (g ++ g') := by
  induction hf with
  | nil => exact hf'
  | node hlabel hkids _ _ ih => exact .node hlabel hkids ih

theorem Pairs.tree {a : α} {b : β} {kids : Forest α} {kids' : Forest β} (h : R a b)
    (hkids : Pairs R kids kids') : Pairs R (.tree a kids) (.tree b kids') :=
  .node h hkids .nil

theorem Pairs.exists_mem (h : Pairs R f g) : ∀ a ∈ f.labels, ∃ b ∈ g.labels, R a b := by
  induction h with
  | nil => exact fun a ha => absurd ha List.not_mem_nil
  | @node a b kids rest kids' rest' hlabel _ _ ihKids ihRest =>
    intro x hx
    simp only [labels, List.mem_cons, List.mem_append] at hx ⊢
    rcases hx with rfl | hx | hx
    · exact ⟨b, Or.inl rfl, hlabel⟩
    · obtain ⟨y, hy, hxy⟩ := ihKids x hx
      exact ⟨y, Or.inr (Or.inl hy), hxy⟩
    · obtain ⟨y, hy, hxy⟩ := ihRest x hx
      exact ⟨y, Or.inr (Or.inr hy), hxy⟩

theorem Pairs.flip (h : Pairs R f g) : Pairs (fun b a => R a b) g f := by
  induction h with
  | nil => exact .nil
  | node hlabel _ _ ihKids ihRest => exact .node hlabel ihKids ihRest

end Forest

namespace Markup

open Content

variable {R : Content → Content → Prop} {f f' : Forest Content}

/-- Texts that come side by side, after trees that are. -/
theorem pairs_appendText (hkind : ∀ c c', R c c' → c.isText = c'.isText) {s s' : String}
    (hnew : R (.text s) (.text s'))
    (hjoined : ∀ t t', R (.text t) (.text t') → R (.text (t ++ s)) (.text (t' ++ s')))
    (h : Forest.Pairs R f f') : Forest.Pairs R (appendText s f) (appendText s' f') := by
  induction h with
  | nil => exact .tree hnew .nil
  | @node c c' kids rest kids' rest' hlabel hkids hrest _ ih =>
    have hother : Forest.Pairs R (.node c kids (appendText s rest))
        (.node c' kids' (appendText s' rest')) := .node hlabel hkids ih
    have hsame := hkind c c' hlabel
    cases hrest with
    | nil =>
      cases c with
      | text t =>
        cases c' with
        | text t' => exact .node (hjoined t t' hlabel) hkids .nil
        | fragment | element | comment | shadowRoot => cases hsame
      | fragment | element | comment | shadowRoot =>
        cases c' with
        | text t' => cases hsame
        | fragment | element | comment | shadowRoot => exact hother
    | node => cases c <;> cases c' <;> exact hother

/-- Open elements that are related, with trees below them that are. -/
structure OpenElement.Paired (R : Content → Content → Prop) (o o' : OpenElement) : Prop where
  element : R (.element o.element) (.element o'.element)
  children : Forest.Pairs R o.children o'.children

namespace Builder

/-- As many elements are open, and all that is there is related: trees and open elements by `R`,
start tags by `P`. -/
structure Paired (R : Content → Content → Prop) (P : PendingTag → PendingTag → Prop)
    (b b' : Builder) : Prop where
  top : Forest.Pairs R b.top b'.top
  stack : List.Forall₂ (OpenElement.Paired R) b.stack b'.stack
  tag : Option.Rel P b.tag b'.tag

variable {P : PendingTag → PendingTag → Prop} {b b' : Builder}

theorem Paired.empty : Paired R P {} {} := ⟨.nil, .nil, .none⟩

theorem Paired.withTag (h : Paired R P b b') {tag tag' : Option PendingTag}
    (htag : Option.Rel P tag tag') : Paired R P { b with tag } { b' with tag := tag' } :=
  ⟨h.top, h.stack, htag⟩

theorem Paired.mapTag (h : Paired R P b b') {change change' : PendingTag → PendingTag}
    (hchange : ∀ {t t'}, P t t' → P (change t) (change' t')) :
    Paired R P { b with tag := b.tag.map change } { b' with tag := b'.tag.map change' } := by
  obtain ⟨top, stack, tag⟩ := b
  obtain ⟨top', stack', tag'⟩ := b'
  obtain ⟨htop, hstack, htag⟩ := h
  refine ⟨htop, hstack, ?_⟩
  cases htag with
  | none => exact .none
  | some ht => exact .some (hchange ht)

theorem Paired.onChildren (h : Paired R P b b') {change change' : Forest Content → Forest Content}
    (hchange : ∀ {f f'}, Forest.Pairs R f f' → Forest.Pairs R (change f) (change' f')) :
    Paired R P (b.onChildren change) (b'.onChildren change') := by
  obtain ⟨top, stack, tag⟩ := b
  obtain ⟨top', stack', tag'⟩ := b'
  obtain ⟨htop, hstack, htag⟩ := h
  cases hstack with
  | nil => exact ⟨hchange htop, .nil, htag⟩
  | cons hinner houter => exact ⟨htop, .cons ⟨hinner.element, hchange hinner.children⟩ houter, htag⟩

theorem Paired.add (h : Paired R P b b') (hf : Forest.Pairs R f f') :
    Paired R P (b.add f) (b'.add f') :=
  h.onChildren fun hg => hg.append hf

theorem Paired.close (h : Paired R P b b') : Paired R P b.close b'.close := by
  obtain ⟨top, stack, tag⟩ := b
  obtain ⟨top', stack', tag'⟩ := b'
  obtain ⟨htop, hstack, htag⟩ := h
  cases hstack with
  | nil => exact ⟨htop, .nil, htag⟩
  | @cons inner inner' outer outer' hinner houter =>
    have hrest : Paired R P ⟨top, outer, tag⟩ ⟨top', outer', tag'⟩ := ⟨htop, houter, htag⟩
    exact hrest.add (.tree hinner.element hinner.children)

theorem Paired.closeMany (h : Paired R P b b') (n : Nat) :
    Paired R P (b.closeMany n) (b'.closeMany n) := by
  induction n generalizing b b' with
  | zero => exact h
  | succ n ih => exact ih h.close

theorem Paired.closeThrough (h : Paired R P b b') {tag tag' : String}
    (htag : ∀ e e', R (.element e) (.element e') → (e.tag == tag) = (e'.tag == tag')) :
    Paired R P (b.closeThrough tag) (b'.closeThrough tag') := by
  -- The same elements are open, as far as their tags go.
  have hdepth : b.stack.findIdx? (fun inner => inner.element.tag == tag) =
      b'.stack.findIdx? fun inner => inner.element.tag == tag' := by
    have hstack := h.stack
    generalize b.stack = stack at hstack
    generalize b'.stack = stack' at hstack
    induction hstack with
    | nil => rfl
    | cons hinner _ ih =>
      rw [List.findIdx?_cons, List.findIdx?_cons, htag _ _ hinner.element, ih]
  unfold Builder.closeThrough
  rw [hdepth]
  split
  · exact h.closeMany _
  · exact h

theorem Paired.completeTag (h : Paired R P b b') (selfClosing : Bool)
    (helement : ∀ {t t'}, P t t' →
      R (.element (t.settle "").element) (.element (t'.settle "").element))
    (hvoid : ∀ e e', R (.element e) (.element e') → e.isVoid = e'.isVoid) :
    Paired R P (b.completeTag selfClosing) (b'.completeTag selfClosing) := by
  obtain ⟨top, stack, tag⟩ := b
  obtain ⟨top', stack', tag'⟩ := b'
  obtain ⟨htop, hstack, htag⟩ := h
  cases htag with
  | none => exact ⟨htop, hstack, .none⟩
  | @some t t' ht =>
    have hread : Paired R P ⟨top, stack, none⟩ ⟨top', stack', none⟩ := ⟨htop, hstack, .none⟩
    unfold Builder.completeTag
    simp only [hvoid _ _ (helement ht)]
    split
    · exact hread.add (.tree (helement ht) .nil)
    · exact ⟨htop, .cons ⟨helement ht, .nil⟩ hstack, .none⟩

theorem Paired.finish (h : Paired R P b b') : Forest.Pairs R b.finish b'.finish := by
  unfold Builder.finish
  rw [← h.stack.length_eq]
  exact (h.closeMany _).top

end Builder

end Markup

end LiveMarkup
