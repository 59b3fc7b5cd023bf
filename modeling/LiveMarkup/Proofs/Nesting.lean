/-
What holds at every node.

A property of a node that looks at its label and at the trees below it, and at nothing
else, is kept by every change elsewhere.  `Forest.Every` says that such a property holds at
all nodes, and each operation on forests has one lemma here: it keeps the property if it
does so where it changes something.  What is known of every node is known of any node that
is found (`Every.below?`).
-/
import LiveMarkup.Proofs.Forest

namespace LiveMarkup.Forest

variable {α β : Type} {P Q : α → Forest α → Prop} {a : α} {f g kids : Forest α}

/-- At every node `P` holds of its label and the trees below it. -/
def Every (P : α → Forest α → Prop) : Forest α → Prop
  | nil => True
  | node a kids rest => P a kids ∧ Every P kids ∧ Every P rest

theorem every_append : (f ++ g).Every P ↔ f.Every P ∧ g.Every P := by
  induction f with
  | nil => simp [Every]
  | node b kids rest _ ih => simp only [node_append, Every, ih, and_assoc]

theorem every_tree : (tree a kids).Every P ↔ P a kids ∧ kids.Every P := by
  simp [tree, Every]

/-- It is enough to pass from one property to the other at the nodes that are there. -/
theorem Every.imp (h : f.Every P)
    (himp : ∀ b kids, b ∈ f.labels → kids.labels ⊆ f.labels → P b kids → Q b kids) :
    f.Every Q := by
  induction f with
  | nil => trivial
  | node b kids rest ihKids ihRest =>
    obtain ⟨hb, hkids, hrest⟩ := h
    have hsubKids : kids.labels ⊆ (node b kids rest).labels := fun c hc => by simp [labels, hc]
    have hsubRest : rest.labels ⊆ (node b kids rest).labels := fun c hc => by simp [labels, hc]
    refine ⟨himp b kids (by simp [labels]) hsubKids hb, ihKids hkids ?_, ihRest hrest ?_⟩
    · exact fun c inner hc hinner => himp c inner (hsubKids hc) (List.Subset.trans hinner hsubKids)
    · exact fun c inner hc hinner => himp c inner (hsubRest hc) (List.Subset.trans hinner hsubRest)

theorem Every.and (hP : f.Every P) (hQ : f.Every Q) :
    f.Every fun b kids => P b kids ∧ Q b kids := by
  induction f with
  | nil => trivial
  | node b kids rest ihKids ihRest =>
    exact ⟨⟨hP.1, hQ.1⟩, ihKids hP.2.1 hQ.2.1, ihRest hP.2.2 hQ.2.2⟩

/-- A property of labels holds at every node exactly when it holds of every label. -/
theorem every_label_iff {p : α → Prop} : (f.Every fun b _ => p b) ↔ ∀ b ∈ f.labels, p b := by
  induction f with
  | nil => simp [Every, labels]
  | node b kids rest ihKids ihRest =>
    simp only [Every, ihKids, ihRest, labels, List.mem_cons, List.mem_append]
    constructor
    · rintro ⟨hb, hkids, hrest⟩ c (rfl | hc | hc)
      · exact hb
      · exact hkids c hc
      · exact hrest c hc
    · intro h
      exact ⟨h b (Or.inl rfl), fun c hc => h c (Or.inr (Or.inl hc)),
        fun c hc => h c (Or.inr (Or.inr hc))⟩

theorem every_map {R : β → Forest β → Prop} (m : α → β) :
    (f.map m).Every R ↔ f.Every fun b kids => R (m b) (kids.map m) := by
  induction f with
  | nil => exact Iff.rfl
  | node b kids rest ihKids ihRest => simp only [map, Every, ihKids, ihRest]

theorem roots_map (m : α → β) (f : Forest α) : (f.map m).roots = f.roots.map m := by
  induction f with
  | nil => rfl
  | node b kids rest _ ih => simp [map, roots, ih]

/-- Roots are labels, in the same order. -/
theorem roots_sublist_labels (f : Forest α) : f.roots.Sublist f.labels := by
  induction f with
  | nil => exact List.Sublist.refl _
  | node b kids rest _ ih =>
    exact List.Sublist.cons_cons b (ih.trans (List.sublist_append_right _ _))

variable [DecidableEq α] {x : α} {new : Forest α}

/-- What holds at every node holds at the one that is found. -/
theorem Every.below? (h : f.Every P) (hk : f.below? a = some kids) : P a kids ∧ kids.Every P := by
  induction f with
  | nil => simp [Forest.below?] at hk
  | node b inner rest ihInner ihRest =>
    obtain ⟨hb, hinner, hrest⟩ := h
    by_cases hba : b = a
    · subst hba
      rw [below?_node_self, Option.some.injEq] at hk
      exact hk ▸ ⟨hb, hinner⟩
    · rw [below?_node_ne hba, Option.or_eq_some_iff] at hk
      rcases hk with hk | ⟨-, hk⟩
      · exact ihInner hinner hk
      · exact ihRest hrest hk

/-- A root that is taken out is missing among the roots; another node is not one of them. -/
theorem roots_prune (x : α) (f : Forest α) : (f.prune x).roots = f.roots.erase x := by
  induction f with
  | nil => rfl
  | node b kids rest _ ih =>
    by_cases hb : b = x
    · subst hb
      rw [prune_node_self]
      exact (List.erase_cons_head b rest.roots).symm
    · rw [prune_node_ne hb]
      show b :: (rest.prune x).roots = (b :: rest.roots).erase x
      rw [ih, List.erase_cons_tail (by simpa using hb)]

theorem roots_prune_subset (x : α) (f : Forest α) : (f.prune x).roots ⊆ f.roots := by
  rw [roots_prune]
  exact List.erase_subset

/-- Taking a node out keeps what holds at every node, if nothing that is said of a node is lost
when there is less below it. -/
theorem Every.prune (h : f.Every P) (x : α)
    (hP : ∀ b kids, P b kids → P b (kids.prune x)) : (f.prune x).Every P := by
  induction f with
  | nil => trivial
  | node b kids rest ihKids ihRest =>
    obtain ⟨hb, hkids, hrest⟩ := h
    by_cases hbx : b = x
    · subst hbx
      rw [prune_node_self]
      exact hrest
    · rw [prune_node_ne hbx]
      exact ⟨hP b kids hb, ihKids hkids, ihRest hrest⟩

/-- Putting trees below `x` keeps what holds at every node, if it holds in the new trees and
then of `x` as well. -/
theorem Every.graft (h : f.Every P) (hnew : new.Every P)
    (hx : ∀ kids, P x kids → P x (kids ++ new))
    (hP : ∀ b kids, P b kids → P b (kids.graft x new)) : (f.graft x new).Every P := by
  induction f with
  | nil => trivial
  | node b kids rest ihKids ihRest =>
    obtain ⟨hb, hkids, hrest⟩ := h
    by_cases hbx : b = x
    · subst hbx
      rw [graft_node_self]
      exact ⟨hx kids hb, every_append.2 ⟨hkids, hnew⟩, hrest⟩
    · rw [graft_node_ne hbx]
      exact ⟨hP b kids hb, ihKids hkids, ihRest hrest⟩

end LiveMarkup.Forest
