/-
Forests whose labels are distinct.

Everything a document does to its tree is one of three things: look below a node, take a
node out with all below it, put trees below a node.  With distinct labels each of them
touches one place, and this file says what is seen afterwards at every other place.

The facts come in two kinds.  Some say which labels are left (`labels_prune`,
`labels_graft`); the others say what is below a node of the changed forest
(`below?_prune`, `below?_graft`), or that two changes can be made in either order
(`graft_prune`).  Documents are reasoned about through these alone, and nothing after
this file opens the recursion again.
-/
import LiveMarkup.Forest
import Mathlib.Data.List.Nodup
import Mathlib.Data.List.Perm.Basic

namespace LiveMarkup.Forest

variable {α β : Type}

@[simp] theorem nil_append (g : Forest α) : nil ++ g = g := rfl

@[simp] theorem node_append (a : α) (kids rest g : Forest α) :
    node a kids rest ++ g = node a kids (rest ++ g) := rfl

@[simp] theorem append_empty (f : Forest α) : f ++ nil = f := append_nil f

theorem append_assoc (f g h : Forest α) : f ++ g ++ h = f ++ (g ++ h) := by
  induction f with
  | nil => rfl
  | node a kids rest _ ih => simp [ih]

theorem map_append (m : α → β) (f g : Forest α) : (f ++ g).map m = f.map m ++ g.map m := by
  induction f with
  | nil => rfl
  | node a kids rest _ ih => simp [map, ih]

theorem map_congr {m m' : α → β} {f : Forest α} (h : ∀ a ∈ f.labels, m a = m' a) :
    f.map m = f.map m' := by
  induction f with
  | nil => rfl
  | node a kids rest ihKids ihRest =>
    simp only [labels, List.mem_cons, List.mem_append] at h
    simp only [map, h a (Or.inl rfl), ihKids fun b hb => h b (Or.inr (Or.inl hb)),
      ihRest fun b hb => h b (Or.inr (Or.inr hb))]

theorem map_map {γ : Type} (m : α → β) (m' : β → γ) (f : Forest α) :
    (f.map m).map m' = f.map (m' ∘ m) := by
  induction f with
  | nil => rfl
  | node a kids rest ihKids ihRest => simp [map, ihKids, ihRest]

/-- The trees of a forest, each by itself. -/
def trees : Forest α → List (Forest α)
  | nil => []
  | node a kids rest => tree a kids :: trees rest

theorem trees_map (m : α → β) (f : Forest α) : (f.map m).trees = f.trees.map (Forest.map m) := by
  induction f with
  | nil => rfl
  | node a kids rest _ ih => simp [map, trees, tree, ih]

/-- Forests that read alike have, for every node of one, a node of the other. -/
theorem exists_mem_of_map_eq {γ : Type} {f : Forest α} {g : Forest β} {m : α → γ} {m' : β → γ}
    (h : f.map m = g.map m') {a : α} (ha : a ∈ f.labels) : ∃ b ∈ g.labels, m a = m' b := by
  have hlabels := congrArg labels h
  rw [labels_map, labels_map] at hlabels
  obtain ⟨b, hb, heq⟩ := List.mem_map.1 (hlabels ▸ List.mem_map_of_mem ha)
  exact ⟨b, hb, heq.symm⟩

theorem mem_labels_of_mem_roots {a : α} {f : Forest α} (h : a ∈ f.roots) : a ∈ f.labels := by
  induction f with
  | nil => simp [roots] at h
  | node b kids rest _ ih =>
    rcases List.mem_cons.1 h with rfl | h
    · simp [labels]
    · simp [labels, ih h]

/-! ### Distinct labels -/

/-- No label stands at two nodes. -/
def Distinct (f : Forest α) : Prop := f.labels.Nodup

theorem distinct_nil : Distinct (nil : Forest α) := List.nodup_nil

theorem distinct_node {a : α} {kids rest : Forest α} :
    Distinct (node a kids rest) ↔
      a ∉ kids.labels ∧ a ∉ rest.labels ∧ kids.Distinct ∧ rest.Distinct ∧
        ∀ b ∈ kids.labels, b ∉ rest.labels := by
  simp only [Distinct, labels, List.nodup_cons, List.mem_append, not_or, List.nodup_append]
  constructor
  · rintro ⟨⟨hk, hr⟩, hkn, hrn, hdis⟩
    exact ⟨hk, hr, hkn, hrn, fun b hb hb' => hdis b hb b hb' rfl⟩
  · rintro ⟨hk, hr, hkn, hrn, hdis⟩
    exact ⟨⟨hk, hr⟩, hkn, hrn, fun b hb c hc hbc => hdis b hb (hbc ▸ hc)⟩

theorem distinct_append {f g : Forest α} :
    Distinct (f ++ g) ↔ f.Distinct ∧ g.Distinct ∧ ∀ a ∈ f.labels, a ∉ g.labels := by
  simp only [Distinct, labels_append, List.nodup_append]
  constructor
  · rintro ⟨hf, hg, hdis⟩
    exact ⟨hf, hg, fun a ha ha' => hdis a ha a ha' rfl⟩
  · rintro ⟨hf, hg, hdis⟩
    exact ⟨hf, hg, fun a ha b hb hab => hdis a ha (hab ▸ hb)⟩

theorem distinct_tree {a : α} {kids : Forest α} :
    Distinct (tree a kids) ↔ a ∉ kids.labels ∧ kids.Distinct := by
  simp [tree, distinct_node, labels, distinct_nil]

variable [DecidableEq α] {a b x : α} {f g kids new rest : Forest α}

/-! ### Looking below a node -/

theorem below?_node_self (kids rest : Forest α) : (node a kids rest).below? a = some kids := by
  simp [below?]

theorem below?_node_ne (h : b ≠ a) (kids rest : Forest α) :
    (node b kids rest).below? a = (kids.below? a).or (rest.below? a) := by
  simp [below?, h]

theorem below?_eq_none_iff : f.below? a = none ↔ a ∉ f.labels := by
  rw [← isSome_below?, Option.not_isSome_iff_eq_none]

theorem mem_labels_of_below?_eq_some (h : f.below? a = some kids) : a ∈ f.labels :=
  (isSome_below? a f).1 (by rw [h]; rfl)

theorem exists_below? (h : a ∈ f.labels) : ∃ kids, f.below? a = some kids :=
  Option.isSome_iff_exists.1 ((isSome_below? a f).2 h)

theorem below?_append (a : α) (f g : Forest α) :
    (f ++ g).below? a = (f.below? a).or (g.below? a) := by
  induction f with
  | nil => simp [below?]
  | node b kids rest _ ih =>
    by_cases hb : b = a
    · simp [below?, hb]
    · simp [below?_node_ne hb, ih, Option.or_assoc]

/-- What is below a node has distinct labels, and the node is not among them. -/
theorem Distinct.below? (hf : f.Distinct) (h : f.below? a = some kids) :
    a ∉ kids.labels ∧ kids.Distinct := by
  induction f with
  | nil => simp [Forest.below?] at h
  | node b inner rest ihInner ihRest =>
    obtain ⟨hbInner, -, hInner, hRest, -⟩ := distinct_node.1 hf
    by_cases hb : b = a
    · subst hb
      rw [below?_node_self, Option.some.injEq] at h
      exact h ▸ ⟨hbInner, hInner⟩
    · rw [below?_node_ne hb, Option.or_eq_some_iff] at h
      rcases h with h | ⟨-, h⟩
      · exact ihInner hInner h
      · exact ihRest hRest h

/-! ### Nodes above a node -/

/-- Every node is a root or below one. -/
theorem exists_root_above (hf : f.Distinct) (ha : a ∈ f.labels) :
    ∃ r ∈ f.roots, ∃ kids, f.below? r = some kids ∧ (a = r ∨ a ∈ kids.labels) := by
  induction f with
  | nil => exact absurd ha List.not_mem_nil
  | node b inner rest _ ihRest =>
    obtain ⟨-, hbRest, -, hRest, hdis⟩ := distinct_node.1 hf
    simp only [labels, List.mem_cons, List.mem_append] at ha
    rcases ha with ha | ha | ha
    · exact ⟨b, by simp [roots], inner, below?_node_self .., Or.inl ha⟩
    · exact ⟨b, by simp [roots], inner, below?_node_self .., Or.inr ha⟩
    · obtain ⟨r, hr, kids, hkids, hmem⟩ := ihRest hRest ha
      have hrRest := mem_labels_of_mem_roots hr
      have hne : b ≠ r := fun hc => hbRest (hc ▸ hrRest)
      have hnone : inner.below? r = none := below?_eq_none_iff.2 fun hc => hdis r hc hrRest
      refine ⟨r, by simp [roots, hr], kids, ?_, hmem⟩
      rw [below?_node_ne hne, hnone, Option.none_or, hkids]

/-- The trees of a forest are what is found at its roots. -/
theorem map_below?_roots (hf : f.Distinct) :
    f.roots.map (fun r => (f.below? r).map (tree r)) = f.trees.map some := by
  induction f with
  | nil => rfl
  | node b inner rest _ ihRest =>
    obtain ⟨-, hbRest, -, hRest, hdis⟩ := distinct_node.1 hf
    have hrest : rest.roots.map (fun r => ((node b inner rest).below? r).map (tree r)) =
        rest.roots.map fun r => (rest.below? r).map (tree r) := by
      refine List.map_congr_left fun r hr => ?_
      have hrRest := mem_labels_of_mem_roots hr
      have hne : b ≠ r := fun hc => hbRest (hc ▸ hrRest)
      have hnone : inner.below? r = none := below?_eq_none_iff.2 fun hc => hdis r hc hrRest
      rw [below?_node_ne hne, hnone, Option.none_or]
    simp only [roots, trees, List.map_cons, below?_node_self, Option.map_some]
    rw [hrest, ihRest hRest]

/-- What is below a node that is below another. -/
theorem below?_of_below? (hf : f.Distinct) (h : f.below? x = some kids) (ha : a ∈ kids.labels) :
    f.below? a = kids.below? a := by
  induction f with
  | nil => simp [Forest.below?] at h
  | node b inner rest ihInner ihRest =>
    obtain ⟨hbInner, hbRest, hInner, hRest, hdis⟩ := distinct_node.1 hf
    obtain ⟨k, hk⟩ := exists_below? ha
    by_cases hb : b = x
    · subst hb
      rw [below?_node_self, Option.some.injEq] at h
      subst h
      have hne : b ≠ a := fun hc => hbInner (hc ▸ ha)
      rw [below?_node_ne hne, hk, Option.some_or]
    · rw [below?_node_ne hb, Option.or_eq_some_iff] at h
      rcases h with h | ⟨-, h⟩
      · have haInner := mem_labels_of_below? h ha
        have hne : b ≠ a := fun hc => hbInner (hc ▸ haInner)
        rw [below?_node_ne hne, ihInner hInner h, hk, Option.some_or]
      · have haRest := mem_labels_of_below? h ha
        have hne : b ≠ a := fun hc => hbRest (hc ▸ haRest)
        have hnone : inner.below? a = none := below?_eq_none_iff.2 fun hc => hdis a hc haRest
        rw [below?_node_ne hne, hnone, Option.none_or, ihRest hRest h]

theorem trail?_eq_none_iff : f.trail? a = none ↔ a ∉ f.labels := by
  induction f with
  | nil => simp [trail?, labels]
  | node b kids rest ihKids ihRest =>
    by_cases hb : b = a
    · simp [trail?, labels, hb]
    · have hne : ¬ a = b := fun h => hb h.symm
      simp [trail?, labels, hb, hne, ihKids, ihRest]

theorem mem_labels_of_mem_trail? {trail : List α} (h : f.trail? a = some trail)
    (hx : x ∈ trail) : x ∈ f.labels := by
  induction f generalizing trail with
  | nil => simp [trail?] at h
  | node b kids rest ihKids ihRest =>
    by_cases hb : b = a
    · simp only [trail?, hb, if_true, Option.some.injEq] at h
      subst h
      simp only [List.mem_singleton] at hx
      simp [labels, hb, hx]
    · simp only [trail?, hb, if_false, Option.or_eq_some_iff, Option.map_eq_some_iff] at h
      rcases h with ⟨inner, hinner, rfl⟩ | ⟨-, h⟩
      · rcases List.mem_append.1 hx with hx | hx
        · simp [labels, ihKids hinner hx]
        · simp [labels, List.mem_singleton.1 hx]
      · simp [labels, ihRest h hx]

/-- **A node is on the trail of another exactly when the other is the node itself or below
it.** -/
theorem mem_trail?_iff (hf : f.Distinct) {trail : List α} (h : f.trail? a = some trail) :
    x ∈ trail ↔ ∃ kids, f.below? x = some kids ∧ (a = x ∨ a ∈ kids.labels) := by
  induction f generalizing trail with
  | nil => simp [trail?] at h
  | node b kids rest ihKids ihRest =>
    obtain ⟨hbKids, hbRest, hKids, hRest, hdis⟩ := distinct_node.1 hf
    by_cases hxb : b = x
    · -- The root of the first tree has exactly that tree below it.
      subst hxb
      rw [below?_node_self]
      simp only [Option.some.injEq, exists_eq_left']
      by_cases hb : b = a
      · simp only [trail?, hb, if_true, Option.some.injEq] at h
        simp [← h, hb]
      · simp only [trail?, hb, if_false, Option.or_eq_some_iff, Option.map_eq_some_iff] at h
        rcases h with ⟨inner, hinner, rfl⟩ | ⟨hnone, h⟩
        · have ha : a ∈ kids.labels := by
            by_contra hc
            rw [trail?_eq_none_iff.2 hc] at hinner
            simp at hinner
          simp [ha]
        · have ha : a ∉ kids.labels := by simpa [trail?_eq_none_iff] using hnone
          have hab : ¬ a = b := fun hc => hb hc.symm
          simp only [hab, ha, or_self, iff_false]
          exact fun hc => hbRest (mem_labels_of_mem_trail? h hc)
    · rw [below?_node_ne hxb]
      have hne : ¬ x = b := fun hc => hxb hc.symm
      by_cases hb : b = a
      · simp only [trail?, hb, if_true, Option.some.injEq] at h
        subst hb
        subst h
        simp only [List.mem_singleton, hne, false_iff, not_exists, not_and, not_or]
        intro inner hinner
        refine ⟨fun hc => hxb hc, fun hmem => ?_⟩
        rcases Option.or_eq_some_iff.1 hinner with hinner | ⟨-, hinner⟩
        · exact hbKids (mem_labels_of_below? hinner hmem)
        · exact hbRest (mem_labels_of_below? hinner hmem)
      · simp only [trail?, hb, if_false, Option.or_eq_some_iff, Option.map_eq_some_iff] at h
        rcases h with ⟨inner, hinner, rfl⟩ | ⟨hnone, h⟩
        · have ha : a ∈ kids.labels := by
            by_contra hc
            rw [trail?_eq_none_iff.2 hc] at hinner
            simp at hinner
          have hrest : ∀ k, rest.below? x = some k → ¬ (a = x ∨ a ∈ k.labels) := by
            rintro k hk (rfl | hmem)
            · exact hdis a ha (mem_labels_of_below?_eq_some hk)
            · exact hdis a ha (mem_labels_of_below? hk hmem)
          rw [List.mem_append, List.mem_singleton, ihKids hKids hinner]
          simp only [hne, or_false, Option.or_eq_some_iff]
          constructor
          · rintro ⟨k, hk, hak⟩
            exact ⟨k, Or.inl hk, hak⟩
          · rintro ⟨k, hk | ⟨-, hk⟩, hak⟩
            · exact ⟨k, hk, hak⟩
            · exact absurd hak (hrest k hk)
        · have ha : a ∉ kids.labels := by simpa [trail?_eq_none_iff] using hnone
          have haRest : a ∈ rest.labels := by
            by_contra hc
            rw [trail?_eq_none_iff.2 hc] at h
            simp at h
          rw [ihRest hRest h]
          simp only [Option.or_eq_some_iff, below?_eq_none_iff]
          constructor
          · rintro ⟨k, hk, hak⟩
            have hxKids : x ∉ kids.labels := fun hc =>
              hdis x hc (mem_labels_of_below?_eq_some hk)
            exact ⟨k, Or.inr ⟨hxKids, hk⟩, hak⟩
          · rintro ⟨k, hk | ⟨-, hk⟩, hak⟩
            · refine absurd ?_ ha
              rcases hak with rfl | hak
              · exact mem_labels_of_below?_eq_some hk
              · exact mem_labels_of_below? hk hak
            · exact ⟨k, hk, hak⟩

/-! ### Taking a node out -/

theorem prune_node_self (kids rest : Forest α) : (node a kids rest).prune a = rest := by
  simp [prune]

theorem prune_node_ne (h : b ≠ a) (kids rest : Forest α) :
    (node b kids rest).prune a = node b (kids.prune a) (rest.prune a) := by
  simp [prune, h]

theorem labels_prune_sublist (a : α) (f : Forest α) : (f.prune a).labels.Sublist f.labels := by
  induction f with
  | nil => exact List.Sublist.refl _
  | node b kids rest ihKids ihRest =>
    by_cases hb : b = a
    · subst hb
      rw [prune_node_self]
      exact (List.sublist_append_right _ _).cons _
    · rw [prune_node_ne hb]
      exact (ihKids.append ihRest).cons_cons b

theorem Distinct.prune (h : f.Distinct) (a : α) : (f.prune a).Distinct :=
  List.Nodup.sublist (labels_prune_sublist a f) h

theorem prune_append_left (h : a ∉ g.labels) (f : Forest α) :
    (f ++ g).prune a = f.prune a ++ g := by
  induction f with
  | nil => exact prune_of_not_mem h
  | node b kids rest _ ih =>
    by_cases hb : b = a
    · simp [prune, hb]
    · simp [prune_node_ne hb, ih]

theorem prune_append_right (h : a ∉ f.labels) (g : Forest α) :
    (f ++ g).prune a = f ++ g.prune a := by
  induction f with
  | nil => rfl
  | node b kids rest _ ih =>
    simp only [labels, List.mem_cons, List.mem_append, not_or] at h
    have hb : ¬ b = a := fun hb => h.1 hb.symm
    simp [prune_node_ne hb, ih h.2.2, prune_of_not_mem h.2.1]

/-- **What is taken out are the node and the nodes below it.** -/
theorem labels_prune (hf : f.Distinct) (h : f.below? a = some kids) :
    f.labels.Perm ((f.prune a).labels ++ a :: kids.labels) := by
  induction f with
  | nil => simp [below?] at h
  | node b inner rest ihInner ihRest =>
    obtain ⟨-, -, hInner, hRest, hdis⟩ := distinct_node.1 hf
    by_cases hb : b = a
    · subst hb
      rw [below?_node_self, Option.some.injEq] at h
      subst h
      rw [prune_node_self]
      have hswap : (inner.labels ++ rest.labels).Perm (rest.labels ++ inner.labels) :=
        List.perm_append_comm
      exact (hswap.cons b).trans List.perm_middle.symm
    · rw [below?_node_ne hb, Option.or_eq_some_iff] at h
      rw [prune_node_ne hb]
      simp only [labels, List.cons_append]
      refine List.Perm.cons b ?_
      rcases h with h | ⟨-, h⟩
      · have hrest : rest.prune a = rest :=
          prune_of_not_mem (hdis a (mem_labels_of_below?_eq_some h))
        rw [hrest]
        have hmove : ((inner.prune a).labels ++ a :: kids.labels ++ rest.labels).Perm
            ((inner.prune a).labels ++ rest.labels ++ a :: kids.labels) := by
          rw [List.append_assoc, List.append_assoc]
          exact List.Perm.append_left _ List.perm_append_comm
        exact ((ihInner hInner h).append_right rest.labels).trans hmove
      · have hinner : inner.prune a = inner :=
          prune_of_not_mem fun hc => hdis a hc (mem_labels_of_below?_eq_some h)
        rw [hinner, List.append_assoc]
        exact (ihRest hRest h).append_left inner.labels

theorem mem_labels_prune (hf : f.Distinct) (h : f.below? a = some kids) :
    x ∈ (f.prune a).labels ↔ x ∈ f.labels ∧ x ≠ a ∧ x ∉ kids.labels := by
  have hperm := labels_prune hf h
  have hnodup : ((f.prune a).labels ++ a :: kids.labels).Nodup := hperm.nodup_iff.1 hf
  rw [List.nodup_append] at hnodup
  rw [hperm.mem_iff, List.mem_append, List.mem_cons]
  constructor
  · intro hx
    exact ⟨Or.inl hx, fun hc => hnodup.2.2 x hx a (by simp) hc,
      fun hc => hnodup.2.2 x hx x (by simp [hc]) rfl⟩
  · rintro ⟨hx | hx | hx, hne, hk⟩
    · exact hx
    · exact absurd hx hne
    · exact absurd hx hk

theorem not_mem_labels_prune (hf : f.Distinct) (a : α) : a ∉ (f.prune a).labels := by
  by_cases h : a ∈ f.labels
  · obtain ⟨kids, hk⟩ := exists_below? h
    rw [mem_labels_prune hf hk]
    exact fun hc => hc.2.1 rfl
  · rwa [prune_of_not_mem h]

/-- Taking out a node that is not above `x` leaves everything above `x`. -/
theorem trail?_prune {trail : List α} (h : f.trail? x = some trail) (ha : a ∉ trail) :
    (f.prune a).trail? x = some trail := by
  induction f generalizing trail with
  | nil => cases h
  | node b kids rest ihKids ihRest =>
    by_cases hb : b = x
    · simp only [trail?, hb, if_true, Option.some.injEq] at h
      subst h
      have hne : b ≠ a := fun hc => ha (by simp [← hc, hb])
      rw [prune_node_ne hne]
      simp [trail?, hb]
    · simp only [trail?, hb, if_false, Option.or_eq_some_iff, Option.map_eq_some_iff] at h
      rcases h with ⟨inner, hinner, rfl⟩ | ⟨hnone, h⟩
      · rw [List.mem_append, List.mem_singleton, not_or] at ha
        have hne : b ≠ a := fun hc => ha.2 hc.symm
        simp [prune_node_ne hne, trail?, hb, ihKids hinner ha.1]
      · by_cases hba : b = a
        · subst hba
          rw [prune_node_self]
          exact h
        · have hkids : (kids.prune a).trail? x = none := by
            rw [Option.map_eq_none_iff, trail?_eq_none_iff] at hnone
            exact trail?_eq_none_iff.2 fun hc => hnone ((labels_prune_sublist a kids).subset hc)
          simp [prune_node_ne hba, trail?, hb, hkids, ihRest h ha]

/-- What is below a node that stays, after another was taken out. -/
theorem below?_prune (hf : f.Distinct) (hx : x ∈ (f.prune a).labels) :
    (f.prune a).below? x = (f.below? x).map (Forest.prune a) := by
  induction f with
  | nil => simp [prune, labels] at hx
  | node b inner rest ihInner ihRest =>
    obtain ⟨hbInner, hbRest, hInner, hRest, hdis⟩ := distinct_node.1 hf
    by_cases hb : b = a
    · subst hb
      rw [prune_node_self] at hx ⊢
      have hne : b ≠ x := fun hc => hbRest (hc ▸ hx)
      have hnone : inner.below? x = none :=
        below?_eq_none_iff.2 fun hc => hdis x hc hx
      rw [below?_node_ne hne, hnone, Option.none_or]
      obtain ⟨kids, hk⟩ := exists_below? hx
      rw [hk, Option.map_some, prune_of_not_mem]
      exact fun hc => hbRest (mem_labels_of_below? hk hc)
    · rw [prune_node_ne hb] at hx ⊢
      by_cases hxb : b = x
      · subst hxb
        simp [below?_node_self]
      · simp only [labels, List.mem_cons, List.mem_append] at hx
        rw [below?_node_ne hxb, below?_node_ne hxb]
        rcases hx with hx | hx | hx
        · exact absurd hx.symm hxb
        · rw [ihInner hInner hx]
          have hx' : x ∈ inner.labels := (labels_prune_sublist a inner).subset hx
          obtain ⟨kids, hk⟩ := exists_below? hx'
          simp [hk]
        · have hx' : x ∈ rest.labels := (labels_prune_sublist a rest).subset hx
          have hnone : inner.below? x = none :=
            below?_eq_none_iff.2 fun hc => hdis x hc hx'
          have hnone' : (inner.prune a).below? x = none :=
            below?_eq_none_iff.2 fun hc => hdis x ((labels_prune_sublist a inner).subset hc) hx'
          rw [hnone, hnone', Option.none_or, Option.none_or, ihRest hRest hx]

/-- Taking out a node makes it needless to take out what is below it first. -/
theorem prune_prune_of_below (hf : f.Distinct) (h : f.below? x = some kids)
    (ha : a ∈ kids.labels) : (f.prune a).prune x = f.prune x := by
  induction f with
  | nil => simp [below?] at h
  | node b inner rest ihInner ihRest =>
    obtain ⟨hbInner, hbRest, hInner, hRest, hdis⟩ := distinct_node.1 hf
    have haf : a ∈ inner.labels ∨ a ∈ rest.labels := by
      by_cases hb : b = x
      · subst hb
        rw [below?_node_self, Option.some.injEq] at h
        exact Or.inl (h ▸ ha)
      · rw [below?_node_ne hb, Option.or_eq_some_iff] at h
        rcases h with h | ⟨-, h⟩
        · exact Or.inl (mem_labels_of_below? h ha)
        · exact Or.inr (mem_labels_of_below? h ha)
    have hba : b ≠ a := by
      rintro rfl
      exact haf.elim hbInner hbRest
    rw [prune_node_ne hba]
    by_cases hb : b = x
    · subst hb
      rw [below?_node_self, Option.some.injEq] at h
      rw [prune_node_self, prune_node_self]
      exact prune_of_not_mem (hdis a (h ▸ ha))
    · rw [below?_node_ne hb, Option.or_eq_some_iff] at h
      rw [prune_node_ne hb, prune_node_ne hb]
      rcases h with h | ⟨hnone, h⟩
      · have haInner := mem_labels_of_below? h ha
        rw [ihInner hInner h, prune_of_not_mem (hdis a haInner)]
      · have haRest := mem_labels_of_below? h ha
        rw [ihRest hRest h, prune_of_not_mem fun hc => hdis a hc haRest]

/-! ### Putting trees below a node -/

theorem graft_node_self (kids rest new : Forest α) :
    (node a kids rest).graft a new = node a (kids ++ new) rest := by
  simp [graft]

theorem graft_node_ne (h : b ≠ a) (kids rest new : Forest α) :
    (node b kids rest).graft a new = node b (kids.graft a new) (rest.graft a new) := by
  simp [graft, h]

theorem graft_of_not_mem (h : a ∉ f.labels) (new : Forest α) : f.graft a new = f := by
  induction f with
  | nil => rfl
  | node b kids rest ihKids ihRest =>
    simp only [labels, List.mem_cons, List.mem_append, not_or] at h
    have hb : b ≠ a := fun hb => h.1 hb.symm
    rw [graft_node_ne hb, ihKids h.2.1, ihRest h.2.2]

@[simp] theorem graft_nil (f : Forest α) (a : α) : f.graft a nil = f := by
  induction f with
  | nil => rfl
  | node b kids rest ihKids ihRest => simp [graft, ihKids, ihRest]

/-- Trees put below the same node stand one after the other. -/
theorem graft_graft (f : Forest α) (a : α) (new new' : Forest α) :
    (f.graft a new).graft a new' = f.graft a (new ++ new') := by
  induction f with
  | nil => rfl
  | node b kids rest ihKids ihRest =>
    by_cases hb : b = a
    · subst hb
      simp only [graft_node_self, append_assoc]
    · simp only [graft_node_ne hb, ihKids, ihRest]

@[simp] theorem roots_graft (f : Forest α) (a : α) (new : Forest α) :
    (f.graft a new).roots = f.roots := by
  induction f with
  | nil => rfl
  | node b kids rest _ ih =>
    by_cases hb : b = a
    · simp [graft, hb, roots]
    · simp [graft_node_ne hb, roots, ih]

/-- **What comes in are the labels of the new trees.** -/
theorem labels_graft (hf : f.Distinct) (h : a ∈ f.labels) (new : Forest α) :
    (f.graft a new).labels.Perm (f.labels ++ new.labels) := by
  induction f with
  | nil => simp [labels] at h
  | node b kids rest ihKids ihRest =>
    obtain ⟨-, -, hKids, hRest, hdis⟩ := distinct_node.1 hf
    by_cases hb : b = a
    · subst hb
      rw [graft_node_self]
      simp only [labels, labels_append, List.cons_append, List.append_assoc]
      exact (List.Perm.append_left _ List.perm_append_comm).cons b
    · simp only [labels, List.mem_cons, List.mem_append] at h
      rw [graft_node_ne hb]
      simp only [labels, List.cons_append]
      refine List.Perm.cons b ?_
      rcases h with h | h | h
      · exact absurd h.symm hb
      · rw [graft_of_not_mem (hdis a h)]
        have hmove : (kids.labels ++ new.labels ++ rest.labels).Perm
            (kids.labels ++ rest.labels ++ new.labels) := by
          rw [List.append_assoc, List.append_assoc]
          exact List.Perm.append_left _ List.perm_append_comm
        exact ((ihKids hKids h).append_right rest.labels).trans hmove
      · rw [graft_of_not_mem fun hc => hdis a hc h, List.append_assoc]
        exact (ihRest hRest h).append_left kids.labels

theorem Distinct.graft (hf : f.Distinct) (hnew : new.Distinct)
    (hdis : ∀ b ∈ f.labels, b ∉ new.labels) (a : α) : (f.graft a new).Distinct := by
  by_cases h : a ∈ f.labels
  · refine (labels_graft hf h new).nodup_iff.2 ?_
    rw [← labels_append]
    exact distinct_append.2 ⟨hf, hnew, hdis⟩
  · rwa [graft_of_not_mem h]

theorem mem_labels_graft (hf : f.Distinct) (h : a ∈ f.labels) :
    x ∈ (f.graft a new).labels ↔ x ∈ f.labels ∨ x ∈ new.labels := by
  rw [(labels_graft hf h new).mem_iff, List.mem_append]

/-- What is below a node that was there, after trees were put below some node. -/
theorem below?_graft (hf : f.Distinct) (hx : x ∈ f.labels) (hnew : x ∉ new.labels) (a : α) :
    (f.graft a new).below? x =
      (f.below? x).map fun kids => if x = a then kids ++ new else kids.graft a new := by
  induction f with
  | nil => simp [labels] at hx
  | node b kids rest ihKids ihRest =>
    obtain ⟨hbKids, hbRest, hKids, hRest, hdis⟩ := distinct_node.1 hf
    by_cases hxb : b = x
    · subst hxb
      by_cases hb : b = a
      · subst hb
        simp [graft_node_self, below?_node_self]
      · simp [graft_node_ne hb, below?_node_self, hb]
    · simp only [labels, List.mem_cons, List.mem_append] at hx
      have hx' : x ∈ kids.labels ∨ x ∈ rest.labels := hx.resolve_left fun hc => hxb hc.symm
      by_cases hb : b = a
      · -- The new trees go below the first root, where `x` is not.
        subst hb
        have hxa : ¬ x = b := fun hc => hxb hc.symm
        have hkeep : ∀ k : Forest α, (node b kids rest).below? x = some k → k.graft b new = k := by
          intro k hk
          rw [below?_node_ne hxb, Option.or_eq_some_iff] at hk
          refine graft_of_not_mem (fun hc => ?_) new
          rcases hk with hk | ⟨-, hk⟩
          · exact hbKids (mem_labels_of_below? hk hc)
          · exact hbRest (mem_labels_of_below? hk hc)
        have hsame : ((node b kids rest).graft b new).below? x = (node b kids rest).below? x := by
          rw [graft_node_self, below?_node_ne hxb, below?_node_ne hxb, below?_append,
            below?_eq_none_iff.2 hnew, Option.or_none]
        rw [hsame]
        cases hk : (node b kids rest).below? x with
        | none => rfl
        | some k => simp [hxa, hkeep k hk]
      · rw [graft_node_ne hb, below?_node_ne hxb, below?_node_ne hxb]
        rcases hx' with hx' | hx'
        · rw [ihKids hKids hx']
          obtain ⟨k, hk⟩ := exists_below? hx'
          simp [hk]
        · have hxKids : x ∉ kids.labels := fun hc => hdis x hc hx'
          have hxGraft : x ∉ (kids.graft a new).labels := by
            by_cases ha : a ∈ kids.labels
            · rw [mem_labels_graft hKids ha]
              exact fun hc => hc.elim hxKids hnew
            · rwa [graft_of_not_mem ha]
          rw [below?_eq_none_iff.2 hxKids, below?_eq_none_iff.2 hxGraft, Option.none_or,
            Option.none_or, ihRest hRest hx']

/-- New trees below `a` are not above it. -/
theorem trail?_graft (f : Forest α) (a : α) (new : Forest α) :
    (f.graft a new).trail? a = f.trail? a := by
  induction f with
  | nil => rfl
  | node b kids rest ihKids ihRest =>
    by_cases hb : b = a
    · subst hb
      rw [graft_node_self]
      simp [trail?]
    · rw [graft_node_ne hb]
      simp [trail?, hb, ihKids, ihRest]

/-- What is below a node of the new trees stays below it. -/
theorem below?_graft_of_mem_new (hf : f.Distinct) (ha : a ∈ f.labels) (hx : x ∉ f.labels) :
    (f.graft a new).below? x = new.below? x := by
  induction f with
  | nil => simp [labels] at ha
  | node b kids rest ihKids ihRest =>
    obtain ⟨-, -, hKids, hRest, hdis⟩ := distinct_node.1 hf
    simp only [labels, List.mem_cons, List.mem_append, not_or] at hx
    obtain ⟨hxb, hxKids, hxRest⟩ := hx
    have hne : b ≠ x := fun hc => hxb hc.symm
    by_cases hb : b = a
    · subst hb
      rw [graft_node_self, below?_node_ne hne, below?_append, below?_eq_none_iff.2 hxKids,
        below?_eq_none_iff.2 hxRest, Option.none_or, Option.or_none]
    · simp only [labels, List.mem_cons, List.mem_append] at ha
      rw [graft_node_ne hb, below?_node_ne hne]
      rcases ha.resolve_left fun hc => hb hc.symm with ha | ha
      · rw [graft_of_not_mem (hdis a ha), below?_eq_none_iff.2 hxRest, Option.or_none,
          ihKids hKids ha hxKids]
      · rw [graft_of_not_mem fun hc => hdis a hc ha, below?_eq_none_iff.2 hxKids, Option.none_or,
          ihRest hRest ha hxRest]

/-- Taking a node out and putting trees elsewhere can be done in either order. -/
theorem graft_prune (hf : f.Distinct) (hx : x ∉ new.labels) (a : α) :
    (f.graft a new).prune x = (f.prune x).graft a new := by
  induction f with
  | nil => rfl
  | node b kids rest ihKids ihRest =>
    obtain ⟨hbKids, hbRest, hKids, hRest, hdis⟩ := distinct_node.1 hf
    by_cases hxb : b = x
    · subst hxb
      rw [prune_node_self]
      by_cases hb : b = a
      · subst hb
        rw [graft_node_self, prune_node_self, graft_of_not_mem hbRest]
      · rw [graft_node_ne hb, prune_node_self]
    · rw [prune_node_ne hxb]
      by_cases hb : b = a
      · subst hb
        rw [graft_node_self, graft_node_self, prune_node_ne hxb, prune_append_left hx]
      · rw [graft_node_ne hb, graft_node_ne hb, prune_node_ne hxb, ihKids hKids, ihRest hRest]

end LiveMarkup.Forest
