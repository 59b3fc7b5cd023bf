/-
Parents and children.

Where a node is, is asked in two ways: from above, by the children of a node, and from below,
by its parent.  Both are read off the same forest, and as no node is in it twice they agree
(`parent?_eq_some_iff`), and whoever goes from parent to parent comes to an end.

What the forest alone cannot say is which nodes have anything below them.  That is a matter
of the operations: only elements, fragments and shadow roots get children, and a fragment
never becomes one, since its children are moved in its place.  `Housed` says this of every
node, and each operation keeps it, an append that stops half way included.
-/
import LiveMarkup.Proofs.Document.Operations
import LiveMarkup.Proofs.Markup.Building
import LiveMarkup.Proofs.Nesting
import Mathlib.Logic.Relation

namespace LiveMarkup

namespace Forest

variable {α : Type} [DecidableEq α] {f kids rest : Forest α} {a b x : α}

/-! ### Right above a node -/

/-- The node labelled `x` is right above the node labelled `a`. -/
def Over (f : Forest α) (x a : α) : Prop := ∃ kids, f.below? x = some kids ∧ a ∈ kids.roots

theorem Over.mem_labels (h : f.Over x a) : x ∈ f.labels ∧ a ∈ f.labels := by
  obtain ⟨kids, hkids, ha⟩ := h
  exact ⟨mem_labels_of_below?_eq_some hkids,
    mem_labels_of_below? hkids (mem_labels_of_mem_roots ha)⟩

theorem over_node (hf : (node b kids rest).Distinct) :
    (node b kids rest).Over x a ↔
      x = b ∧ a ∈ kids.roots ∨ kids.Over x a ∨ rest.Over x a := by
  obtain ⟨hbKids, hbRest, -, -, hdis⟩ := distinct_node.1 hf
  by_cases hb : b = x
  · subst hb
    have hkids : ¬ kids.Over b a := fun h => hbKids h.mem_labels.1
    have hrest : ¬ rest.Over b a := fun h => hbRest h.mem_labels.1
    simp only [hkids, hrest, or_false, true_and]
    unfold Over
    rw [below?_node_self]
    simp
  · have hne : ¬ x = b := fun hc => hb hc.symm
    simp only [hne, false_and, false_or]
    unfold Over
    rw [below?_node_ne hb]
    constructor
    · rintro ⟨k, hk, ha⟩
      rcases Option.or_eq_some_iff.1 hk with hk | ⟨-, hk⟩
      · exact Or.inl ⟨k, hk, ha⟩
      · exact Or.inr ⟨k, hk, ha⟩
    · rintro (⟨k, hk, ha⟩ | ⟨k, hk, ha⟩)
      · exact ⟨k, by rw [hk, Option.some_or], ha⟩
      · have hnone : kids.below? x = none := below?_eq_none_iff.2 fun hc =>
          hdis x hc (mem_labels_of_below?_eq_some hk)
        exact ⟨k, by rw [hnone, Option.none_or, hk], ha⟩

/-- The first node of a trail is the node itself. -/
theorem exists_trail? (h : a ∈ f.labels) : ∃ above, f.trail? a = some (a :: above) := by
  induction f with
  | nil => exact absurd h List.not_mem_nil
  | node b kids rest ihKids ihRest =>
    by_cases hb : b = a
    · exact ⟨[], by simp [trail?, hb]⟩
    · simp only [labels, List.mem_cons, List.mem_append] at h
      by_cases hkids : a ∈ kids.labels
      · obtain ⟨above, habove⟩ := ihKids hkids
        exact ⟨above ++ [b], by simp [trail?, hb, habove]⟩
      · have hrest : a ∈ rest.labels :=
          (h.resolve_left fun hc => hb hc.symm).resolve_left hkids
        obtain ⟨above, habove⟩ := ihRest hrest
        exact ⟨above, by simp [trail?, hb, trail?_eq_none_iff.2 hkids, habove]⟩

/-- How the trail to a node runs through the first tree of a forest, or past it. -/
theorem trail?_node {above : List α}
    (h : (node b kids rest).trail? a = some (a :: above)) :
    a = b ∧ above = [] ∨
      (∃ inner, kids.trail? a = some (a :: inner) ∧ above = inner ++ [b]) ∨
      a ∉ kids.labels ∧ a ≠ b ∧ rest.trail? a = some (a :: above) := by
  by_cases hb : b = a
  · simp only [trail?, hb, if_true, Option.some.injEq, List.cons.injEq, true_and] at h
    exact Or.inl ⟨hb.symm, h.symm⟩
  · simp only [trail?, hb, if_false, Option.or_eq_some_iff, Option.map_eq_some_iff,
      Option.map_eq_none_iff] at h
    rcases h with ⟨trail, htrail, heq⟩ | ⟨hnone, h⟩
    · have ha : a ∈ kids.labels := by
        by_contra hc
        rw [trail?_eq_none_iff.2 hc] at htrail
        cases htrail
      obtain ⟨inner, hinner⟩ := exists_trail? ha
      rw [htrail, Option.some.injEq] at hinner
      subst hinner
      exact Or.inr (Or.inl ⟨inner, htrail, (List.cons.inj heq).2.symm⟩)
    · exact Or.inr (Or.inr ⟨trail?_eq_none_iff.1 hnone, fun hc => hb hc.symm, h⟩)

/-- Nothing is above the roots, and something is above every other node. -/
theorem above_eq_nil_iff (hf : f.Distinct) {above : List α}
    (h : f.trail? a = some (a :: above)) : above = [] ↔ a ∈ f.roots := by
  induction f generalizing above with
  | nil => cases h
  | node b kids rest _ ihRest =>
    obtain ⟨-, -, -, hRest, hdis⟩ := distinct_node.1 hf
    rcases trail?_node h with ⟨rfl, rfl⟩ | ⟨inner, hinner, rfl⟩ | ⟨-, hne, hrest⟩
    · simp [roots]
    · have ha : a ∈ kids.labels := mem_labels_of_mem_trail? hinner List.mem_cons_self
      have hb : a ≠ b := fun hc => (distinct_node.1 hf).1 (hc ▸ ha)
      have hout : a ∉ rest.roots := fun hc => hdis a ha (mem_labels_of_mem_roots hc)
      simp [roots, hb, hout]
    · rw [ihRest hRest hrest, roots, List.mem_cons]
      simp [hne]

/-- **The second node of a trail is the one right above the first.** -/
theorem head?_above_iff (hf : f.Distinct) {above : List α}
    (h : f.trail? a = some (a :: above)) : above.head? = some x ↔ f.Over x a := by
  induction f generalizing above with
  | nil => cases h
  | node b kids rest ihKids ihRest =>
    obtain ⟨hbKids, hbRest, hKids, hRest, hdis⟩ := distinct_node.1 hf
    rw [over_node hf]
    rcases trail?_node h with ⟨rfl, rfl⟩ | ⟨inner, hinner, rfl⟩ | ⟨hout, -, hrest⟩
    · have hroots : a ∉ kids.roots := fun hc => hbKids (mem_labels_of_mem_roots hc)
      have hkids : ¬ kids.Over x a := fun hc => hbKids hc.mem_labels.2
      have hrest : ¬ rest.Over x a := fun hc => hbRest hc.mem_labels.2
      simp [hroots, hkids, hrest]
    · have ha : a ∈ kids.labels := mem_labels_of_mem_trail? hinner List.mem_cons_self
      have hrest : ¬ rest.Over x a := fun hc => hdis a ha hc.mem_labels.2
      rw [List.head?_append, Option.or_eq_some_iff, ihKids hKids hinner, List.head?_eq_none_iff,
        above_eq_nil_iff hKids hinner]
      simp only [List.head?_cons, Option.some.injEq, hrest, or_false]
      constructor
      · rintro (hover | ⟨hroot, rfl⟩)
        · exact Or.inr hover
        · exact Or.inl ⟨rfl, hroot⟩
      · rintro (⟨rfl, hroot⟩ | hover)
        · exact Or.inr ⟨hroot, rfl⟩
        · exact Or.inl hover
    · have hroots : a ∉ kids.roots := fun hc => hout (mem_labels_of_mem_roots hc)
      have hkids : ¬ kids.Over x a := fun hc => hout hc.mem_labels.2
      rw [ihRest hRest hrest]
      simp [hroots, hkids]

/-- The trail to a node is one node longer than the trail to the node right above it. -/
theorem trail?_above (hf : f.Distinct) {above : List α}
    (h : f.trail? a = some (a :: x :: above)) : f.trail? x = some (x :: above) := by
  induction f generalizing above with
  | nil => cases h
  | node b kids rest ihKids ihRest =>
    obtain ⟨hbKids, hbRest, hKids, hRest, hdis⟩ := distinct_node.1 hf
    rcases trail?_node h with ⟨-, hnil⟩ | ⟨inner, hinner, heq⟩ | ⟨-, -, hrest⟩
    · cases hnil
    · cases inner with
      | nil =>
        cases heq
        simp [trail?]
      | cons y inner =>
        cases heq
        have hx : x ∈ kids.labels :=
          mem_labels_of_mem_trail? hinner (List.mem_cons_of_mem _ List.mem_cons_self)
        have hb : ¬ b = x := fun hc => hbKids (hc ▸ hx)
        simp [trail?, hb, ihKids hKids hinner]
    · have hx : x ∈ rest.labels :=
        mem_labels_of_mem_trail? hrest (List.mem_cons_of_mem _ List.mem_cons_self)
      have hb : ¬ b = x := fun hc => hbRest (hc ▸ hx)
      have hnone : kids.trail? x = none := trail?_eq_none_iff.2 fun hc => hdis x hc hx
      simp [trail?, hb, hnone, ihRest hRest hrest]

/-! ### The way up ends -/

theorem size_lt_of_below? (h : f.below? a = some kids) : kids.size < f.size := by
  induction f with
  | nil => cases h
  | node b inner rest ihInner ihRest =>
    by_cases hb : b = a
    · subst hb
      rw [below?_node_self, Option.some.injEq] at h
      subst h
      simp only [size]
      omega
    · rw [below?_node_ne hb, Option.or_eq_some_iff] at h
      simp only [size]
      rcases h with h | ⟨-, h⟩
      · have hlt := ihInner h
        omega
      · have hlt := ihRest h
        omega

/-- How many nodes are below a node. -/
def sizeBelow (f : Forest α) (a : α) : Nat := ((f.below? a).map size).getD 0

/-- Fewer nodes are below a node than below the one right above it. -/
theorem Over.sizeBelow_lt (hf : f.Distinct) (h : f.Over x a) : f.sizeBelow a < f.sizeBelow x := by
  obtain ⟨kids, hkids, ha⟩ := h
  have hlabel := mem_labels_of_mem_roots ha
  obtain ⟨inner, hinner⟩ := exists_below? hlabel
  have hsame : f.below? a = some inner := by rw [below?_of_below? hf hkids hlabel, hinner]
  have hlt := size_lt_of_below? hinner
  simpa [sizeBelow, hsame, hkids] using hlt

end Forest

namespace Document

variable {L : Type} {d : Document L} {id c p : NodeId}

/-! ### Parents and children agree -/

theorem mem_children_iff : c ∈ d.children p ↔ d.forest.Over p c := by
  unfold children Forest.Over
  cases d.forest.below? p with
  | none => simp
  | some kids => simp

/-- **A node is the parent of exactly those nodes that are its children.** -/
theorem parent?_eq_some_iff (hd : d.forest.Distinct) : d.parent? c = some p ↔ c ∈ d.children p := by
  rw [mem_children_iff]
  unfold parent? ancestors
  by_cases hc : c ∈ d.forest.labels
  · obtain ⟨above, habove⟩ := Forest.exists_trail? hc
    rw [habove, Option.getD_some, List.getElem?_cons_succ, ← List.head?_eq_getElem?]
    exact Forest.head?_above_iff hd habove
  · have hnone := Forest.trail?_eq_none_iff.2 hc
    have hover : ¬ d.forest.Over p c := fun h => hc h.mem_labels.2
    simp [hnone, hover]

/-- No node is among the children of another twice. -/
theorem nodup_children (hd : d.forest.Distinct) (p : NodeId) : (d.children p).Nodup := by
  unfold children
  cases hk : d.forest.below? p with
  | none => exact List.nodup_nil
  | some kids => exact (Forest.roots_sublist_labels kids).nodup (hd.below? hk).2

/-- **Whoever goes from parent to parent does not come back.** -/
theorem not_transGen_parent? (hd : d.forest.Distinct) (c : NodeId) :
    ¬ Relation.TransGen (fun c p => d.parent? c = some p) c c := by
  have hgrows : ∀ p, Relation.TransGen (fun c p => d.parent? c = some p) c p →
      d.forest.sizeBelow c < d.forest.sizeBelow p := by
    intro p h
    induction h with
    | single h =>
      exact (mem_children_iff.1 ((parent?_eq_some_iff hd).1 h)).sizeBelow_lt hd
    | tail _ h ih =>
      have hlt := (mem_children_iff.1 ((parent?_eq_some_iff hd).1 h)).sizeBelow_lt hd
      exact ih.trans hlt
  exact fun h => Nat.lt_irrefl _ (hgrows c h)

/-! ### The way up -/

/-- The nodes from `id` upwards: the node, its parent, the parent of that, up to a node without
a parent. -/
inductive Upwards (d : Document L) : NodeId → List NodeId → Prop
  | root {id : NodeId} (h : d.parent? id = none) : Upwards d id [id]
  | step {id p : NodeId} {line : List NodeId} (h : d.parent? id = some p) (hp : Upwards d p line) :
      Upwards d id (id :: line)

theorem Upwards.unique {line line' : List NodeId} (h : d.Upwards id line)
    (h' : d.Upwards id line') : line = line' := by
  induction h generalizing line' with
  | root hroot =>
    cases h' with
    | root => rfl
    | step hp => rw [hroot] at hp; cases hp
  | step hp _ ih =>
    cases h' with
    | root hroot => rw [hroot] at hp; cases hp
    | step hp' htail =>
      rw [hp, Option.some.injEq] at hp'
      subst hp'
      rw [ih htail]

/-- **The ancestors of a node are met by going from parent to parent.** -/
theorem upwards_ancestors (hd : d.forest.Distinct) (id : NodeId) :
    d.Upwards id (d.ancestors id) := by
  by_cases hid : id ∈ d.forest.labels
  · obtain ⟨above, habove⟩ := Forest.exists_trail? hid
    unfold ancestors
    rw [habove, Option.getD_some]
    clear hid
    induction above generalizing id with
    | nil =>
      refine .root ?_
      unfold parent? ancestors
      rw [habove]
      rfl
    | cons p above ih =>
      refine .step ?_ (ih p (Forest.trail?_above hd habove))
      unfold parent? ancestors
      rw [habove]
      rfl
  · have hnone := Forest.trail?_eq_none_iff.2 hid
    unfold ancestors
    rw [hnone]
    refine .root ?_
    unfold parent? ancestors
    rw [hnone]
    rfl

/-! ### Who has children, and who is one -/

/-- What can be right below a node: something only if the node is a container, and then no
fragment. -/
def Houses (d : Document L) (p : NodeId) (kids : Forest NodeId) : Prop :=
  ∀ c ∈ kids.roots, (d.contentAt p).isContainer = true ∧ d.contentAt c ≠ .fragment

/-- Only containers have children, and no fragment is one. -/
def Housed (d : Document L) : Prop := d.forest.Every d.Houses

theorem Houses.prune {kids : Forest NodeId} (h : d.Houses p kids) (x : NodeId) :
    d.Houses p (kids.prune x) :=
  fun c hc => h c (Forest.roots_prune_subset x kids hc)

theorem Houses.graft {kids new : Forest NodeId} (h : d.Houses p kids) (x : NodeId) :
    d.Houses p (kids.graft x new) :=
  fun c hc => h c (Forest.roots_graft kids x new ▸ hc)

theorem housed_empty : Housed ({} : Document L) := trivial

/-- Nothing of this changes when every node stays what it is and where it is. -/
theorem Housed.rewritten (h : d.Housed) {d' : Document L} (hd : d.Rewritten d') : d'.Housed := by
  have hcontainer : ∀ id, (d'.contentAt id).isContainer = (d.contentAt id).isContainer := by
    intro id
    rw [← Content.isContainer_bare, hd.bare, Content.isContainer_bare]
  have hfragment : ∀ id, d'.contentAt id = .fragment ↔ d.contentAt id = .fragment := by
    intro id
    rw [← Content.bare_eq_fragment_iff, hd.bare, Content.bare_eq_fragment_iff]
  unfold Housed
  rw [hd.forest]
  refine Forest.Every.imp h fun p kids _ _ hhouses c hc => ?_
  obtain ⟨hp, hne⟩ := hhouses c hc
  exact ⟨(hcontainer p).trans hp, fun hc => hne ((hfragment c).1 hc)⟩

/-! ### New trees -/

/-- What has no record would be a fragment. -/
theorem lt_size_of_contentAt (h : d.contentAt id ≠ .fragment) : id.index < d.records.size := by
  by_contra hge
  refine h ?_
  unfold contentAt
  rw [Array.getElem?_eq_none (Nat.le_of_not_lt hge)]
  rfl

/-- New trees in which only containers have something below them, and no fragments. -/
theorem Housed.plant (hd : d.WellFormed) (h : d.Housed) {trees : Forest Content}
    (htrees : trees.Every fun c kids => ∀ c' ∈ kids.roots, c.isContainer = true ∧ c' ≠ .fragment) :
    (d.plant trees).Housed := by
  unfold Housed
  rw [forest_plant, Forest.every_append]
  refine ⟨Forest.Every.imp h fun p kids hp _ hhouses c hc => ?_, ?_⟩
  · obtain ⟨hcontainer, hne⟩ := hhouses c hc
    rw [contentAt_plant_of_lt (hd.known p hp), contentAt_plant_of_lt (lt_size_of_contentAt hne)]
    exact ⟨hcontainer, hne⟩
  · rw [← map_contentAt_sprouts d trees, Forest.every_map] at htrees
    refine Forest.Every.imp htrees fun p kids _ _ hhouses c hc => ?_
    refine hhouses _ ?_
    rw [Forest.roots_map]
    exact List.mem_map_of_mem hc

theorem Housed.create (hd : d.WellFormed) (h : d.Housed) (content : Content) :
    (d.create content).1.Housed :=
  h.plant hd (Forest.every_tree.2 ⟨fun _ hc => absurd hc List.not_mem_nil, trivial⟩)

/-- Texts and comments of markup have nothing below them, and there are no fragments. -/
theorem every_houses_parse (markup : String) :
    (Markup.parse markup).Every fun c kids =>
      ∀ c' ∈ kids.roots, c.isContainer = true ∧ c' ≠ .fragment := by
  have harranged := (Markup.arranged_build (Markup.tokens markup.toList)).nodes
  refine harranged.imp fun c kids _ hkids hc c' hc' => ⟨?_, ?_⟩
  · have hkids : kids ≠ .nil := by
      rintro rfl
      exact absurd hc' List.not_mem_nil
    cases c with
    | element e => rfl
    | text s => exact absurd hc.2 hkids
    | comment s => exact absurd hc hkids
    | fragment | shadowRoot => rfl
  · rintro rfl
    exact Markup.fresh_parse markup _ (hkids (Forest.mem_labels_of_mem_roots hc'))

theorem Housed.parseFragment (hd : d.WellFormed) (h : d.Housed) (markup : String) :
    (d.parseFragment markup).1.Housed := by
  refine h.plant hd (Forest.every_tree.2 ⟨fun c hc => ⟨rfl, ?_⟩, every_houses_parse markup⟩)
  rintro rfl
  exact Markup.fresh_parse markup _ (Forest.mem_labels_of_mem_roots hc)

theorem Housed.attachShadow (hd : d.WellFormed) (h : d.Housed) {d' : Document L} {root : NodeId}
    (hattached : d.attachShadow id = .ok (d', root)) : d'.Housed := by
  obtain ⟨e, hold, ⟨-, rfl⟩ | ⟨-, -, rfl⟩⟩ := exists_of_attachShadow hattached
  · exact h
  · refine (h.create hd .shadowRoot).rewritten
      (rewritten_setContent (content?_create_of_content? hd hold .shadowRoot) ?_)
    rfl

/-! ### Moving -/

theorem Housed.remove (h : d.Housed) {d' : Document L} (hd : d.remove id = .ok d') : d'.Housed := by
  unfold Document.remove at hd
  cases hget : d.get id with
  | error e => rw [hget] at hd; cases hd
  | ok content =>
    rw [hget] at hd
    cases hd
    exact Forest.Every.prune h id fun _ _ hhouses => hhouses.prune id

theorem Housed.detach (h : d.Housed) (id : NodeId) : (d.detach id).Housed := by
  unfold Document.detach Forest.detach
  cases hk : d.forest.below? id with
  | none => exact h
  | some kids =>
    exact Forest.every_append.2 ⟨Forest.Every.prune h id fun _ _ hhouses => hhouses.prune id,
      Forest.every_tree.2 (Forest.Every.below? h hk)⟩

/-- A node can be placed below a container, unless it is a fragment. -/
theorem Housed.place (h : d.Housed) (hp : (d.contentAt p).isContainer = true)
    (hc : d.contentAt c ≠ .fragment) : (d.place p c).state.Housed := by
  unfold Document.place
  split
  · exact h.detach c
  · split
    · exact h.detach c
    · rw [Attempt.state_done]
      unfold Document.transfer
      cases hk : d.forest.below? c with
      | none => exact h
      | some kids =>
        have hkids : (Forest.tree c kids).Every d.Houses :=
          Forest.every_tree.2 (Forest.Every.below? h hk)
        refine (Forest.Every.prune h c fun _ _ hhouses => hhouses.prune c).graft hkids ?_
          fun _ _ hhouses => hhouses.graft p
        intro others hothers x hx
        rw [Forest.roots_append, List.mem_append] at hx
        rcases hx with hx | hx
        · exact hothers x hx
        · obtain rfl : x = c := List.mem_singleton.1 hx
          exact ⟨hp, hc⟩

theorem Housed.placeAll (hd : d.WellFormed) (h : d.Housed) (hp : p ∈ d.forest.labels)
    (hcontainer : (d.contentAt p).isContainer = true) {children : List NodeId}
    (hchildren : ∀ c ∈ children, d.contentAt c ≠ .fragment) :
    (placeAll p children d).state.Housed := by
  induction children generalizing d with
  | nil => exact h
  | cons c rest ih =>
    obtain ⟨hc, hrest⟩ := List.forall_mem_cons.1 hchildren
    have hplaced := h.place hcontainer hc
    have hmoved := rearranged_place hd hp c
    unfold Document.placeAll Attempt.andThen
    split
    · have hlive := contains_iff.1 ((hmoved.contains_iff p).2 (contains_iff.2 hp))
      refine ih (hmoved.wellFormed hd) hplaced hlive ?_ fun x hx => ?_
      · rwa [hmoved.contentAt_eq]
      · rw [hmoved.contentAt_eq]
        exact hrest x hx
    · exact hplaced

/-- What moves is no fragment: it is the children of one, or a node that is none. -/
theorem Housed.moved_ne_fragment (h : d.Housed) {nodes : List NodeId}
    (hmoved : d.moved c = .ok nodes) : ∀ x ∈ nodes, d.contentAt x ≠ .fragment := by
  unfold Document.moved Document.get at hmoved
  cases hcontent : d.content? c with
  | none => rw [hcontent] at hmoved; cases hmoved
  | some content =>
    rw [hcontent] at hmoved
    simp only [Except.map, Except.ok.injEq] at hmoved
    subst hmoved
    split
    · intro x hx
      obtain ⟨kids, hkids, hroot⟩ := mem_children_iff.1 hx
      exact ((Forest.Every.below? h hkids).1 x hroot).2
    · next hne =>
      intro x hx
      rw [List.mem_singleton.1 hx, contentAt_of_content? hcontent]
      exact hne

/-- **Appending keeps this, also when it stops half way.**  The children of a fragment are no
fragments themselves. -/
theorem Housed.append (hd : d.WellFormed) (h : d.Housed) (p c : NodeId) :
    (d.append p c).state.Housed := by
  unfold Document.append
  cases hcontainer : d.container p with
  | error e => exact h
  | ok u =>
    simp only [Except.bind]
    split
    · exact h
    · next nodes hmoved =>
      obtain ⟨content, hcontent, hcontains⟩ := exists_content?_of_container hcontainer
      have hp := contentAt_of_content? hcontent
      refine h.placeAll hd (mem_labels_of_container hcontainer) (by rw [hp]; exact hcontains) ?_
      exact h.moved_ne_fragment hmoved

/-- **In every document only containers have children, and no fragment is one.** -/
theorem Reachable.housed (h : d.Reachable) : d.Housed := by
  induction h with
  | empty => exact housed_empty
  | create hd _ ih => exact ih.create hd.wellFormed _
  | parse hd markup ih => exact ih.parseFragment hd.wellFormed markup
  | attachShadow hd hattached ih => exact ih.attachShadow hd.wellFormed hattached
  | append hd parent child ih => exact ih.append hd.wellFormed parent child
  | remove _ hd ih => exact ih.remove hd
  | setText _ hd ih => exact ih.rewritten (rewritten_setText hd)
  | setAttribute _ hd ih => exact ih.rewritten (rewritten_setAttribute hd)
  | removeAttribute _ hd ih => exact ih.rewritten (rewritten_removeAttribute hd)
  | setProperty _ hd ih => exact ih.rewritten (rewritten_setProperty hd)
  | addListener _ hd ih => exact ih.rewritten (rewritten_addListener hd)

/-! ### The shape of a document -/

/-- The nodes of a document form trees, seen from above and from below, in which texts and
comments are leaves and fragments are roots. -/
structure IsForest (d : Document L) : Prop where
  parent_iff : ∀ c p, d.parent? c = some p ↔ c ∈ d.children p
  once : ∀ c p, c ∈ d.children p → (d.children p).count c = 1
  acyclic : ∀ c, ¬ Relation.TransGen (fun c p => d.parent? c = some p) c c
  live_parent : ∀ c p, d.parent? c = some p → d.contains p = true
  live_child : ∀ p c, c ∈ d.children p → d.contains c = true
  leaf : ∀ id s, d.content? id = some (.text s) ∨ d.content? id = some (.comment s) →
    d.children id = []
  root : ∀ id, d.content? id = some .fragment → d.parent? id = none

theorem Housed.children_of_leaf (h : d.Housed) (hleaf : (d.contentAt id).isContainer = false) :
    d.children id = [] := by
  rw [List.eq_nil_iff_forall_not_mem]
  intro c hc
  obtain ⟨kids, hkids, hroot⟩ := mem_children_iff.1 hc
  have hcontainer := ((Forest.Every.below? h hkids).1 c hroot).1
  rw [hleaf] at hcontainer
  cases hcontainer

/-- **Every reachable document is a forest.** -/
theorem Reachable.isForest (h : d.Reachable) : d.IsForest := by
  have hdistinct := h.wellFormed.distinct
  have hparent := fun c p => parent?_eq_some_iff (c := c) (p := p) hdistinct
  refine ⟨hparent, ?_, not_transGen_parent? hdistinct, ?_, ?_, ?_, ?_⟩
  · exact fun c p hc => List.count_eq_one_of_mem (nodup_children hdistinct p) hc
  · exact fun c p hp => contains_iff.2 (mem_children_iff.1 ((hparent c p).1 hp)).mem_labels.1
  · exact fun p c hc => contains_iff.2 (mem_children_iff.1 hc).mem_labels.2
  · rintro id s (hs | hs)
    · exact h.housed.children_of_leaf (by rw [contentAt_of_content? hs]; rfl)
    · exact h.housed.children_of_leaf (by rw [contentAt_of_content? hs]; rfl)
  · intro id hfragment
    rw [Option.eq_none_iff_forall_ne_some]
    intro p hp
    obtain ⟨kids, hkids, hroot⟩ := mem_children_iff.1 ((hparent id p).1 hp)
    exact ((Forest.Every.below? h.housed hkids).1 id hroot).2 (contentAt_of_content? hfragment)

end Document

end LiveMarkup
