/-
What an append does, exactly.

The nodes to be moved, the cargo, leave their places one after the other, and each is put
behind the children of the node they go to before the next one leaves its own.  So at any
moment some nodes have left their places and some have come to the new one, and that is all
there is to say of a document on the way (`Shifted`).  One node that goes makes such a step,
and steps compose.

A node above the place it should go to is refused after it has left its own.  It ends the
append, and it is then in neither place: the document is `Shifted` by one node more that left
than came.  Only a refusal before the first step changes nothing.
-/
import LiveMarkup.Proofs.Document.Removal

namespace LiveMarkup

namespace Forest

variable {α : Type} [DecidableEq α] {f kids : Forest α} {a x : α}

/-- What does not stay when a node is taken out is as it was in the tree of that node. -/
theorem below?_tree (hf : f.Distinct) (hk : f.below? a = some kids)
    (hx : x ∉ (f.prune a).labels) : (tree a kids).below? x = f.below? x := by
  by_cases hxa : a = x
  · subst hxa
    rw [hk]
    exact below?_node_self kids nil
  · have htree : (tree a kids).below? x = kids.below? x := by
      unfold tree
      rw [below?_node_ne hxa]
      exact Option.or_none
    rw [htree]
    by_cases hkids : x ∈ kids.labels
    · exact (below?_of_below? hf hk hkids).symm
    · have hout : x ∉ f.labels := fun hc =>
        hx ((mem_labels_prune hf hk).2 ⟨hc, fun h => hxa h.symm, hkids⟩)
      rw [below?_eq_none_iff.2 hkids, below?_eq_none_iff.2 hout]

/-- What is right above a node is not below it. -/
theorem Over.mem_labels_prune (hf : f.Distinct) (h : f.Over x a) : x ∈ (f.prune a).labels := by
  obtain ⟨kids, hk⟩ := exists_below? h.mem_labels.2
  obtain ⟨ha, -⟩ := hf.below? hk
  obtain ⟨inner, hinner, hroot⟩ := h
  have hlabel := mem_labels_of_mem_roots hroot
  refine (Forest.mem_labels_prune hf hk).2 ⟨mem_labels_of_below?_eq_some hinner, ?_, ?_⟩
  · rintro rfl
    exact (hf.below? hinner).1 hlabel
  · intro hx
    rw [below?_of_below? hf hk hx] at hinner
    exact ha (mem_labels_of_below? hinner hlabel)

end Forest

namespace Document

variable {L : Type} {d d' d'' : Document L} {p c x : NodeId} {kids : Forest NodeId}
  {nodes left came left' came' : List NodeId}

/-! ### Nodes on the way -/

/-- Taking out nodes that are not in a list leaves the list. -/
theorem filter_not_mem_eq_self (h : ∀ x ∈ nodes, x ∉ left) : nodes.filter (· ∉ left) = nodes :=
  List.filter_eq_self.2 fun x hx => decide_eq_true (h x hx)

/-- `d'` is `d` after the nodes `left` were taken from their places, in which nothing is put
instead, and of them the nodes `came` were put behind the other children of `p`, in order.  A
node goes with all below it. -/
structure Shifted (d : Document L) (p : NodeId) (left came : List NodeId)
    (d' : Document L) : Prop where
  /-- Every node holds what it held and has the listeners it had. -/
  record : ∀ x, d'.record? x = d.record? x
  children : ∀ x, d'.children x =
    (d.children x).filter (· ∉ left) ++ if x = p then came else []
  parent : ∀ x, d'.parent? x =
    if x ∈ came then some p else if x ∈ left then none else d.parent? x

theorem Shifted.refl (d : Document L) (p : NodeId) : d.Shifted p [] [] d where
  record _ := rfl
  children x := by simp
  parent x := by simp

theorem Shifted.trans (h : d.Shifted p left came d') (h' : d'.Shifted p left' came' d'')
    (hdis : ∀ x ∈ came, x ∉ left') : d.Shifted p (left ++ left') (came ++ came') d'' where
  record x := (h'.record x).trans (h.record x)
  children x := by
    have hstay : came.filter (· ∉ left') = came := filter_not_mem_eq_self hdis
    have htwice : ((d.children x).filter (· ∉ left)).filter (· ∉ left') =
        (d.children x).filter (· ∉ left ++ left') := by
      rw [List.filter_filter]
      refine List.filter_congr fun y _ => ?_
      rw [← Bool.decide_and]
      exact decide_eq_decide.2 (by rw [List.mem_append, not_or, and_comm])
    rw [h'.children, h.children, List.filter_append, htwice]
    by_cases hx : x = p
    · rw [if_pos hx, if_pos hx, if_pos hx, hstay, List.append_assoc]
    · rw [if_neg hx, if_neg hx, if_neg hx, List.filter_nil, List.append_nil]
  parent x := by
    rw [h'.parent, h.parent]
    by_cases hcame : x ∈ came
    · simp [hcame, hdis x hcame]
    · by_cases hleft : x ∈ left'
      · simp [hcame, hleft]
      · simp [hcame, hleft]

/-- The parents follow from the children. -/
theorem shifted_of_children (hd : d.WellFormed) (hmoved : d.Rearranged d') (hcame : came ⊆ left)
    (h : ∀ x, d'.children x = (d.children x).filter (· ∉ left) ++ if x = p then came else []) :
    d.Shifted p left came d' where
  record := hmoved.record?_eq
  children := h
  parent x := by
    rw [Option.ext_iff]
    intro q
    rw [parent?_eq_some_iff (hmoved.wellFormed hd).distinct, h, List.mem_append, List.mem_filter]
    by_cases hx : x ∈ came
    · by_cases hq : q = p
      · simp [hx, hq]
      · have hp : ¬ p = q := fun hc => hq hc.symm
        simp [hx, hq, hp, hcame hx]
    · have hlast : x ∉ (if q = p then came else []) := by
        by_cases hq : q = p
        · simpa [hq] using hx
        · simp [hq]
      by_cases hleft : x ∈ left
      · simp [hx, hlast, hleft]
      · simp [hx, hlast, hleft, parent?_eq_some_iff hd.distinct]

/-! ### One node -/

/-- The children of a node that is in the tree of `c`, or nowhere: `c` is not one of them. -/
theorem children_of_not_mem_prune (hd : d.forest.Distinct) (hk : d.forest.below? c = some kids)
    (hx : x ∉ (d.forest.prune c).labels) :
    (((Forest.tree c kids).below? x).map Forest.roots).getD [] =
      (d.children x).filter (· ∉ [c]) := by
  have hself : (d.children x).filter (· ∉ [c]) = d.children x := by
    refine filter_not_mem_eq_self fun y hy hc => ?_
    rw [List.mem_singleton.1 hc] at hy
    exact hx ((mem_children_iff.1 hy).mem_labels_prune hd)
  rw [Forest.below?_tree hd hk hx, hself]
  rfl

theorem roots_prune_of_below? (hd : d.forest.Distinct) {inner : Forest NodeId}
    (hx : d.forest.below? x = some inner) :
    (inner.prune c).roots = (d.children x).filter (· ∉ [c]) := by
  have hnodup := nodup_children hd x
  rw [Forest.roots_prune, ← children_of_below? hx, hnodup.erase_eq_filter]
  refine List.filter_congr fun y _ => ?_
  rw [Bool.eq_iff_iff]
  simp

theorem children_detach (hd : d.forest.Distinct) (hk : d.forest.below? c = some kids)
    (x : NodeId) : (d.detach c).children x = (d.children x).filter (· ∉ [c]) := by
  have hforest : (d.detach c).forest = d.forest.prune c ++ .tree c kids := by
    unfold detach Forest.detach
    rw [hk]
  unfold children at *
  rw [hforest, Forest.below?_append]
  by_cases hx : x ∈ (d.forest.prune c).labels
  · obtain ⟨inner, hinner⟩ := Forest.exists_below? ((Forest.labels_prune_sublist c _).subset hx)
    rw [Forest.below?_prune hd hx, hinner, Option.map_some, Option.some_or]
    have hroots := roots_prune_of_below? (c := c) hd hinner
    rw [children_of_below? hinner] at hroots
    exact hroots
  · rw [Forest.below?_eq_none_iff.2 hx, Option.none_or]
    exact children_of_not_mem_prune hd hk hx

theorem children_graft_prune (hd : d.forest.Distinct) (hk : d.forest.below? c = some kids)
    (hp : p ∈ (d.forest.prune c).labels) (x : NodeId) :
    ({ d with forest := (d.forest.prune c).graft p (.tree c kids) } : Document L).children x =
      (d.children x).filter (· ∉ [c]) ++ if x = p then [c] else [] := by
  have hpruned := hd.prune c
  by_cases hx : x ∈ (d.forest.prune c).labels
  · have hnew : x ∉ (Forest.tree c kids).labels := by
      obtain ⟨-, hne, hout⟩ := (Forest.mem_labels_prune hd hk).1 hx
      simp [Forest.tree, Forest.labels, hne, hout]
    obtain ⟨inner, hinner⟩ := Forest.exists_below? ((Forest.labels_prune_sublist c _).subset hx)
    rw [← roots_prune_of_below? hd hinner]
    show ((((d.forest.prune c).graft p (.tree c kids)).below? x).map Forest.roots).getD [] = _
    rw [Forest.below?_graft hpruned hx hnew, Forest.below?_prune hd hx, hinner]
    by_cases hxp : x = p
    · simp [hxp, Forest.tree, Forest.roots]
    · simp [hxp]
  · have hxp : x ≠ p := fun hc => hx (hc ▸ hp)
    rw [if_neg hxp, List.append_nil, ← children_of_not_mem_prune hd hk hx]
    show ((((d.forest.prune c).graft p (.tree c kids)).below? x).map Forest.roots).getD [] = _
    rw [Forest.below?_graft_of_mem_new hpruned hp hx]

/-- Why `x` is not put below `p`, if it is above it. -/
def refusal (p x : NodeId) : DocumentError := if x = p then .belowItself else .belowDescendant

theorem node?_refusal (p x : NodeId) : (refusal p x).node? = none := by
  unfold refusal
  split
  · rfl
  · rfl

/-- **A node that is above the place it should go to leaves its own place before it is
refused.** -/
theorem place_of_above (hd : d.WellFormed) (hc : d.contains c = true)
    (habove : c ∈ d.ancestors p) :
    ∃ d', d.place p c = .stop d' (refusal p c) ∧ d.Shifted p [c] [] d' := by
  obtain ⟨kids, hk⟩ := Forest.exists_below? (contains_iff.1 hc)
  refine ⟨d.detach c, ?_, ?_⟩
  · unfold place refusal
    by_cases hself : c = p
    · rw [if_pos hself, if_pos hself]
    · rw [if_neg hself, if_neg hself, if_pos habove]
  · refine shifted_of_children hd (rearranged_detach hd c) (List.nil_subset _) fun x => ?_
    rw [children_detach hd.distinct hk, ite_self, List.append_nil]

/-- Any other node goes there, and what is above that place stays as it is. -/
theorem place_of_not_above (hd : d.WellFormed) (hp : p ∈ d.forest.labels)
    (hc : d.contains c = true) (habove : c ∉ d.ancestors p) :
    ∃ d', d.place p c = .done d' ∧ d.Rearranged d' ∧ d'.ancestors p = d.ancestors p ∧
      d.Shifted p [c] [c] d' := by
  obtain ⟨kids, hk⟩ := Forest.exists_below? (contains_iff.1 hc)
  obtain ⟨hne, hout⟩ := not_below_of_not_mem_ancestors hd hp hk habove
  have hstays : p ∈ (d.forest.prune c).labels :=
    (Forest.mem_labels_prune hd.distinct hk).2 ⟨hp, hne, hout⟩
  have hplace := place_eq hd.distinct hk hne hout
  have hmoved := rearranged_place hd hp c
  have hdone : (d.place p c).stopped = none := by
    rw [hplace]
    rfl
  have hancestors := ancestors_place hdone
  rw [hplace, Attempt.state_done] at hmoved hancestors
  exact ⟨_, hplace, hmoved, hancestors, shifted_of_children hd hmoved (List.Subset.refl _)
    (children_graft_prune hd.distinct hk hstays)⟩

/-! ### Several nodes -/

theorem placeAll_append (nodes more : List NodeId) (d : Document L) :
    placeAll p (nodes ++ more) d = (placeAll p nodes d).andThen (placeAll p more) := by
  induction nodes generalizing d with
  | nil => rfl
  | cons x rest ih =>
    show (d.place p x).andThen (placeAll p (rest ++ more)) =
      ((d.place p x).andThen (placeAll p rest)).andThen (placeAll p more)
    cases hplace : d.place p x with
    | mk d' stopped =>
      cases stopped with
      | none => exact ih d'
      | some e => rfl

/-- **Nodes that are not above the place they should go to all go there.**  The induction is on
the nodes that are still to go; those that went are above nothing they were not above before. -/
theorem placeAll_of_not_above (hd : d.WellFormed) (hp : p ∈ d.forest.labels)
    (hnodup : nodes.Nodup) (hlive : ∀ x ∈ nodes, d.contains x = true)
    (habove : ∀ x ∈ nodes, x ∉ d.ancestors p) :
    ∃ d', placeAll p nodes d = .done d' ∧ d.Rearranged d' ∧ d'.ancestors p = d.ancestors p ∧
      d.Shifted p nodes nodes d' := by
  induction nodes generalizing d with
  | nil => exact ⟨d, rfl, Rearranged.refl d, rfl, Shifted.refl d p⟩
  | cons x rest ih =>
    obtain ⟨hx, hrest⟩ := List.nodup_cons.1 hnodup
    obtain ⟨hxlive, hlive⟩ := List.forall_mem_cons.1 hlive
    obtain ⟨hxabove, habove⟩ := List.forall_mem_cons.1 habove
    obtain ⟨d', hplace, hmoved, hsame, hshift⟩ := place_of_not_above hd hp hxlive hxabove
    have hp' := contains_iff.1 ((hmoved.contains_iff p).2 (contains_iff.2 hp))
    obtain ⟨d'', hplaces, hmoved', hsame', hshift'⟩ :=
      ih (hmoved.wellFormed hd) hp' hrest (fun y hy => (hmoved.contains_iff y).2 (hlive y hy))
        fun y hy => by rw [hsame]; exact habove y hy
    refine ⟨d'', ?_, hmoved.trans hmoved', hsame'.trans hsame, ?_⟩
    · show (d.place p x).andThen (placeAll p rest) = _
      rw [hplace, Attempt.done_andThen, hplaces]
    · refine hshift.trans hshift' fun y hy => ?_
      rw [List.mem_singleton.1 hy]
      exact hx

/-- `d'` is what is left of `d` when the nodes `done` are moved below `p` and the next one, `x`,
is refused because of `e`: that one has left its place and not come to the new one. -/
structure StoppedAt (d : Document L) (p : NodeId) (nodes done : List NodeId) (x : NodeId)
    (e : DocumentError) (d' : Document L) : Prop where
  first : done ++ [x] <+: nodes
  clear : ∀ y ∈ done, y ∉ d.ancestors p
  above : x ∈ d.ancestors p
  reason : e = refusal p x
  shifted : d.Shifted p (done ++ [x]) done d'

/-- **The first node that is above the place they should go to is where it stops.** -/
theorem placeAll_of_above (hd : d.WellFormed) (hp : p ∈ d.forest.labels) (hnodup : nodes.Nodup)
    (hlive : ∀ x ∈ nodes, d.contains x = true) (habove : ∃ x ∈ nodes, x ∈ d.ancestors p) :
    ∃ done x d', placeAll p nodes d = .stop d' (refusal p x) ∧
      d.StoppedAt p nodes done x (refusal p x) d' := by
  obtain ⟨x, hx⟩ : ∃ x, nodes.find? (· ∈ d.ancestors p) = some x := by
    rw [← Option.isSome_iff_exists, List.find?_isSome]
    simpa using habove
  obtain ⟨hxabove, done, later, rfl, hclear⟩ := List.find?_eq_some_iff_append.1 hx
  simp only [decide_eq_true_eq] at hxabove
  simp only [Bool.not_eq_true', decide_eq_false_iff_not] at hclear
  obtain ⟨hdone, -, hdis⟩ := List.nodup_append.1 hnodup
  obtain ⟨d', hplaces, hmoved, hsame, hshift⟩ := placeAll_of_not_above hd hp hdone
    (fun y hy => hlive y (List.mem_append_left _ hy)) hclear
  obtain ⟨d'', hplace, hshift'⟩ := place_of_above (p := p) (c := x) (hmoved.wellFormed hd)
    ((hmoved.contains_iff x).2 (hlive x (by simp))) (hsame ▸ hxabove)
  refine ⟨done, x, d'', ?_, ?_, hclear, hxabove, rfl, ?_⟩
  · rw [placeAll_append, hplaces, Attempt.done_andThen]
    show (d'.place p x).andThen (placeAll p later) = _
    rw [hplace, Attempt.stop_andThen]
  · exact ⟨later, by simp⟩
  · have h := hshift.trans hshift' fun y hy hc => hdis y hy x (by simp) (List.mem_singleton.1 hc)
    rwa [List.append_nil] at h

/-! ### The whole append -/

/-- The nodes that move when a node is appended: the children of a fragment, and any other node
itself. -/
def cargo (d : Document L) (c : NodeId) : List NodeId :=
  if d.content? c = some .fragment then d.children c else [c]

theorem nodup_cargo (hd : d.forest.Distinct) (c : NodeId) : (d.cargo c).Nodup := by
  unfold cargo
  split
  · exact nodup_children hd c
  · exact List.nodup_singleton c

theorem contains_of_mem_cargo (hc : d.contains c = true) (hx : x ∈ d.cargo c) :
    d.contains x = true := by
  unfold cargo at hx
  split at hx
  · exact contains_iff.2 (mem_children_iff.1 hx).mem_labels.2
  · rw [List.mem_singleton.1 hx]
    exact hc

/-- What an append asks for. -/
structure Admits (d : Document L) (p c : NodeId) : Prop where
  /-- The parent is live, and an element, a fragment or a shadow root. -/
  container : (d.content? p).any Content.isContainer = true
  /-- The child is live. -/
  live : d.contains c = true
  /-- Nothing that moves is the parent or above it. -/
  clear : ∀ x ∈ d.cargo c, x ∉ d.ancestors p

theorem append_eq_placeAll (hd : d.WellFormed)
    (hp : (d.content? p).any Content.isContainer = true) (hc : d.contains c = true) :
    d.append p c = placeAll p (d.cargo c) d := by
  obtain ⟨content, hcontent, hcontainer⟩ := (Option.any_eq_true _ _).1 hp
  obtain ⟨content', hcontent'⟩ := hd.exists_content? hc
  unfold append moved cargo
  rw [container_of_content? hcontent hcontainer, get_of_content? hcontent', hcontent']
  simp [Except.bind, Except.map]

/-- **If the parent takes no children, or if one of the two nodes is gone, nothing is done, and
the error names the node.** -/
theorem append_eq_stop
    (h : ¬ ((d.content? p).any Content.isContainer = true ∧ d.contains c = true)) :
    ∃ e, d.append p c = .stop d e ∧ e.node? ≠ none := by
  cases hcontent : d.content? p with
  | none =>
    have hcontainer : d.container p = .error (.unknownNode p) := by
      simp [container, get, hcontent, Except.bind]
    exact ⟨_, append_of_container_error hcontainer c, Option.some_ne_none p⟩
  | some content =>
    cases hcontainer : content.isContainer with
    | false =>
      exact ⟨_, append_of_container_error (container_of_not_container hcontent hcontainer) c,
        Option.some_ne_none p⟩
    | true =>
      have hdead : d.contains c = false := by
        rw [← Bool.not_eq_true]
        exact fun hc => h ⟨by rw [hcontent]; exact hcontainer, hc⟩
      exact ⟨_, (dead_of_not_contains hdead).childOf p (container_of_content? hcontent hcontainer),
        Option.some_ne_none c⟩

theorem mem_labels_of_container_content?
    (hp : (d.content? p).any Content.isContainer = true) : p ∈ d.forest.labels := by
  obtain ⟨content, hcontent, -⟩ := (Option.any_eq_true _ _).1 hp
  exact contains_iff.1 (contains_of_content? hcontent)

/-- No node is above the one it is a child of. -/
theorem not_mem_ancestors_of_mem_children (hd : d.WellFormed) (hx : x ∈ d.children p) :
    x ∉ d.ancestors p := by
  have hover := mem_children_iff.1 hx
  have hp := hover.mem_labels_prune hd.distinct
  obtain ⟨kids, hk⟩ := Forest.exists_below? hover.mem_labels.2
  obtain ⟨hlive, hne, hout⟩ := (Forest.mem_labels_prune hd.distinct hk).1 hp
  intro hc
  obtain ⟨above, htrail⟩ := Forest.exists_trail? hlive
  unfold ancestors at hc
  rw [htrail, Option.getD_some, Forest.mem_trail?_iff hd.distinct htrail] at hc
  obtain ⟨inner, hinner, hmem⟩ := hc
  rw [hk, Option.some.injEq] at hinner
  exact hmem.elim hne fun hmem => hout (hinner ▸ hmem)

/-- What an append of `c` to `p` leaves when it is refused because of `e`. -/
structure Refused (d : Document L) (p c : NodeId) (e : DocumentError) (d' : Document L) :
    Prop where
  /-- Every node holds what it held and has the listeners it had. -/
  record : ∀ x, d'.record? x = d.record? x
  /-- An error that names a node comes before the first step. -/
  named : e.node? ≠ none → d' = d
  /-- Any other error comes after some steps, and after one half of a step. -/
  halfway : e.node? = none → ∃ done x, d.StoppedAt p (d.cargo c) done x e d'
  /-- So every node is where it was only if no step was begun, or if the one that was begun
  took a single node out of nowhere. -/
  same_iff : (∀ x, d'.children x = d.children x ∧ d'.parent? x = d.parent? x) ↔
    e.node? ≠ none ∨ d.content? c ≠ some .fragment ∧ d.parent? c = none

/-- A node that was not anywhere can be refused without a trace. -/
theorem StoppedAt.same_iff (hd : d.forest.Distinct) {done : List NodeId} {e : DocumentError}
    (h : d.StoppedAt p (d.cargo c) done x e d') :
    (∀ y, d'.children y = d.children y ∧ d'.parent? y = d.parent? y) ↔
      d.content? c ≠ some .fragment ∧ d.parent? c = none := by
  have hnodup := h.first.sublist.nodup (nodup_cargo hd c)
  have hx : x ∉ done := fun hc => (List.nodup_append.1 hnodup).2.2 x hc x (by simp) rfl
  constructor
  · intro hsame
    have hnone : d.parent? x = none := by
      rw [← (hsame x).2, h.shifted.parent, if_neg hx, if_pos (by simp)]
    have hmem : x ∈ d.cargo c := h.first.subset (by simp)
    have hfragment : d.content? c ≠ some .fragment := by
      intro hc
      unfold cargo at hmem
      rw [if_pos hc, ← parent?_eq_some_iff hd, hnone] at hmem
      cases hmem
    unfold cargo at hmem
    rw [if_neg hfragment] at hmem
    exact ⟨hfragment, List.mem_singleton.1 hmem ▸ hnone⟩
  · rintro ⟨hfragment, hnone⟩ y
    have hfirst := h.first
    unfold cargo at hfirst
    rw [if_neg hfragment] at hfirst
    obtain ⟨rfl, rfl⟩ : done = [] ∧ x = c := by
      have hlength := hfirst.length_le
      simp only [List.length_append, List.length_singleton] at hlength
      have hempty : done = [] := List.eq_nil_of_length_eq_zero (by omega)
      subst hempty
      exact ⟨rfl, List.mem_singleton.1 (hfirst.subset (List.mem_singleton_self x))⟩
    constructor
    · rw [h.shifted.children, ite_self, List.append_nil]
      refine filter_not_mem_eq_self fun z hz hc => ?_
      rw [List.nil_append, List.mem_singleton] at hc
      rw [← parent?_eq_some_iff hd, hc, hnone] at hz
      cases hz
    · rw [h.shifted.parent, if_neg List.not_mem_nil, List.nil_append]
      by_cases hy : y = x
      · rw [if_pos (List.mem_singleton.2 hy), hy, hnone]
      · rw [if_neg fun hc => hy (List.mem_singleton.1 hc)]

/-- **What a refused append leaves behind.**  Nothing is lost and nothing is written; and if the
arena refused a node, then all that were to go in front of it have gone, and it is a tree of its
own. -/
theorem refused_of_append (hd : d.Reachable) {e : DocumentError}
    (h : (d.append p c).stopped = some e) : d.Refused p c e (d.append p c).state := by
  have hwf := hd.wellFormed
  by_cases hasked : (d.content? p).any Content.isContainer = true ∧ d.contains c = true
  · obtain ⟨hp, hc⟩ := hasked
    have hlabel := mem_labels_of_container_content? hp
    have hnodup := nodup_cargo hwf.distinct c
    have hlive : ∀ x ∈ d.cargo c, d.contains x = true := fun x hx => contains_of_mem_cargo hc hx
    have happend := append_eq_placeAll hwf hp hc
    by_cases habove : ∃ x ∈ d.cargo c, x ∈ d.ancestors p
    · obtain ⟨done, x, d', hplaces, hstopped⟩ :=
        placeAll_of_above hwf hlabel hnodup hlive habove
      rw [happend, hplaces, Attempt.stopped_stop, Option.some.injEq] at h
      subst h
      rw [happend, hplaces, Attempt.state_stop]
      have hnode := node?_refusal p x
      exact ⟨hstopped.shifted.record, fun hc => absurd hnode hc, fun _ => ⟨done, x, hstopped⟩,
        by rw [hstopped.same_iff hwf.distinct, hnode]; simp⟩
    · have hclear : ∀ x ∈ d.cargo c, x ∉ d.ancestors p := fun x hx hc => habove ⟨x, hx, hc⟩
      obtain ⟨d', hplaces, -⟩ := placeAll_of_not_above hwf hlabel hnodup hlive hclear
      rw [happend, hplaces] at h
      cases h
  · obtain ⟨e', happend, hnode⟩ := append_eq_stop hasked
    rw [happend, Attempt.stopped_stop, Option.some.injEq] at h
    subst h
    rw [happend, Attempt.state_stop]
    exact ⟨fun _ => rfl, fun _ => rfl, fun hc => absurd hc hnode,
      iff_of_true (fun _ => ⟨rfl, rfl⟩) (Or.inl hnode)⟩

/-- A list cannot be put into its first item; the attempt takes it out of the page. -/
theorem refused_of_append_sampleList :
    (sampleList.append ⟨2⟩ ⟨1⟩).stopped = some .belowDescendant ∧
      sampleList.children ⟨0⟩ = [⟨1⟩] ∧ (sampleList.append ⟨2⟩ ⟨1⟩).state.children ⟨0⟩ = [] := by
  have hstopped : (sampleList.append ⟨2⟩ ⟨1⟩).stopped = some .belowDescendant := by
    decide +kernel
  obtain ⟨done, x, hhalf⟩ := (refused_of_append reachable_sampleList hstopped).halfway rfl
  have hcargo : sampleList.cargo ⟨1⟩ = [⟨1⟩] := by decide +kernel
  have hchildren : sampleList.children ⟨0⟩ = [⟨1⟩] := by decide +kernel
  refine ⟨hstopped, hchildren, ?_⟩
  have hfirst := hcargo ▸ hhalf.first
  have hx : x = ⟨1⟩ := List.mem_singleton.1 (hfirst.subset (by simp))
  rw [hhalf.shifted.children, hchildren, hx]
  simp

/-- What the appends to the nodes of a document do, and when. -/
structure Appends (d : Document L) : Prop where
  succeeds_iff : ∀ p c, (d.append p c).stopped = none ↔ d.Admits p c
  shifted : ∀ p c, (d.append p c).stopped = none →
    d.Shifted p (d.cargo c) (d.cargo c) (d.append p c).state
  /-- A fragment that is appended to itself stays as it is, and so does everything else. -/
  itself : ∀ p, d.content? p = some .fragment → (d.append p p).stopped = none ∧
    ∀ x, (d.append p p).state.children x = d.children x

/-- Children that go to their own parent stay where they are. -/
theorem Shifted.children_eq (hd : d.forest.Distinct)
    (h : d.Shifted p (d.children p) (d.children p) d') (x : NodeId) :
    d'.children x = d.children x := by
  rw [h.children]
  by_cases hx : x = p
  · subst hx
    rw [if_pos rfl, List.filter_eq_nil_iff.2 fun y hy => by simp [hy], List.nil_append]
  · rw [if_neg hx, List.append_nil]
    refine filter_not_mem_eq_self fun y hy hc => hx ?_
    rw [← parent?_eq_some_iff hd] at hy hc
    exact Option.some.inj (hy.symm.trans hc)

/-- An append to a node that admits it goes through. -/
theorem append_of_admits (hd : d.WellFormed) (h : d.Admits p c) :
    (d.append p c).stopped = none ∧
      d.Shifted p (d.cargo c) (d.cargo c) (d.append p c).state := by
  obtain ⟨d', hplaces, -, -, hshift⟩ := placeAll_of_not_above hd
    (mem_labels_of_container_content? h.container) (nodup_cargo hd.distinct c)
    (fun x hx => contains_of_mem_cargo h.live hx) h.clear
  rw [append_eq_placeAll hd h.container h.live, hplaces]
  exact ⟨rfl, hshift⟩

/-- No other append does. -/
theorem admits_of_append (hd : d.WellFormed) (h : (d.append p c).stopped = none) :
    d.Admits p c := by
  by_cases hasked : (d.content? p).any Content.isContainer = true ∧ d.contains c = true
  · obtain ⟨hp, hc⟩ := hasked
    refine ⟨hp, hc, fun x hx habove => ?_⟩
    obtain ⟨done, y, d', hplaces, -⟩ := placeAll_of_above hd
      (mem_labels_of_container_content? hp) (nodup_cargo hd.distinct c)
      (fun x hx => contains_of_mem_cargo hc hx) ⟨x, hx, habove⟩
    rw [append_eq_placeAll hd hp hc, hplaces] at h
    cases h
  · obtain ⟨e, happend, -⟩ := append_eq_stop hasked
    rw [happend] at h
    cases h

/-- **What an append does, exactly.** -/
theorem appends_of_reachable (hd : d.Reachable) : d.Appends := by
  have hwf := hd.wellFormed
  refine ⟨fun p c => ⟨admits_of_append hwf, fun h => (append_of_admits hwf h).1⟩,
    fun p c h => (append_of_admits hwf (admits_of_append hwf h)).2, fun p hfragment => ?_⟩
  have hcargo : d.cargo p = d.children p := if_pos hfragment
  have hadmits : d.Admits p p := ⟨by rw [hfragment]; rfl, contains_of_content? hfragment,
    fun x hx => not_mem_ancestors_of_mem_children hwf (hcargo ▸ hx)⟩
  obtain ⟨hdone, hshift⟩ := append_of_admits hwf hadmits
  rw [hcargo] at hshift
  exact ⟨hdone, hshift.children_eq hwf.distinct⟩

/-- The second item of a list goes into the first, behind its text. -/
theorem appends_of_reachable_sampleList :
    (sampleList.append ⟨2⟩ ⟨4⟩).stopped = none ∧
      (sampleList.append ⟨2⟩ ⟨4⟩).state.children ⟨1⟩ = [⟨2⟩] ∧
      (sampleList.append ⟨2⟩ ⟨4⟩).state.children ⟨2⟩ = [⟨3⟩, ⟨4⟩] := by
  have happends := appends_of_reachable reachable_sampleList
  have hcargo : sampleList.cargo ⟨4⟩ = [⟨4⟩] := by decide +kernel
  have hstopped : (sampleList.append ⟨2⟩ ⟨4⟩).stopped = none :=
    (happends.succeeds_iff _ _).2 ⟨by decide +kernel, by decide +kernel, by decide +kernel⟩
  have hshift := happends.shifted _ _ hstopped
  rw [hcargo] at hshift
  refine ⟨hstopped, ?_, ?_⟩
  · rw [hshift.children]
    decide +kernel
  · rw [hshift.children]
    decide +kernel

end Document

end LiveMarkup
