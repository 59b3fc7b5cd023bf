/-
Moving nodes.

Moving never makes a node and never writes one, so all it can do wrong is to lose a node
or to put one in two places.  It does neither, whether it goes through or stops half way
(`rearranged_append`).

Appending a fragment moves its children one by one, and each of them could be refused.  If
the place they go to is outside the fragment none is, and what comes out is the same as
taking the fragment out and putting all its children there at once
(`placeAll_children`).
-/
import LiveMarkup.Document.Tree
import LiveMarkup.Proofs.Document.Planting

namespace LiveMarkup

namespace Document

variable {L : Type} {d : Document L} {id target child : NodeId} {kids : Forest NodeId}

/-! ### Nothing is lost or doubled -/

/-- The same nodes in other places. -/
def Rearranged (d d' : Document L) : Prop :=
  ∃ f : Forest NodeId, f.labels.Perm d.forest.labels ∧ d' = { d with forest := f }

theorem Rearranged.refl (d : Document L) : d.Rearranged d := ⟨d.forest, List.Perm.refl _, rfl⟩

theorem Rearranged.trans {d' d'' : Document L} (h : d.Rearranged d') (h' : d'.Rearranged d'') :
    d.Rearranged d'' := by
  obtain ⟨f, hf, rfl⟩ := h
  obtain ⟨g, hg, rfl⟩ := h'
  exact ⟨g, hg.trans hf, rfl⟩

theorem Rearranged.contains_iff {d' : Document L} (h : d.Rearranged d') (id : NodeId) :
    d'.contains id = true ↔ d.contains id = true := by
  obtain ⟨f, hf, rfl⟩ := h
  rw [Document.contains_iff, Document.contains_iff]
  exact hf.mem_iff

theorem Rearranged.wellFormed {d' : Document L} (h : d.Rearranged d') (hd : d.WellFormed) :
    d'.WellFormed := by
  obtain ⟨f, hf, rfl⟩ := h
  exact ⟨hf.nodup_iff.2 hd.distinct, fun id hid => hd.known id (hf.mem_iff.1 hid), hd.proper⟩

theorem Rearranged.record?_eq {d' : Document L} (h : d.Rearranged d') (id : NodeId) :
    d'.record? id = d.record? id := by
  have hcontains := h.contains_iff id
  obtain ⟨f, hf, rfl⟩ := h
  unfold record?
  by_cases hlive : d.contains id = true
  · rw [if_pos hlive, if_pos (hcontains.2 hlive)]
  · rw [if_neg hlive, if_neg fun hc => hlive (hcontains.1 hc)]

theorem rearranged_detach (hd : d.WellFormed) (id : NodeId) : d.Rearranged (d.detach id) := by
  unfold detach Forest.detach
  cases hk : d.forest.below? id with
  | none => exact Rearranged.refl d
  | some kids =>
    refine ⟨_, ?_, rfl⟩
    rw [Forest.labels_append]
    simpa [Forest.tree, Forest.labels] using (Forest.labels_prune hd.distinct hk).symm

/-- A node goes nowhere if what it should go to is below it. -/
theorem not_below_of_not_mem_ancestors (hd : d.WellFormed) (ht : target ∈ d.forest.labels)
    (hk : d.forest.below? child = some kids) (habove : child ∉ d.ancestors target) :
    target ≠ child ∧ target ∉ kids.labels := by
  cases htrail : d.forest.trail? target with
  | none => exact absurd ht (Forest.trail?_eq_none_iff.1 htrail)
  | some trail =>
    unfold ancestors at habove
    rw [htrail, Option.getD_some, Forest.mem_trail?_iff hd.distinct htrail] at habove
    exact ⟨fun hc => habove ⟨kids, hk, Or.inl hc⟩, fun hc => habove ⟨kids, hk, Or.inr hc⟩⟩

theorem rearranged_place (hd : d.WellFormed) (hparent : target ∈ d.forest.labels)
    (child : NodeId) : d.Rearranged (d.place target child).state := by
  unfold place
  split
  · exact rearranged_detach hd child
  · split
    · exact rearranged_detach hd child
    · next habove =>
      rw [Attempt.state_done]
      unfold transfer
      cases hk : d.forest.below? child with
      | none => exact Rearranged.refl d
      | some kids =>
        obtain ⟨hne, hout⟩ := not_below_of_not_mem_ancestors hd hparent hk habove
        have hstays : target ∈ (d.forest.prune child).labels :=
          (Forest.mem_labels_prune hd.distinct hk).2 ⟨hparent, hne, hout⟩
        refine ⟨_, (Forest.labels_graft (hd.distinct.prune child) hstays _).trans ?_, rfl⟩
        simpa [Forest.tree, Forest.labels] using (Forest.labels_prune hd.distinct hk).symm

theorem rearranged_placeAll (hd : d.WellFormed) (hparent : target ∈ d.forest.labels)
    (children : List NodeId) : d.Rearranged (placeAll target children d).state := by
  induction children generalizing d with
  | nil => exact Rearranged.refl d
  | cons child rest ih =>
    have hplaced := rearranged_place hd hparent child
    unfold placeAll Attempt.andThen
    split
    · have hlive := (hplaced.contains_iff target).2 (Document.contains_iff.2 hparent)
      exact hplaced.trans (ih (hplaced.wellFormed hd) (Document.contains_iff.1 hlive))
    · exact hplaced

/-- A child that is refused is refused because of where it should go. -/
theorem stopped_placeAll {e : DocumentError} {children : List NodeId}
    (h : (placeAll target children d).stopped = some e) :
    e = .belowItself ∨ e = .belowDescendant := by
  induction children generalizing d with
  | nil => cases h
  | cons child rest ih =>
    have hplace : ∀ e', (d.place target child).stopped = some e' →
        e' = .belowItself ∨ e' = .belowDescendant := by
      intro e' he'
      unfold place at he'
      split at he'
      · cases he'
        exact Or.inl rfl
      · split at he'
        · cases he'
          exact Or.inr rfl
        · cases he'
    unfold placeAll Attempt.andThen at h
    split at h
    · exact ih h
    · next e' he' => exact hplace e (h ▸ he' ▸ rfl)

theorem exists_content?_of_container (h : d.container id = .ok ()) :
    ∃ c, d.content? id = some c ∧ c.isContainer = true := by
  unfold container get at h
  cases hc : d.content? id with
  | none => rw [hc] at h; cases h
  | some c =>
    rw [hc] at h
    cases hcontainer : c.isContainer with
    | true => exact ⟨c, rfl, hcontainer⟩
    | false => simp [Except.bind, hcontainer] at h

theorem mem_labels_of_container (h : d.container id = .ok ()) : id ∈ d.forest.labels := by
  obtain ⟨c, hc, -⟩ := exists_content?_of_container h
  exact contains_iff.1 (contains_of_content? hc)

/-- **Appending moves nodes and does nothing else, also when it stops half way.** -/
theorem rearranged_append (hd : d.WellFormed) (parent child : NodeId) :
    d.Rearranged (d.append parent child).state := by
  unfold append
  cases hcontainer : d.container parent with
  | error e => exact Rearranged.refl d
  | ok u =>
    split
    · exact Rearranged.refl d
    · exact rearranged_placeAll hd (mem_labels_of_container hcontainer) _

/-- A removal that goes through takes a live node out of the forest and leaves the records as
they are. -/
theorem exists_of_remove {d' : Document L} (h : d.remove id = .ok d') :
    d.contains id = true ∧ d'.forest = d.forest.prune id ∧ d'.records = d.records := by
  unfold remove get at h
  cases hcontent : d.content? id with
  | none => rw [hcontent] at h; cases h
  | some c =>
    rw [hcontent] at h
    cases h
    exact ⟨contains_of_content? hcontent, rfl, rfl⟩

theorem WellFormed.remove (h : d.WellFormed) {d' : Document L} (hd : d.remove id = .ok d') :
    d'.WellFormed := by
  obtain ⟨-, hforest, hrecords⟩ := exists_of_remove hd
  refine ⟨hforest ▸ h.distinct.prune id, fun other hother => ?_, hrecords ▸ h.proper⟩
  rw [hforest] at hother
  rw [hrecords]
  exact h.known other ((Forest.labels_prune_sublist id d.forest).subset hother)

/-! ### Emptying a fragment -/

/-- A node goes where it is told to, unless that is the node itself or below it. -/
theorem place_eq (hd : d.forest.Distinct) (hk : d.forest.below? child = some kids)
    (hne : target ≠ child) (hout : target ∉ kids.labels) :
    d.place target child =
      .done { d with forest := (d.forest.prune child).graft target (.tree child kids) } := by
  have hself : ¬ child = target := fun hc => hne hc.symm
  have habove : child ∉ d.ancestors target := by
    unfold ancestors
    cases htrail : d.forest.trail? target with
    | none => simpa using hself
    | some trail =>
      rw [Option.getD_some, Forest.mem_trail?_iff hd htrail]
      rintro ⟨below, hbelow, hmem⟩
      rw [hk, Option.some.injEq] at hbelow
      subst hbelow
      exact hmem.elim hne hout
  unfold place transfer
  rw [if_neg hself, if_neg habove, hk]

/-- **Moving the children of a node one by one is moving them all at once.** -/
theorem placeAll_children {x : NodeId} (hd : d.forest.Distinct)
    (hx : d.forest.below? x = some kids) (ht : target ∈ d.forest.labels) (hne : target ≠ x)
    (hout : target ∉ kids.labels) :
    ∃ f, placeAll target kids.roots d = .done { d with forest := f } ∧
      f.below? x = some .nil ∧ f.prune x = (d.forest.prune x).graft target kids := by
  induction kids generalizing d with
  | nil => exact ⟨d.forest, rfl, hx, (Forest.graft_nil _ _).symm⟩
  | node a inner rest _ ih =>
    obtain ⟨hxkids, hkids⟩ := hd.below? hx
    obtain ⟨haInner, haRest, -, -, -⟩ := Forest.distinct_node.1 hkids
    have hmema : a ∈ (Forest.node a inner rest).labels := by simp [Forest.labels]
    have ha : d.forest.below? a = some inner := by
      rw [Forest.below?_of_below? hd hx hmema, Forest.below?_node_self]
    simp only [Forest.labels, List.mem_cons, List.mem_append, not_or] at hout hxkids
    obtain ⟨hta, htInner, htRest⟩ := hout
    obtain ⟨hxa, hxInner, hxRest⟩ := hxkids
    have hxt : x ∉ (Forest.tree a inner).labels := by
      simp [Forest.tree, Forest.labels, hxa, hxInner]
    -- The first child moves, and the others are what is left below `x`.
    have hplace := place_eq hd ha hta htInner
    have hpruned : (d.forest.prune a).Distinct := hd.prune a
    have htpruned : target ∈ (d.forest.prune a).labels :=
      (Forest.mem_labels_prune hd ha).2 ⟨ht, hta, htInner⟩
    have hxpruned : x ∈ (d.forest.prune a).labels :=
      (Forest.mem_labels_prune hd ha).2 ⟨Forest.mem_labels_of_below?_eq_some hx, hxa, hxInner⟩
    have hmoved : (d.forest.prune a).below? x = some rest := by
      rw [Forest.below?_prune hd hxpruned, hx, Option.map_some, Forest.prune_node_self]
    have hrest : ((d.forest.prune a).graft target (.tree a inner)).below? x = some rest := by
      rw [Forest.below?_graft hpruned hxpruned hxt, hmoved, Option.map_some,
        if_neg fun hc => hne hc.symm, Forest.graft_of_not_mem htRest]
    have hdis : ∀ b ∈ (d.forest.prune a).labels, b ∉ (Forest.tree a inner).labels := by
      intro b hb
      obtain ⟨-, hba, hbInner⟩ := (Forest.mem_labels_prune hd ha).1 hb
      simp [Forest.tree, Forest.labels, hba, hbInner]
    have htree : (Forest.tree a inner).Distinct :=
      Forest.distinct_tree.2 ⟨haInner, (hd.below? ha).2⟩
    have hnext : ((d.forest.prune a).graft target (.tree a inner)).Distinct :=
      hpruned.graft htree hdis target
    have htnext : target ∈ ((d.forest.prune a).graft target (.tree a inner)).labels :=
      (Forest.mem_labels_graft hpruned htpruned).2 (Or.inl htpruned)
    obtain ⟨f, hplaced, hempty, hprune⟩ :=
      @ih { d with forest := (d.forest.prune a).graft target (.tree a inner) } hnext hrest htnext
        htRest
    refine ⟨f, ?_, hempty, ?_⟩
    · show (d.place target a).andThen (placeAll target rest.roots) = _
      rw [hplace, Attempt.done_andThen, hplaced]
    · rw [hprune]
      show (((d.forest.prune a).graft target (.tree a inner)).prune x).graft target rest = _
      rw [Forest.graft_prune hpruned hxt, Forest.prune_prune_of_below hd hx hmema,
        Forest.graft_graft]
      rfl

/-! ### Fragments that go into themselves -/

theorem stopped_place_of_above (h : child ∈ d.ancestors target) :
    (d.place target child).stopped ≠ none := by
  unfold place
  split
  · exact nofun
  · exact nofun

/-- A node takes along what is below it. -/
theorem below?_place (hd : d.WellFormed) (ht : target ∈ d.forest.labels)
    (hk : d.forest.below? child = some kids) (h : (d.place target child).stopped = none) :
    (d.place target child).state.forest.below? child = some kids := by
  have habove : child ∉ d.ancestors target := fun hc => stopped_place_of_above hc h
  obtain ⟨hne, hout⟩ := not_below_of_not_mem_ancestors hd ht hk habove
  have hstays : target ∈ (d.forest.prune child).labels :=
    (Forest.mem_labels_prune hd.distinct hk).2 ⟨ht, hne, hout⟩
  have hgone : child ∉ (d.forest.prune child).labels :=
    Forest.not_mem_labels_prune hd.distinct child
  rw [place_eq hd.distinct hk hne hout, Attempt.state_done]
  exact (Forest.below?_graft_of_mem_new (hd.distinct.prune child) hstays hgone).trans
    (Forest.below?_node_self kids .nil)

/-- What was placed below a node is not above it. -/
theorem ancestors_place (h : (d.place target child).stopped = none) :
    (d.place target child).state.ancestors target = d.ancestors target := by
  by_cases habove : child ∈ d.ancestors target
  · exact absurd h (stopped_place_of_above habove)
  · unfold place at h ⊢
    split
    · next hself => rw [if_pos hself] at h; cases h
    · rw [Attempt.state_done]
      unfold transfer ancestors at *
      cases hk : d.forest.below? child with
      | none => rfl
      | some kids =>
        simp only [Forest.trail?_graft]
        cases htrail : d.forest.trail? target with
        | none =>
          have hnone : (d.forest.prune child).trail? target = none :=
            Forest.trail?_eq_none_iff.2 fun hc =>
              Forest.trail?_eq_none_iff.1 htrail ((Forest.labels_prune_sublist _ _).subset hc)
          rw [hnone]
        | some trail =>
          rw [htrail, Option.getD_some] at habove
          rw [Forest.trail?_prune htrail habove]

/-- Several nodes are refused if one of them is above where they should go. -/
theorem stopped_placeAll_of_above {children : List NodeId} (hchild : child ∈ children)
    (h : child ∈ d.ancestors target) : (placeAll target children d).stopped ≠ none := by
  induction children generalizing d with
  | nil => exact absurd hchild List.not_mem_nil
  | cons first rest ih =>
    unfold placeAll Attempt.andThen
    split
    · next hstopped =>
      rcases List.mem_cons.1 hchild with rfl | hrest
      · exact absurd hstopped (stopped_place_of_above h)
      · exact ih hrest (by rw [ancestors_place hstopped]; exact h)
    · next e hstopped => rw [hstopped]; exact nofun

/-- Nodes below `x` that are placed below `x` stay below it. -/
theorem below?_placeAll_self {x : NodeId} {children : List NodeId} (hd : d.WellFormed)
    (hk : d.forest.below? x = some kids) (hchildren : children ⊆ kids.labels)
    (h : (placeAll x children d).stopped = none) :
    ∃ after, (placeAll x children d).state.forest.below? x = some after ∧
      after.labels.Perm kids.labels := by
  induction children generalizing d kids with
  | nil => exact ⟨kids, hk, List.Perm.refl _⟩
  | cons child rest ih =>
    obtain ⟨hxkids, hkids⟩ := hd.distinct.below? hk
    have hmem : child ∈ kids.labels := hchildren (List.mem_cons_self ..)
    obtain ⟨inner, hinner⟩ := Forest.exists_below? hmem
    have hchild : d.forest.below? child = some inner := by
      rw [Forest.below?_of_below? hd.distinct hk hmem, hinner]
    have hne : x ≠ child := fun hc => hxkids (hc ▸ hmem)
    have hout : x ∉ inner.labels := fun hc => hxkids (Forest.mem_labels_of_below? hinner hc)
    have hstays : x ∈ (d.forest.prune child).labels :=
      (Forest.mem_labels_prune hd.distinct hchild).2
        ⟨Forest.mem_labels_of_below?_eq_some hk, hne, hout⟩
    have hnew : x ∉ (Forest.tree child inner).labels := by
      simp [Forest.tree, Forest.labels, hne, hout]
    have hafter : ((d.forest.prune child).graft x (.tree child inner)).below? x =
        some (kids.prune child ++ .tree child inner) := by
      rw [Forest.below?_graft (hd.distinct.prune child) hstays hnew,
        Forest.below?_prune hd.distinct hstays, hk]
      simp
    have hperm : (kids.prune child ++ .tree child inner).labels.Perm kids.labels := by
      rw [Forest.labels_append]
      simpa [Forest.tree, Forest.labels] using (Forest.labels_prune hkids hinner).symm
    have hplaced := rearranged_place hd (Forest.mem_labels_of_below?_eq_some hk) child
    have hplace := place_eq hd.distinct hchild hne hout
    unfold placeAll at h ⊢
    rw [hplace, Attempt.done_andThen] at h ⊢
    rw [hplace, Attempt.state_done] at hplaced
    obtain ⟨after, hbelow, hsame⟩ := ih (hplaced.wellFormed hd) hafter
      (fun c hc => hperm.mem_iff.2 (hchildren (List.mem_cons_of_mem _ hc))) h
    exact ⟨after, hbelow, hsame.trans hperm⟩

/-! ### Appending, case by case -/

theorem container_of_content? {c : Content} (h : d.content? id = some c)
    (hc : c.isContainer = true) : d.container id = .ok () := by
  simp [container, get_of_content? h, hc, Except.bind]

theorem container_of_not_container {c : Content} (h : d.content? id = some c)
    (hc : c.isContainer = false) : d.container id = .error (.notElement id) := by
  simp [container, get_of_content? h, hc, Except.bind]

theorem children_of_below? (h : d.forest.below? id = some kids) : d.children id = kids.roots := by
  simp [children, h]

/-- Appending a fragment moves its children. -/
theorem append_fragment (htarget : d.container target = .ok ())
    (hchild : d.content? child = some .fragment) (hk : d.forest.below? child = some kids) :
    d.append target child = placeAll target kids.roots d := by
  unfold append moved
  rw [htarget, get_of_content? hchild]
  simp [Except.bind, Except.map, children_of_below? hk]

/-- Appending any other node moves the node itself. -/
theorem append_of_ne_fragment (htarget : d.container target = .ok ()) {c : Content}
    (hchild : d.content? child = some c) (hc : c ≠ .fragment) :
    d.append target child = placeAll target [child] d := by
  unfold append moved
  rw [htarget, get_of_content? hchild]
  simp [Except.bind, Except.map, hc]

/-- Nothing is appended to a node that takes no children, or that is gone. -/
theorem append_of_container_error {e : DocumentError} (h : d.container target = .error e)
    (child : NodeId) : d.append target child = .stop d e := by
  unfold append
  rw [h]
  rfl

theorem remove_of_content? {c : Content} (h : d.content? id = some c)
    (hk : d.forest.below? id = some kids) :
    d.remove id =
      .ok { d with
        forest := d.forest.prune id
        vacant := d.vacant ++ (kids.labelsUp ++ [id]).map d.seat } := by
  simp [remove, get_of_content? h, Except.map, leaving, hk]

end Document

end LiveMarkup
