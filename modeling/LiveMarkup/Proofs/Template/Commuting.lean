/-
Templates side by side.

Several templates are rendered in one document, next to each other or one inside the tree of
another, and nodes are moved and removed.  None of this makes two templates write the same
node, since the parts of a template are found among nodes that were made for it.  So what one
of them writes is nothing that the other one reads, and it does not matter which of them is
updated first (`eitherOrder_of_sideBySide`).

There is one way in which it can happen all the same.  A template can be made into a fragment
long before it is rendered, and other templates can be rendered into the fragment meanwhile.
Its own render then looks for markers in what they wrote.  If it comes upon something that reads
as one, both templates have a part at that node, and the later update wins.  So a render has to
overlook what is written there (`Overlooks`), and as long as it does, the templates stay
separate; it is also the only thing that keeps them so (`Separate.render_iff`).
-/
import LiveMarkup.Proofs.Part.Locality
import LiveMarkup.Proofs.Template.Footprint
import LiveMarkup.Proofs.Template.Lifecycle

namespace LiveMarkup

namespace Template

variable {L H : Type} {t t' : Template L H} {d d' : Document L} {S : Set NodeId}
  {context : Context L H} {mount : Option NodeId}

/-- The nodes of the parts. -/
def nodes (t : Template L H) : Set NodeId := {id | ∃ p ∈ t.parts, p.node = id}

theorem nodes_of_not_isRendered (ht : t.isRendered = false) : t.nodes = ∅ := by
  unfold isRendered at ht
  unfold nodes parts
  rw [Option.isSome_eq_false_iff, Option.isNone_iff_eq_none] at ht
  rw [ht]
  simp

/-! ### One update -/

/-- **An update does the same wherever the nodes of the template are the same.** -/
theorem alike_updateWith_of_sameOn (h : d.SameOn S d') (ht : t.nodes ⊆ S)
    (chosen : Registry → Nat → Bool) (values : List (Value H)) :
    (t.updateWith chosen d values).Alike (Along (Document.SameOn S))
      (t.updateWith chosen d' values) := by
  unfold updateWith
  split
  · next markup tree hstage =>
    have hparts : ∀ p ∈ tree.parts, p.node ∈ S := by
      intro p hp
      rw [← parts_of_stage hstage] at hp
      exact ht ⟨p, hp, rfl⟩
    have hwritten := Part.alike_updateChosen_of_sameOn tree.context values h hparts
      (chosen tree.registry) 0
    refine (hwritten.mapError TemplateError.document).map fun x x' halong => ?_
    exact ⟨congrArg (fun parts => Template.mk _ _ _ _ (.rendered markup { tree with parts }))
      halong.1, halong.2⟩
  · exact ⟨rfl, rfl, h⟩

/-- **It leaves all other nodes as they are.** -/
theorem sameOn_updateWith (hS : S ⊆ (t.nodes)ᶜ) (chosen : Registry → Nat → Bool) (d : Document L)
    (values : List (Value H)) : d.SameOn S (t.updateWith chosen d values).state.2 := by
  unfold updateWith
  split
  · next markup tree hstage =>
    have hparts : ∀ p ∈ tree.parts, p.node ∉ S := by
      intro p hp hc
      rw [← parts_of_stage hstage] at hp
      exact hS hc ⟨p, hp, rfl⟩
    exact (Document.keptByWriting_sameOn hparts values d).updateChosen (.refl S d) tree.context _ 0
      tree.parts fun _ hp => hp
  · exact .refl S d

/-- The parts stay at their nodes. -/
theorem nodes_updateWith_subset (chosen : Registry → Nat → Bool) (t : Template L H)
    (d : Document L) (values : List (Value H)) :
    (t.updateWith chosen d values).state.1.nodes ⊆ t.nodes := by
  rintro id ⟨q, hq, rfl⟩
  obtain ⟨p, hp, hleft⟩ := exists_leftOf_of_mem_parts chosen t d values q hq
  exact ⟨p, hp, hleft.node.symm⟩

/-! ### Two updates -/

/-- Updates of two templates that can be made in either order.  Each of them ends as it would
without the other, with the same result and the same template, and in the end the document is
the same. -/
structure EitherOrder (t t' : Template L H) (d : Document L) (values values' : List (Value H)) :
    Prop where
  document : (t'.update (t.update d values).state.2 values').state.2 =
    (t.update (t'.update d values').state.2 values).state.2
  stopped : (t.update (t'.update d values').state.2 values).stopped = (t.update d values).stopped
  template : (t.update (t'.update d values').state.2 values).state.1 = (t.update d values).state.1
  stopped' : (t'.update (t.update d values).state.2 values').stopped =
    (t'.update d values').stopped
  template' : (t'.update (t.update d values).state.2 values').state.1 =
    (t'.update d values').state.1

/-- An update after an update at other nodes. -/
theorem alike_updateWith_updateWith (hdis : t'.nodes ⊆ (t.nodes)ᶜ)
    (chosen chosen' : Registry → Nat → Bool) (d : Document L) (values values' : List (Value H)) :
    (t'.updateWith chosen' d values').Alike (Along (Document.SameOn (t.nodes)ᶜ))
      (t'.updateWith chosen' (t.updateWith chosen d values).state.2 values') :=
  alike_updateWith_of_sameOn (sameOn_updateWith (Set.Subset.refl _) chosen d values) hdis chosen'
    values'

/-- What one of two updates did is still there after the other. -/
theorem sameOn_updateWith_updateWith (hdis : t'.nodes ⊆ (t.nodes)ᶜ)
    (chosen chosen' : Registry → Nat → Bool) (d : Document L) (values values' : List (Value H)) :
    (t'.updateWith chosen' (t.updateWith chosen d values).state.2 values').state.2.SameOn
      (t.nodes)ᶜ (t.updateWith chosen (t'.updateWith chosen' d values').state.2 values).state.2 :=
  (alike_updateWith_updateWith hdis chosen chosen' d values values').state.2.symm.trans
    (sameOn_updateWith (Set.Subset.refl _) chosen _ values)

/-- **Updates at different nodes can be made in either order.** -/
theorem eitherOrder_of_disjoint (hdis : Disjoint t.nodes t'.nodes) (d : Document L)
    (values values' : List (Value H)) : EitherOrder t t' d values values' := by
  have hright : t'.nodes ⊆ (t.nodes)ᶜ := Set.subset_compl_iff_disjoint_left.2 hdis
  have hleft : t.nodes ⊆ (t'.nodes)ᶜ := Set.subset_compl_iff_disjoint_right.2 hdis
  have hfirst := alike_updateWith_updateWith hleft (fun _ _ => true) (fun _ _ => true) d values'
    values
  have hsecond := alike_updateWith_updateWith hright (fun _ _ => true) (fun _ _ => true) d values
    values'
  refine ⟨Document.SameOn.eq fun id => ?_, hfirst.stopped, hfirst.state.1, hsecond.stopped,
    hsecond.state.1⟩
  -- Every node is outside of one of the two sets.
  by_cases hid : id ∈ t.nodes
  · exact ⟨(t'.nodes)ᶜ, hleft hid, sameOn_updateWith_updateWith hleft _ _ d values' values⟩
  · exact ⟨(t.nodes)ᶜ, hid, (sameOn_updateWith_updateWith hright _ _ d values values').symm⟩

/-! ### What a render finds -/

theorem mem_nodes_mounted {nodes : List NodeId} {host id : NodeId} :
    id ∈ (t.mounted context host (d.partsOf nodes)).nodes ↔
      id ∈ nodes ∧ Part.of? id (d.contentAt id) ≠ none := by
  have hparts : (t.mounted context host (d.partsOf nodes)).parts =
      (d.partsOf nodes).map (Part.kept t.values) := rfl
  unfold Template.nodes
  rw [hparts, Set.mem_ofPred_eq]
  constructor
  · rintro ⟨q, hq, rfl⟩
    obtain ⟨p, hp, rfl⟩ := List.mem_map.1 hq
    obtain ⟨hnode, hpart⟩ := Document.node_mem_of_mem_partsOf hp
    rw [Part.node_kept]
    exact ⟨hnode, by rw [hpart]; exact Option.some_ne_none p⟩
  · rintro ⟨hid, hpart⟩
    obtain ⟨p, hp⟩ := Option.ne_none_iff_exists'.1 hpart
    refine ⟨p.kept t.values, List.mem_map_of_mem (Document.mem_partsOf.2 ⟨id, hid, hp⟩), ?_⟩
    rw [Part.node_kept, Part.node_of? hp]

/-- **The parts of a template are at those nodes of its fragment that show a marker when it is
rendered.**  If it had no fragment before, these are new nodes. -/
theorem nodes_render (hd : d.WellFormed) {s : Template L H × Document L}
    (h : t.render d context mount = .done s) :
    (∃ markup x, t.stage = .materialized markup x ∧
      ∀ id, id ∈ s.1.nodes ↔ id ∈ d.below x ∧ Part.of? id (d.contentAt id) ≠ none) ∨
    (∀ markup x, t.stage ≠ .materialized markup x) ∧
      ∀ id ∈ s.1.nodes, d.records.size ≤ id.index := by
  obtain ⟨t₁, d₁, x, kids, hmade, -, hk, -, -, rfl⟩ := exists_of_render hd h
  rcases materialize_cases (isRendered_of_render h).1 d with
    ⟨markup, x', hstage, heq⟩ | ⟨hstage, t₂, markup, -, heq⟩
  · rw [hmade] at heq
    cases heq
    have hbelow : d.below x = kids.labels := by
      unfold Document.below
      rw [hk]
      rfl
    refine Or.inl ⟨markup, x, hstage, fun id => ?_⟩
    rw [hbelow]
    exact mem_nodes_mounted
  · rw [hmade] at heq
    cases heq
    rw [Document.below?_nextId_parseFragment hd, Option.some.injEq] at hk
    subst hk
    refine Or.inr ⟨hstage, fun id hid => ?_⟩
    have hnew := Document.mem_sprouts_of_mem_parsed (mem_nodes_mounted.1 hid).1
    exact (Document.mem_labels_sprouts.1 hnew).1

/-! ### Separate templates -/

/-- Two templates whose parts are at different nodes of the document. -/
structure Separate (t t' : Template L H) (d : Document L) : Prop where
  reachable : d.Reachable
  known : ∀ id ∈ t.nodes, id.index < d.records.size
  known' : ∀ id ∈ t'.nodes, id.index < d.records.size
  disjoint : Disjoint t.nodes t'.nodes

theorem Separate.symm (h : Separate t t' d) : Separate t' t d :=
  ⟨h.reachable, h.known', h.known, h.disjoint.symm⟩

/-- Whatever happens to the document, nodes stay different nodes. -/
theorem Separate.operations (h : Separate t t' d) (hops : d.Operations d') :
    Separate t t' d' where
  reachable := h.reachable.operations hops
  known id hid := Nat.lt_of_lt_of_le (h.known id hid) (h.reachable.steady hops).size
  known' id hid := Nat.lt_of_lt_of_le (h.known' id hid) (h.reachable.steady hops).size
  disjoint := h.disjoint

theorem Separate.of_nodes_subset (h : Separate t t' d) {t₁ : Template L H}
    (hnodes : t₁.nodes ⊆ t.nodes) : Separate t₁ t' d where
  reachable := h.reachable
  known id hid := h.known id (hnodes hid)
  known' := h.known'
  disjoint := h.disjoint.mono_left hnodes

/-- A render of `t` finds no part where `other` has one: if `t` was made into a fragment before,
then nothing that is below it at a node of `other` reads as a marker. -/
def Overlooks (t other : Template L H) (d : Document L) : Prop :=
  ∀ markup x, t.stage = .materialized markup x →
    ∀ id ∈ other.nodes, id ∈ d.below x → Part.of? id (d.contentAt id) = none

/-- **A template that is rendered stays separate from another if it overlooks what the other has
written, and only then.** -/
theorem Separate.render_iff (h : Separate t t' d) {s : Template L H × Document L}
    (hrender : t.render d context mount = .done s) : Separate s.1 t' s.2 ↔ t.Overlooks t' d := by
  have hwf := h.reachable.wellFormed
  have hops := Document.operations_render d t context mount
  rw [hrender, Attempt.state_done] at hops
  have hrooted := rooted_render h.reachable hrender
  have hknown : ∀ id ∈ s.1.nodes, id.index < s.2.records.size := by
    rintro id ⟨p, hp, rfl⟩
    exact hrooted.known p hp
  have hsteady := h.reachable.steady hops
  have hseparate : Disjoint s.1.nodes t'.nodes → Separate s.1 t' s.2 := fun hdis =>
    ⟨hrooted.reachable, hknown, fun id hid => Nat.lt_of_lt_of_le (h.known' id hid) hsteady.size,
      hdis⟩
  rcases nodes_render hwf hrender with ⟨markup, x, hstage, hnodes⟩ | ⟨hstage, hnew⟩
  · constructor
    · intro hafter markup' x' hstage' id hid hbelow
      rw [hstage, Stage.materialized.injEq] at hstage'
      obtain ⟨-, rfl⟩ := hstage'
      by_contra hpart
      exact Set.disjoint_left.1 hafter.disjoint ((hnodes id).2 ⟨hbelow, hpart⟩) hid
    · intro hoverlooks
      refine hseparate (Set.disjoint_left.2 fun id hid hid' => ?_)
      obtain ⟨hbelow, hpart⟩ := (hnodes id).1 hid
      exact hpart (hoverlooks markup x hstage id hid' hbelow)
  · refine iff_of_true (hseparate (Set.disjoint_left.2 fun id hid hid' => ?_)) ?_
    · have hold := h.known' id hid'
      have hle := hnew id hid
      omega
    · exact fun markup x hc => absurd hc (hstage markup x)

/-! ### Every run -/

/-- What is asked of one of two templates leaves the other alone: a render that goes through
overlooks it, and whatever else happens to the document is done by operations. -/
def Request.Heeds (r : Request L H) (t other : Template L H) (d : Document L) : Prop :=
  match r with
  | .render context mount =>
    (t.render d context mount).stopped = none → t.Overlooks other d
  | .elsewhere change => d.Operations (change d)
  | _ => True

/-- Two templates and their document as they come to be: the templates are made, and then any
requests are made to the one or the other.  Other templates and other changes of the document
come as operations. -/
inductive SideBySide : Template L H → Template L H → Document L → Prop
  | made {d : Document L} (hd : d.Reachable) (strings strings' : List String)
      (values values' : List (Value H)) :
      SideBySide (ofStrings strings values) (ofStrings strings' values') d
  | swap {t t' : Template L H} {d : Document L} (h : SideBySide t t' d) : SideBySide t' t d
  | request {t t' : Template L H} {d : Document L} (h : SideBySide t t' d) (r : Request L H)
      (hr : r.Heeds t t' d) : SideBySide (r.run (t, d)).state.1 t' (r.run (t, d)).state.2

/-- All that a request does to the document are operations. -/
theorem Request.operations_run {r : Request L H} (hr : r.Heeds t t' d) :
    d.Operations (r.run (t, d)).state.2 := by
  cases r with
  | compile => exact .refl d
  | materialize =>
    rw [state_run_materialize]
    exact Document.operations_materialize d t
  | render context mount => exact Document.operations_render d t context mount
  | update values => exact Document.operations_updateWith d _ t values
  | updateSlots values changed => exact Document.operations_updateWith d _ t values
  | elsewhere change => exact hr

/-- A template has its parts from the render; nothing else that it is asked for gives it any. -/
theorem Request.nodes_run {r : Request L H}
    (hr : r.isRender = false ∨ (r.run (t, d)).stopped ≠ none) :
    (r.run (t, d)).state.1.nodes ⊆ t.nodes := by
  cases hrendered : t.isRendered with
  | true =>
    cases hvalues : r.values? with
    | some values =>
      obtain ⟨chosen, hrun⟩ := exists_updateWith (s := (t, d)) hvalues
      rw [hrun]
      exact nodes_updateWith_subset chosen t d values
    | none =>
      cases hmakes : r.makesTree with
      | true =>
        rw [run_of_isRendered hrendered hmakes]
        exact Set.Subset.refl _
      | false =>
        cases r with
        | compile =>
          obtain ⟨markup, tree, hstage⟩ := exists_stage_of_isRendered hrendered
          show t.compile.1.nodes ⊆ t.nodes
          rw [compile_eq_of_markup? (congrArg Stage.markup? hstage)]
        | elsewhere change => exact Set.Subset.refl _
        | materialize | render => cases hmakes
        | update | updateSlots => cases hvalues
  | false =>
    have hnot : (r.run (t, d)).state.1.isRendered = false := by
      rw [isRendered_run, hrendered, Bool.false_or, Bool.and_eq_false_iff]
      exact hr.imp_right fun hstopped => by simpa [Option.isSome_iff_ne_none] using hstopped
    rw [nodes_of_not_isRendered hnot]
    exact Set.empty_subset _

theorem Separate.run (h : Separate t t' d) {r : Request L H} (hr : r.Heeds t t' d) :
    Separate (r.run (t, d)).state.1 t' (r.run (t, d)).state.2 := by
  have hafter := h.operations (Request.operations_run hr)
  by_cases hrender : r.isRender = true ∧ (r.run (t, d)).stopped = none
  · obtain ⟨hrender, hstopped⟩ := hrender
    cases r with
    | render context mount => exact (h.render_iff (Attempt.eq_done hstopped)).2 (hr hstopped)
    | compile | materialize | update | updateSlots | elsewhere => cases hrender
  · refine hafter.of_nodes_subset (Request.nodes_run ?_)
    rw [not_and_or, Bool.not_eq_true] at hrender
    exact hrender

/-- **Templates side by side stay separate.** -/
theorem SideBySide.separate (h : SideBySide t t' d) : Separate t t' d := by
  induction h with
  | made hd strings strings' values values' =>
    have hnone : ∀ (strings : List String) (values : List (Value H)),
        (ofStrings strings values : Template L H).nodes = ∅ := fun _ _ =>
      nodes_of_not_isRendered rfl
    refine ⟨hd, ?_, ?_, ?_⟩
    · rw [hnone]
      exact fun _ hid => hid.elim
    · rw [hnone]
      exact fun _ hid => hid.elim
    · rw [hnone]
      exact Set.empty_disjoint _
  | swap _ ih => exact ih.symm
  | request _ r hr ih => exact ih.run hr

/-- **Updates of different templates can be made in either order.**  Whatever was done with the
templates and the document before, and whether the updates go through or stop, the document,
the results and the templates are the same in the end. -/
theorem eitherOrder_of_sideBySide (h : SideBySide t t' d) (values values' : List (Value H)) :
    EitherOrder t t' d values values' :=
  eitherOrder_of_disjoint h.separate.disjoint d values values'

/-- A text and a place for something else. -/
def sampleFrame : Template Nat Nat :=
  ofStrings ["<p>", "</p><section></section>"] [.text "x"]

/-- Something to put there. -/
def sampleLabel : Template Nat Nat := ofStrings ["<b>", "</b>"] [.text "y"]

/-- The frame is made into a fragment, -/
def sampleOpened : Template Nat Nat × Document Nat :=
  (Request.materialize.run (sampleFrame, samplePage)).state

/-- the label is rendered into it, -/
def sampleFilled : Template Nat Nat × Document Nat :=
  (sampleLabel.render sampleOpened.2 ⟨⟨0⟩, id⟩ (some ⟨4⟩)).state

/-- and only then the frame is rendered. -/
def sampleFramed : Template Nat Nat × Document Nat :=
  (sampleOpened.1.render sampleFilled.2 ⟨⟨0⟩, id⟩ none).state

/-- The text of the frame is taken out. -/
def sampleCut : Document Nat := (sampleFramed.2.remove ⟨3⟩).toOption.getD sampleFramed.2

theorem sideBySide_sampleFramed : SideBySide sampleFramed.1 sampleFilled.1 sampleCut := by
  have hopened : SideBySide sampleOpened.1 sampleLabel sampleOpened.2 :=
    (SideBySide.made reachable_samplePage _ _ _ _).request .materialize trivial
  have hfilled : SideBySide sampleFilled.1 sampleOpened.1 sampleFilled.2 :=
    hopened.swap.request (.render ⟨⟨0⟩, id⟩ (some ⟨4⟩)) fun _ => nofun
  have hoverlooks : sampleOpened.1.Overlooks sampleFilled.1 sampleFilled.2 := by
    have hnone : ∀ p ∈ sampleFilled.1.parts,
        Part.of? p.node (sampleFilled.2.contentAt p.node) = none := by decide +kernel
    rintro markup x - id ⟨p, hp, rfl⟩ -
    exact hnone p hp
  have hframed : SideBySide sampleFramed.1 sampleFilled.1 sampleFramed.2 :=
    hfilled.swap.request (.render ⟨⟨0⟩, id⟩ none) fun _ => hoverlooks
  refine hframed.request (.elsewhere fun d => (d.remove ⟨3⟩).toOption.getD d) ?_
  show sampleFramed.2.Operations ((sampleFramed.2.remove ⟨3⟩).toOption.getD sampleFramed.2)
  cases hremove : sampleFramed.2.remove ⟨3⟩ with
  | error e => exact .refl _
  | ok d' => exact (Document.Operation.remove hremove).operations

/-- The update of the frame stops at its text, which is gone, and that of the label goes
through, whichever comes first. -/
theorem eitherOrder_of_sideBySide_sampleFramed :
    (sampleFramed.1.update sampleCut [.text "a"]).stopped = some (.document (.unknownNode ⟨3⟩)) ∧
      (sampleFilled.1.update sampleCut [.text "b"]).stopped = none ∧
      EitherOrder sampleFramed.1 sampleFilled.1 sampleCut [.text "a"] [.text "b"] :=
  ⟨by decide +kernel, by decide +kernel,
    eitherOrder_of_sideBySide sideBySide_sampleFramed [.text "a"] [.text "b"]⟩

end Template

end LiveMarkup
