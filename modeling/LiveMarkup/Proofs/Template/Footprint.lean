/-
What an update touches.

By the time of an update a document may have become anything: nodes of the template were
removed or moved, attributes taken out, other templates rendered below.  The parts still
name nodes that are gone or of the kind they had (`Rooted`), because no operation makes
something else of a node, and the template itself does not give a part another node.

That is all it takes for an update to stay within the parts, whether it goes through or
stops at a node that is gone.
-/
import LiveMarkup.Proofs.Part.Dependence
import LiveMarkup.Proofs.Part.Footprint
import LiveMarkup.Proofs.Template.Conversion

namespace LiveMarkup

variable {L H : Type}

namespace Template

variable {t : Template L H} {d d' : Document L} {context : Context L H}

/-- A template and a document later on: the template was updated, in whole or in part and
possibly with errors, and any operations were made on the document in between. -/
inductive Later (s : Template L H × Document L) : Template L H × Document L → Prop
  | refl : Later s s
  | update {t : Template L H} {d : Document L} (h : Later s (t, d)) (values : List (Value H)) :
      Later s (t.update d values).state
  | updateSlots {t : Template L H} {d : Document L} (h : Later s (t, d))
      (values : List (Value H)) (changed : List Nat) :
      Later s (t.updateSlots d values changed).state
  | elsewhere {t : Template L H} {d d' : Document L} (h : Later s (t, d))
      (hops : d.Operations d') : Later s (t, d')

/-- The nodes of the parts are those of the document, and what is left of them is of the kind
that the parts write. -/
structure Rooted (s : Template L H × Document L) : Prop where
  reachable : s.2.Reachable
  known : ∀ p ∈ s.1.parts, p.node.index < s.2.records.size
  fits : ∀ p ∈ s.1.parts, ∀ c, s.2.content? p.node = some c → p.Fits c

/-- Operations do not make something else of a node. -/
theorem Rooted.operations (h : Rooted (t, d)) (hops : d.Operations d') : Rooted (t, d') where
  reachable := h.reachable.operations hops
  known p hp := Nat.lt_of_lt_of_le (h.known p hp) (h.reachable.steady hops).size
  fits := by
    intro p hp c' hc'
    have hwf := h.reachable.wellFormed
    have hsteady := h.reachable.steady hops
    have hlive := hsteady.gone _ (h.known p hp) (Document.contains_of_content? hc')
    obtain ⟨c, hc⟩ := hwf.exists_content? hlive
    exact (Part.fits_iff_of_bare_eq (hsteady.bare_content? hwf hc hc')).2 (h.fits p hp c hc)

/-- What the template did to its parts does not matter either. -/
theorem Rooted.of_parts (h : Rooted (t, d)) {t' : Template L H}
    (hparts : ∀ q ∈ t'.parts, ∃ p ∈ t.parts, q.LeftOf p) : Rooted (t', d) where
  reachable := h.reachable
  known := by
    intro q hq
    obtain ⟨p, hp, hleft⟩ := hparts q hq
    exact hleft.node ▸ h.known p hp
  fits := by
    intro q hq c hc
    obtain ⟨p, hp, hleft⟩ := hparts q hq
    exact (hleft.fits_iff c).2 (h.fits p hp c (hleft.node ▸ hc))

theorem exists_leftOf_of_mem_parts (chosen : Registry → Nat → Bool) (t : Template L H)
    (d : Document L) (values : List (Value H)) :
    ∀ q ∈ (t.updateWith chosen d values).state.1.parts, ∃ p ∈ t.parts, q.LeftOf p := by
  unfold updateWith
  split
  · next markup tree hstage =>
    rw [parts_of_stage hstage]
    exact Part.exists_leftOf_of_mem_updateChosen tree.context values _ 0 tree.parts d
  · exact fun q hq => ⟨q, hq, .refl q⟩

theorem Rooted.updateWith (h : Rooted (t, d)) (chosen : Registry → Nat → Bool)
    (values : List (Value H)) : Rooted (t.updateWith chosen d values).state :=
  (h.operations (Document.operations_updateWith d chosen t values)).of_parts
    (exists_leftOf_of_mem_parts chosen t d values)

/-- The parts of a template that was just rendered. -/
theorem rooted_render (hd : d.Reachable) {mount : Option NodeId} {s : Template L H × Document L}
    (hrender : t.render d context mount = .done s) : Rooted s := by
  obtain ⟨parts, -, hfollowing, -⟩ := following_render hd hrender
  have hparts := hfollowing.parts_eq
  refine ⟨hfollowing.reachable, ?_, ?_⟩
  · rw [hparts, List.forall_mem_map]
    intro p hp
    rw [Part.node_remaining]
    exact hfollowing.known p hp
  · rw [hparts, List.forall_mem_map]
    intro p hp c hc
    rw [Part.node_remaining] at hc
    rcases hfollowing.present with hgone | hfits
    · rw [hgone p hp] at hc
      cases hc
    · obtain ⟨c', hc', hfit⟩ := hfits p hp
      rw [hc, Option.some.injEq] at hc'
      exact (Part.fits_remaining _).2 (hc' ▸ hfit)

/-- **And so they are ever after.** -/
theorem Rooted.later {s s' : Template L H × Document L} (h : Rooted s) (hlater : Later s s') :
    Rooted s' := by
  induction hlater with
  | refl => exact h
  | update _ values ih => exact ih.updateWith _ values
  | updateSlots _ values changed ih => exact ih.updateWith _ values
  | elsewhere _ hops ih => exact ih.operations hops

theorem Rooted.within (h : Rooted (t, d)) (chosen : Registry → Nat → Bool)
    (values : List (Value H)) : d.Within t.parts (t.updateWith chosen d values).state.2 := by
  have hkept := Document.keptByWriting_within values h.reachable.wellFormed h.fits
  unfold Template.updateWith
  split
  · next markup tree hstage =>
    exact hkept.updateChosen (.refl t.parts d) tree.context _ 0 tree.parts
      fun p hp => parts_of_stage hstage ▸ hp
  · exact .refl t.parts d

/-- **An update touches nothing but what depends on slots.**  Whatever was done since the
render, and whether the update goes through or stops, all nodes stay where they are and what
they are, and only texts with markers, bound attributes, the properties of the bracketed
ones, and the listeners of elements with bound attributes can be different afterwards. -/
theorem within_update {d : Document L} (hd : d.Reachable) {t : Template L H}
    {context : Context L H} {mount : Option NodeId} {s : Template L H × Document L}
    (hrender : t.render d context mount = .done s) {tₙ : Template L H} {dₙ : Document L}
    (hlater : Later s (tₙ, dₙ)) (values : List (Value H)) (changed : List Nat) :
    dₙ.Within tₙ.parts (tₙ.update dₙ values).state.2 ∧
      dₙ.Within tₙ.parts (tₙ.updateSlots dₙ values changed).state.2 := by
  have hrooted := (rooted_render hd hrender).later hlater
  exact ⟨hrooted.within _ values, hrooted.within _ values⟩

/-- The name of the greeting is gone when the update comes to it.  It stops there, and the
paragraph has its new listener and nothing else. -/
theorem within_update_sampleWaiting :
    ∃ s d', sampleWaiting.render samplePage ⟨⟨0⟩, id⟩ none = .done s ∧
      s.2.remove ⟨3⟩ = .ok d' ∧
      (s.1.update d' [.handler 8, .text "Bob"]).stopped = some (.document (.unknownNode ⟨3⟩)) ∧
      (s.1.update d' [.handler 8, .text "Bob"]).state.2.registrationsAt ⟨2⟩ = [⟨"click", 8⟩] ∧
      d'.Within s.1.parts (s.1.update d' [.handler 8, .text "Bob"]).state.2 := by
  obtain ⟨s, hs⟩ : ∃ s, s = (sampleWaiting.render samplePage ⟨⟨0⟩, id⟩ none).state := ⟨_, rfl⟩
  have hrender : sampleWaiting.render samplePage ⟨⟨0⟩, id⟩ none = .done s := by
    rw [hs]
    exact Attempt.eq_done (by decide +kernel)
  obtain ⟨d', hremove⟩ : ∃ d', s.2.remove ⟨3⟩ = .ok d' := by
    have hlive : (s.2.content? ⟨3⟩).isSome = true := by
      rw [hs]
      decide +kernel
    obtain ⟨c, hc⟩ := Option.isSome_iff_exists.1 hlive
    unfold Document.remove
    rw [Document.get_of_content? hc]
    exact ⟨_, rfl⟩
  have hd' : (s.2.remove ⟨3⟩).toOption.getD s.2 = d' := by
    rw [hremove]
    rfl
  have hlater : Later s (s.1, d') :=
    .elsewhere .refl (Document.Operation.remove hremove).operations
  refine ⟨s, d', hrender, hremove, ?_, ?_,
    (within_update reachable_samplePage hrender hlater [.handler 8, .text "Bob"] []).1⟩
  · rw [← hd', hs]
    decide +kernel
  · rw [← hd', hs]
    decide +kernel

end Template

end LiveMarkup
