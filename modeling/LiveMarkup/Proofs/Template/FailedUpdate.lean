/-
What a failed update leaves.

An update adopts the new values first and then writes its parts one after the other, so it is
not undone when a part turns out to be stuck: the values are the new ones, and the parts
before that one have been written.  But this is all.  The template and the document are what
a successful update of just those parts would have made of them (`StoppedAt`), and the part
that failed and all behind it are as they were, with their nodes.
-/
import LiveMarkup.Proofs.Part.Stopping
import LiveMarkup.Proofs.Template.Footprint
import LiveMarkup.Proofs.Template.Lifecycle

namespace LiveMarkup

variable {L H : Type}

namespace Template

variable {t : Template L H} {d : Document L} {values : List (Value H)} {tree : Rendered L H}
  {chosen : Registry → Nat → Bool} {e : TemplateError}

/-- An update of `s` for `values` that failed at the part `p` and left `s'`. -/
structure StoppedAt (chosen : Registry → Nat → Bool) (tree : Rendered L H) (place : Nat) (p : Part)
    (values : List (Value H)) (s s' : Template L H × Document L) : Prop where
  first : Part.FirstStuck (chosen tree.registry) tree.parts s.2 place p
  /-- It has done what an update of the parts before `p` does, and such an update succeeds. -/
  before : s.1.updateWith (fun registry => Part.before place (chosen registry)) s.2 values =
    .done s'
  values : s'.1.values = values
  previous : s'.1.previous = some s.1.values
  /-- The part and those behind it keep what they are bound to, and so do those left out. -/
  parts : ∀ i, (i < place → chosen tree.registry i = false) → s'.1.parts[i]? = tree.parts[i]?
  /-- Only nodes of parts that were written can be different. -/
  nodes : s.2.SameOn {id | ∀ i < place, ∀ q, tree.parts[i]? = some q →
    chosen tree.registry i = true → q.node ≠ id} s'.2

theorem Rooted.fitting (h : Rooted (t, d)) {markup : String}
    (hstage : t.stage = .rendered markup tree) : Part.Fitting tree.parts d where
  wellFormed := h.reachable.wellFormed
  fits p hp := h.fits p (parts_of_stage hstage ▸ hp)

/-- An update is a write of the parts that it picks. -/
theorem updateWith_of_stage {markup : String} (hstage : t.stage = .rendered markup tree)
    (chosen : Registry → Nat → Bool) (d : Document L) (values : List (Value H)) :
    t.updateWith chosen d values =
      ((Part.updateChosen tree.context values (chosen tree.registry) 0 tree.parts d).mapError
        .document).map fun written => (t.adopting markup tree values written.1, written.2) := by
  unfold Template.updateWith
  rw [hstage]
  rfl

/-- An update that comes to a stuck part. -/
theorem Rooted.stoppedAt_of_firstStuck (h : Rooted (t, d)) {markup : String}
    (hstage : t.stage = .rendered markup tree) {place : Nat} {p : Part}
    (hfirst : Part.FirstStuck (chosen tree.registry) tree.parts d place p)
    (values : List (Value H)) :
    (t.updateWith chosen d values).stopped = some (.document (.unknownNode p.node)) ∧
      StoppedAt chosen tree place p values (t, d) (t.updateWith chosen d values).state := by
  have hshifted : Part.FirstStuck (fun i => chosen tree.registry (0 + i)) tree.parts d place p := by
    simpa using hfirst
  obtain ⟨s, hstop, hdone⟩ :=
    Part.updateChosen_of_firstStuck (h.fitting hstage) tree.context values hshifted
  rw [Nat.zero_add] at hdone
  have hall : t.updateWith chosen d values =
      .stop (t.adopting markup tree values s.1, s.2) (.document (.unknownNode p.node)) := by
    rw [updateWith_of_stage hstage, hstop]
    rfl
  have hbefore : t.updateWith (fun registry => Part.before place (chosen registry)) d values =
      .done (t.adopting markup tree values s.1, s.2) := by
    rw [updateWith_of_stage hstage, hdone]
    rfl
  obtain rfl : (Part.updateChosen tree.context values
      (Part.before place (chosen tree.registry)) 0 tree.parts d).state = s := by
    rw [hdone]
    rfl
  rw [hall]
  refine ⟨rfl, hfirst, hbefore, rfl, rfl, fun i hi => ?_, ?_⟩
  · refine Part.getElem?_updateChosen_of_not_picked tree.context values 0 tree.parts d ?_
    simpa [Part.before, imp_iff_not_or, or_comm] using hi
  · refine Part.sameOn_updateChosen tree.context values 0 tree.parts d fun i q hq hpicked hmem => ?_
    simp only [Part.before, Nat.zero_add, Bool.and_eq_true, decide_eq_true_eq] at hpicked
    exact hmem i hpicked.2 q hq hpicked.1 rfl

/-- **An update goes through, or it stops at the first stuck part.** -/
theorem Rooted.updateWith_cases (h : Rooted (t, d)) {markup : String}
    (hstage : t.stage = .rendered markup tree) (chosen : Registry → Nat → Bool)
    (values : List (Value H)) :
    ((t.updateWith chosen d values).stopped = none ∧ ∀ i q, tree.parts[i]? = some q →
        chosen tree.registry i = true → q.stuck d = false) ∨
      ∃ place p,
        (t.updateWith chosen d values).stopped = some (.document (.unknownNode p.node)) ∧
        StoppedAt chosen tree place p values (t, d) (t.updateWith chosen d values).state := by
  rcases Part.free_or_exists_firstStuck (chosen tree.registry) tree.parts d with
    hfree | ⟨place, p, hfirst⟩
  · refine Or.inl ⟨?_, hfree⟩
    have hnone := Part.stopped_updateChosen_of_free (h.fitting hstage) tree.context values 0
      (by simpa using hfree)
    rw [updateWith_of_stage hstage, Attempt.eq_done hnone]
    rfl
  · exact Or.inr ⟨place, p, h.stoppedAt_of_firstStuck hstage hfirst values⟩

/-- A template stays rendered. -/
theorem isRendered_later {s s' : Template L H × Document L} (hlater : Later s s')
    (hs : s.1.isRendered = true) : s'.1.isRendered = true := by
  have hstep : ∀ (t : Template L H) (d : Document L) (chosen : Registry → Nat → Bool)
      (values : List (Value H)), t.isRendered = true →
        (t.updateWith chosen d values).state.1.isRendered = true := by
    intro t d chosen values ht
    obtain ⟨stage, hstate, -, hrendered⟩ := updateWith_of_isRendered ht d chosen values
    rw [hstate]
    exact hrendered
  induction hlater with
  | refl => exact hs
  | update _ values ih => exact hstep _ _ _ values ih
  | updateSlots _ values changed ih => exact hstep _ _ _ values ih
  | elsewhere _ _ ih => exact ih

/-- **A failed update has written the parts before the one it failed at, and nothing else.**
Whatever was done since the render, an update of either kind fails only where the first part
that it picks and that has something to write to a node that is gone stands. -/
theorem stoppedAt_update (hd : d.Reachable) {context : Context L H} {mount : Option NodeId}
    {s : Template L H × Document L} (hrender : t.render d context mount = .done s)
    {tₙ : Template L H} {dₙ : Document L} (hlater : Later s (tₙ, dₙ)) (values : List (Value H))
    (changed : List Nat) :
    ∃ tree, tₙ.rendered? = some tree ∧
      (∀ e, (tₙ.update dₙ values).stopped = some e →
        ∃ place p, e = .document (.unknownNode p.node) ∧
          StoppedAt (fun _ _ => true) tree place p values (tₙ, dₙ) (tₙ.update dₙ values).state) ∧
      ∀ e, (tₙ.updateSlots dₙ values changed).stopped = some e →
        ∃ place p, e = .document (.unknownNode p.node) ∧
          StoppedAt (fun registry => registry.concerns changed) tree place p values (tₙ, dₙ)
            (tₙ.updateSlots dₙ values changed).state := by
  have hrooted := (rooted_render hd hrender).later hlater
  obtain ⟨markup, tree, hstage⟩ := exists_stage_of_isRendered
    (isRendered_later hlater (isRendered_of_render hrender).2)
  have hstopped : ∀ chosen e, (tₙ.updateWith chosen dₙ values).stopped = some e →
      ∃ place p, e = .document (.unknownNode p.node) ∧
        StoppedAt chosen tree place p values (tₙ, dₙ) (tₙ.updateWith chosen dₙ values).state := by
    intro chosen e he
    rcases hrooted.updateWith_cases hstage chosen values with ⟨hnone, -⟩ | ⟨place, p, hstop, hat⟩
    · rw [hnone] at he
      cases he
    · rw [hstop] at he
      exact ⟨place, p, (Option.some.inj he).symm, hat⟩
  refine ⟨tree, ?_, hstopped _, hstopped _⟩
  unfold rendered?
  rw [hstage]
  rfl

/-- The greeting with a button, after its name was taken out. -/
def sampleNameless : Template Nat Nat × Document Nat :=
  let s := (sampleWaiting.render samplePage ⟨⟨0⟩, id⟩ none).state
  (s.1, (s.2.remove ⟨3⟩).toOption.getD s.2)

theorem render_sampleWaiting : sampleWaiting.render samplePage ⟨⟨0⟩, id⟩ none =
    .done (sampleWaiting.render samplePage ⟨⟨0⟩, id⟩ none).state :=
  Attempt.eq_done (by decide +kernel)

theorem later_sampleNameless :
    Later (sampleWaiting.render samplePage ⟨⟨0⟩, id⟩ none).state sampleNameless := by
  obtain ⟨s, hs⟩ : ∃ s, s = (sampleWaiting.render samplePage ⟨⟨0⟩, id⟩ none).state := ⟨_, rfl⟩
  have hlive : (s.2.content? ⟨3⟩).isSome = true := by
    rw [hs]
    decide +kernel
  obtain ⟨c, hc⟩ := Option.isSome_iff_exists.1 hlive
  obtain ⟨d', hremove⟩ : ∃ d', s.2.remove ⟨3⟩ = .ok d' := by
    unfold Document.remove
    rw [Document.get_of_content? hc]
    exact ⟨_, rfl⟩
  unfold sampleNameless
  rw [← hs]
  simp only [hremove, Except.toOption, Option.getD_some]
  exact .elsewhere .refl (Document.Operation.remove hremove).operations

/-- An update comes to the name, which is gone.  By then there is a new listener, and the
element is bound to nothing any longer. -/
theorem state_update_sampleNameless :
    ∃ s, sampleWaiting.render samplePage ⟨⟨0⟩, id⟩ none = .done s ∧ Later s sampleNameless ∧
      (sampleNameless.1.update sampleNameless.2 [.handler 8, .text "Bob"]).stopped =
        some (.document (.unknownNode ⟨3⟩)) ∧
      let s' := (sampleNameless.1.update sampleNameless.2 [.handler 8, .text "Bob"]).state
      s'.1.values ≠ sampleNameless.1.values ∧ s'.1.previous ≠ sampleNameless.1.previous ∧
        s'.1.parts ≠ sampleNameless.1.parts ∧
        s'.2.registrationsAt ⟨2⟩ ≠ sampleNameless.2.registrationsAt ⟨2⟩ := by
  refine ⟨_, render_sampleWaiting, later_sampleNameless, by decide +kernel, ?_⟩
  refine ⟨?_, ?_, by decide +kernel, by decide +kernel⟩
  · intro hsame
    exact absurd (congrArg (fun values => values.map Value.handler?) hsame) (by decide +kernel)
  · intro hsame
    exact absurd (congrArg Option.isSome hsame) (by decide +kernel)

/-- The element is what such an update has written. -/
theorem stoppedAt_update_sampleNameless :
    ∃ tree place p, sampleNameless.1.rendered? = some tree ∧ p.node = ⟨3⟩ ∧
      StoppedAt (fun _ _ => true) tree place p [.handler 8, .text "Bob"] sampleNameless
        (sampleNameless.1.update sampleNameless.2 [.handler 8, .text "Bob"]).state := by
  obtain ⟨tree, htree, hfull, -⟩ := stoppedAt_update reachable_samplePage render_sampleWaiting
    later_sampleNameless [.handler 8, .text "Bob"] []
  obtain ⟨place, p, hnode, hstopped⟩ := hfull (.document (.unknownNode ⟨3⟩)) (by decide +kernel)
  simp only [TemplateError.document.injEq, DocumentError.unknownNode.injEq] at hnode
  exact ⟨tree, place, p, htree, hnode.symm, hstopped⟩

end Template

end LiveMarkup
