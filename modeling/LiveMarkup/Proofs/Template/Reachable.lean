/-
Templates and reachable documents.

A template changes a document through the operations on documents and in no other way,
whether it goes through or stops half way.  So what is reachable stays so under everything a
template does, and theorems about reachable documents speak of documents with any number of
templates in them.
-/
import LiveMarkup.Proofs.Document.Operations
import LiveMarkup.Proofs.Part.Keeping
import LiveMarkup.Template

namespace LiveMarkup

variable {L H : Type}

namespace Document

variable {d₀ d : Document L}

theorem keptByWriting_operations (values : List (Value H)) (parts : List Part)
    (d₀ : Document L) : KeptByWriting values parts d₀.Operations where
  setText _ h hd := h.trans (Operation.setText hd).operations
  setAttribute _ _ h hd := h.trans (Operation.setAttribute hd).operations
  removeAttribute _ _ h hd := h.trans (Operation.removeAttribute hd).operations
  setProperty _ _ _ h hd := h.trans (Operation.setProperty hd).operations
  addListener _ h hd := h.trans (Operation.addListener hd).operations

theorem operations_materialize (d : Document L) (t : Template L H) :
    d.Operations (t.materialize d).1.2 := by
  unfold Template.materialize
  simp only
  split
  · exact Operations.refl d
  · exact Operations.refl d
  · exact (Operation.parse d _).operations
  · exact (Operation.parse d _).operations

theorem Operations.bind (h : d₀.Operations d) (context : Context L H) (t : Template L H)
    (fragment : NodeId) : d₀.Operations (Template.bind context t fragment d).state.2 := by
  unfold Template.bind
  split
  · exact h
  · exact (keptByWriting_operations t.values _ d₀).updateChosen h context _ _ _ fun _ hp => hp

theorem Operations.discard (h : d₀.Operations d) (t : Template L H) (markup : String)
    (fragment : NodeId) (e : TemplateError) :
    d₀.Operations (t.discard markup fragment d e).state.2 := by
  unfold Template.discard
  simp only
  split
  · next d' hd => exact h.trans (Operation.remove hd).operations
  · exact h

theorem Operations.attach (h : d₀.Operations d) (mount fragment : NodeId) :
    d₀.Operations (Template.attach mount fragment d).state := by
  unfold Template.attach
  refine KeptByWriting.andThen (h.trans (Operation.append d _ _).operations) fun d₁ h₁ => ?_
  exact KeptByWriting.ofExcept h₁ fun d' hd => h₁.trans (Operation.remove hd).operations

/-- **All that rendering does are operations, also when it fails.** -/
theorem operations_render (d : Document L) (t : Template L H) (context : Context L H)
    (mount : Option NodeId) : d.Operations (t.render d context mount).state.2 := by
  unfold Template.render
  split
  · exact Operations.refl d
  · have hmade := operations_materialize d t
    split
    · next state e heq =>
      rw [heq] at hmade
      exact hmade
    · next t₁ d₁ fragment heq =>
      rw [heq] at hmade
      have hbound := hmade.bind context t₁ fragment
      simp only
      split
      · exact hbound.discard t₁ _ fragment _
      · have hattached := hbound.attach (mount.getD context.host) fragment
        split
        · exact hattached
        · exact hattached

/-- Rendering keeps documents reachable. -/
theorem Reachable.render (h : d.Reachable) (t : Template L H) (context : Context L H)
    (mount : Option NodeId) : (t.render d context mount).state.2.Reachable :=
  h.operations (operations_render d t context mount)

/-- **So is all that updating does.** -/
theorem operations_updateWith (d : Document L) (chosen : Registry → Nat → Bool)
    (t : Template L H) (values : List (Value H)) :
    d.Operations (t.updateWith chosen d values).state.2 := by
  unfold Template.updateWith
  split
  · exact (keptByWriting_operations values _ d).updateChosen (Operations.refl d) _ _ _ _
      fun _ hp => hp
  · exact Operations.refl d

end Document

end LiveMarkup
