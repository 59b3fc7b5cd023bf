/-
All that can happen to a document.

A document is changed by its own operations and by templates, in any order, any number of
times (`Change`).  Operations that are refused as a whole change nothing and are left out,
those that may stop half way are in with the state they reached.  A template may come to any
of its steps in any state.

Whatever happens, the document stays reachable, and so what is known of reachable documents
is known of it, above all that it is a forest (`isForest_of_changes`).
-/
import LiveMarkup.Proofs.Document.Kinship
import LiveMarkup.Proofs.Template.FirstRender
import LiveMarkup.Proofs.Template.Reachable

namespace LiveMarkup

namespace Document

variable {L : Type}

/-- One change of a document, by an operation on it or by a template with handlers of
type `H`. -/
inductive Change (H : Type) : Document L → Document L → Prop
  | operation {d d' : Document L} (hop : d.Operation d') : Change H d d'
  | materialize (d : Document L) (t : Template L H) : Change H d (t.materialize d).1.2
  | render (d : Document L) (t : Template L H) (context : Context L H) (mount : Option NodeId) :
      Change H d (t.render d context mount).state.2
  | update (d : Document L) (t : Template L H) (values : List (Value H)) :
      Change H d (t.update d values).state.2
  | updateSlots (d : Document L) (t : Template L H) (values : List (Value H))
      (changed : List Nat) : Change H d (t.updateSlots d values changed).state.2

variable {H : Type} {d d' : Document L}

/-- Whatever happens to a document happens by operations on it. -/
theorem Change.operations (h : Change H d d') : d.Operations d' := by
  cases h with
  | operation hop => exact hop.operations
  | materialize t => exact operations_materialize d t
  | render t context mount => exact operations_render d t context mount
  | update t values => exact operations_updateWith d _ t values
  | updateSlots t values changed => exact operations_updateWith d _ t values

theorem Reachable.changes (h : d.Reachable) (hchanges : Relation.ReflTransGen (Change H) d d') :
    d'.Reachable := by
  induction hchanges with
  | refl => exact h
  | tail _ hchange ih => exact ih.operations hchange.operations

/-- **Whatever happens to a document, its nodes form trees.** -/
theorem isForest_of_changes (h : Relation.ReflTransGen (Change H) ({} : Document L) d) :
    d.IsForest :=
  (Reachable.empty.changes h).isForest

/-- A page is made, a greeting is rendered on it, and then an append is refused. -/
theorem isForest_of_changes_sampleGreeting :
    (((Template.sampleGreeting.render Template.samplePage ⟨⟨0⟩, id⟩ none).state.2.append
      ⟨2⟩ ⟨0⟩).state).IsForest := by
  have hpage : Change Nat ({} : Document Nat) Template.samplePage :=
    .operation (.create {} ⟨OrderedMap.distinct_empty, OrderedMap.distinct_empty⟩)
  have hgreeting := Change.render Template.samplePage Template.sampleGreeting ⟨⟨0⟩, id⟩ none
  exact isForest_of_changes (((Relation.ReflTransGen.single hpage).tail hgreeting).tail
    (.operation (.append _ ⟨2⟩ ⟨0⟩)))

end Document

end LiveMarkup
