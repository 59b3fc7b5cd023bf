/-
Where writing stops.

Of a part that was found once, only one thing can be wrong later: its node is gone.  A part
that has nothing left to write does not notice (`writes`), and any other is stuck and says
so before it has changed anything (`update_of_stuck`).

So writing several parts stops at the first stuck one among those that are picked, with the
ones before it written as if nobody had picked the others (`updateChosen_of_firstStuck`).
-/
import Mathlib.Data.Nat.Find
import LiveMarkup.Proofs.Document.Reachable
import LiveMarkup.Proofs.Part.Locality
import LiveMarkup.Proofs.Part.Skipping

namespace LiveMarkup

variable {L H : Type}

namespace Part

/-- Whether there is anything to write.  An element has nothing more once all its bound
attributes are listeners. -/
def writes : Part → Bool
  | content _ => true
  | attributes p => !p.bindings.entries.isEmpty

/-- There is something to write, but the node is gone. -/
def stuck (d : Document L) (p : Part) : Bool :=
  p.writes && !d.contains p.node

variable {context : Context L H} {values : List (Value H)} {parts : List Part} {p : Part}
  {d : Document L}

theorem stuck_eq_true_iff : p.stuck d = true ↔ p.writes = true ∧ d.contains p.node = false := by
  simp [stuck]

/-! ### One part -/

/-- A part with nothing to write does not even look at its node. -/
theorem update_of_not_writes (hp : p.writes = false) (context : Context L H)
    (values : List (Value H)) (d : Document L) : p.update context values d = .done (p, d) := by
  cases p with
  | content p => cases hp
  | attributes p =>
    obtain ⟨element, ⟨entries⟩⟩ := p
    cases entries with
    | nil => rfl
    | cons entry rest => cases hp

theorem stopped_updateBindings_of_gone (context : Context L H) (values : List (Value H))
    {id : NodeId} (h : d.content? id = none) {bindings : List (String × Binding)}
    (hbindings : bindings ≠ []) :
    (AttributePart.updateBindings context id values bindings d).stopped =
      some (.unknownNode id) := by
  have helement : d.element id = .error (.unknownNode id) := by simp [Document.element, h]
  have hget : d.get id = .error (.unknownNode id) := by simp [Document.get, h]
  cases bindings with
  | nil => exact absurd rfl hbindings
  | cons entry rest =>
    obtain ⟨name, b⟩ := entry
    cases hresolve : b.resolve values with
    | text s =>
      have hwrite : AttributePart.write id name b s d = .stop d (.unknownNode id) := by
        simp [AttributePart.write, Document.setProperty, Document.setAttribute,
          Document.modifyElement, helement, Except.map]
      simp only [AttributePart.updateBindings, hresolve, hwrite]
      rfl
    | event handler =>
      have hconvert : AttributePart.convert id name (context.listener handler) d =
          .stop d (.unknownNode id) := by
        simp [AttributePart.convert, Document.addListener, hget, Except.map]
      simp only [AttributePart.updateBindings, hresolve, hconvert]
      rfl

/-- **A stuck part stops before it has changed anything.** -/
theorem update_of_stuck (hp : p.stuck d = true) (context : Context L H)
    (values : List (Value H)) : p.update context values d = .stop (p, d) (.unknownNode p.node) := by
  obtain ⟨hwrites, hgone⟩ := stuck_eq_true_iff.1 hp
  have hnode : d.content? p.node = none := Document.content?_of_not_contains hgone
  have hstate := state_update_of_gone context values hnode
  have hstopped : (p.update context values d).stopped = some (.unknownNode p.node) := by
    cases p with
    | content p =>
      have hp : d.content? p.node = none := hnode
      simp [update, ContentPart.update, Document.setText, hp, node]
    | attributes p =>
      have hbindings : p.bindings.entries ≠ [] := by simpa [writes] using hwrites
      exact stopped_updateBindings_of_gone context values hnode hbindings
  calc p.update context values d
      = ⟨(p.update context values d).state, (p.update context values d).stopped⟩ := rfl
    _ = .stop (p, d) (.unknownNode p.node) := by rw [hstate, hstopped]; rfl

/-- What is left of the nodes of the parts is of the kind that the parts write. -/
structure Fitting (parts : List Part) (d : Document L) : Prop where
  wellFormed : d.WellFormed
  fits : ∀ p ∈ parts, ∀ c, d.content? p.node = some c → p.Fits c

/-- **Any other part goes through**, and the parts behind it find their nodes there, gone, and
of the same kind as before. -/
theorem Fitting.update_of_free {rest : List Part} (h : Fitting (p :: rest) d)
    (hp : p.stuck d = false) (context : Context L H) (values : List (Value H)) :
    (p.update context values d).stopped = none ∧
      (p.update context values d).state.2.contains = d.contains ∧
      Fitting rest (p.update context values d).state.2 := by
  have hrest : Fitting rest d := ⟨h.wellFormed, fun q hq => h.fits q (List.mem_cons_of_mem _ hq)⟩
  cases hlive : d.contains p.node with
  | false =>
    have hwrites : p.writes = false := by
      cases hw : p.writes with
      | false => rfl
      | true => rw [stuck_eq_true_iff.2 ⟨hw, hlive⟩] at hp; cases hp
    rw [update_of_not_writes hwrites]
    exact ⟨rfl, rfl, hrest⟩
  | true =>
    obtain ⟨c, hc⟩ := h.wellFormed.exists_content? hlive
    have hfits := h.fits p (List.mem_cons_self ..) c hc
    rw [update_eq context values hc hfits]
    refine ⟨rfl, funext fun id => Document.contains_put _, ?_, fun q hq c' hc' => ?_⟩
    · exact h.wellFormed.put
        (proper_rewrite (h.wellFormed.proper_content? hc) values values p) _ _
    · by_cases hsame : q.node = p.node
      · -- Two parts at one node are of one kind, which writing does not change.
        have hq' := hrest.fits q hq c (hsame ▸ hc)
        rw [hsame, Attempt.state_done, Document.content?_put_self hc] at hc'
        obtain rfl := Option.some.inj hc'
        cases p <;> cases q <;> cases c <;> simp_all [Fits, rewrite]
      · rw [Attempt.state_done, Document.content?_put_ne hsame] at hc'
        exact hrest.fits q hq c' hc'

/-! ### Several parts -/

/-- The first stuck part among those that are picked. -/
structure FirstStuck (chosen : Nat → Bool) (parts : List Part) (d : Document L) (place : Nat)
    (p : Part) : Prop where
  here : parts[place]? = some p
  picked : chosen place = true
  stuck : p.stuck d = true
  first : ∀ i < place, ∀ q, parts[i]? = some q → chosen i = true → q.stuck d = false

/-- Nothing that is picked is stuck, or there is a first. -/
theorem free_or_exists_firstStuck (chosen : Nat → Bool) (parts : List Part) (d : Document L) :
    (∀ i q, parts[i]? = some q → chosen i = true → q.stuck d = false) ∨
      ∃ place p, FirstStuck chosen parts d place p := by
  classical
  by_cases hany : ∃ i, ∃ q, parts[i]? = some q ∧ chosen i = true ∧ q.stuck d = true
  · obtain ⟨q, hhere, hpicked, hstuck⟩ := Nat.find_spec hany
    refine Or.inr ⟨Nat.find hany, q, hhere, hpicked, hstuck, fun i hi q' hq' hpicked' => ?_⟩
    have hnot := Nat.find_min hany hi
    by_contra hstuck'
    exact hnot ⟨q', hq', hpicked', by simpa using hstuck'⟩
  · refine Or.inl fun i q hq hpicked => ?_
    by_contra hstuck
    exact hany ⟨i, q, hq, hpicked, by simpa using hstuck⟩

theorem stuck_congr {d' : Document L} (h : d'.contains = d.contains) (p : Part) :
    p.stuck d' = p.stuck d := by
  unfold stuck
  rw [h]

/-- One step of writing, when the first part is not stuck or is not picked. -/
theorem updateChosen_cons_of_free {rest : List Part} {chosen : Nat → Bool} {position : Nat}
    (h : Fitting (p :: rest) d) (hp : chosen position = true → p.stuck d = false)
    (context : Context L H) (values : List (Value H)) :
    ∃ p' d', d'.contains = d.contains ∧ Fitting rest d' ∧
      ∀ chosen' : Nat → Bool, chosen' position = chosen position →
        updateChosen context values chosen' position (p :: rest) d =
          (updateChosen context values chosen' (position + 1) rest d').map
            fun (parts, d) => (p' :: parts, d) := by
  cases hchosen : chosen position with
  | true =>
    obtain ⟨hstopped, hcontains, hrest⟩ := h.update_of_free (hp hchosen) context values
    refine ⟨(p.update context values d).state.1, (p.update context values d).state.2, hcontains,
      hrest, fun chosen' hchosen' => ?_⟩
    simp only [updateChosen, hchosen', if_true, hstopped]
  | false =>
    refine ⟨p, d, rfl, ⟨h.wellFormed, fun q hq => h.fits q (List.mem_cons_of_mem _ hq)⟩,
      fun chosen' hchosen' => ?_⟩
    simp only [updateChosen, hchosen', Bool.false_eq_true, if_false, Attempt.stopped_done,
      Attempt.state_done]

/-- **Writing goes through if nothing that is picked is stuck.** -/
theorem stopped_updateChosen_of_free (h : Fitting parts d) (context : Context L H)
    (values : List (Value H)) {chosen : Nat → Bool} (position : Nat)
    (hfree : ∀ i q, parts[i]? = some q → chosen (position + i) = true → q.stuck d = false) :
    (updateChosen context values chosen position parts d).stopped = none := by
  induction parts generalizing d position with
  | nil => rfl
  | cons p rest ih =>
    have hhere : chosen position = true → p.stuck d = false := hfree 0 p rfl
    obtain ⟨p', d', hcontains, hrest, hstep⟩ :=
      updateChosen_cons_of_free h hhere context values
    rw [hstep chosen rfl]
    refine ih hrest (position + 1) fun i q hq hpicked => ?_
    rw [stuck_congr hcontains]
    exact hfree (i + 1) q hq (by rwa [Nat.add_comm i 1, ← Nat.add_assoc])

/-- Nothing is written if nothing is picked. -/
theorem updateChosen_of_none_picked {chosen : Nat → Bool} {position : Nat}
    (context : Context L H) (values : List (Value H)) (parts : List Part) (d : Document L)
    (hnone : ∀ i, chosen (position + i) = false) :
    updateChosen context values chosen position parts d = .done (parts, d) := by
  induction parts generalizing position with
  | nil => rfl
  | cons p rest ih =>
    have hhere : chosen position = false := hnone 0
    have hbehind : ∀ i, chosen (position + 1 + i) = false := fun i => by
      rw [Nat.add_assoc]
      exact hnone (1 + i)
    simp only [updateChosen, hhere, Bool.false_eq_true, if_false, Attempt.stopped_done,
      Attempt.state_done, ih hbehind, Attempt.done_map]

/-- Of what is picked only what stands before a place. -/
def before (place : Nat) (chosen : Nat → Bool) (i : Nat) : Bool :=
  chosen i && decide (i < place)

/-- **Writing stops at the first stuck part, and it is as if only the parts before it had been
picked.** -/
theorem updateChosen_of_firstStuck {chosen : Nat → Bool} {position place : Nat}
    (h : Fitting parts d) (context : Context L H) (values : List (Value H))
    (hfirst : FirstStuck (fun i => chosen (position + i)) parts d place p) :
    ∃ s, updateChosen context values chosen position parts d = .stop s (.unknownNode p.node) ∧
      updateChosen context values (before (position + place) chosen) position parts d =
        .done s := by
  induction parts generalizing d position place with
  | nil => exact absurd hfirst.here (by simp)
  | cons q rest ih =>
    cases place with
    | zero =>
      obtain rfl : q = p := Option.some.inj hfirst.here
      have hpicked : chosen position = true := hfirst.picked
      refine ⟨(q :: rest, d), ?_, ?_⟩
      · simp only [updateChosen, hpicked, if_true, update_of_stuck hfirst.stuck,
          Attempt.stopped_stop, Attempt.state_stop]
      · exact updateChosen_of_none_picked context values _ d fun i => by simp [before]
    | succ place =>
      have hhere : chosen position = true → q.stuck d = false :=
        hfirst.first 0 (Nat.succ_pos place) q rfl
      obtain ⟨p', d', hcontains, hrest, hstep⟩ :=
        updateChosen_cons_of_free h hhere context values
      have hbehind : FirstStuck (fun i => chosen (position + 1 + i)) rest d' place p := by
        have hshift : ∀ i, position + 1 + i = position + (i + 1) := fun i => by omega
        refine ⟨hfirst.here, ?_, ?_, fun i hi q hq hpicked => ?_⟩
        · simp only [hshift]
          exact hfirst.picked
        · rw [stuck_congr hcontains]
          exact hfirst.stuck
        · rw [stuck_congr hcontains]
          simp only [hshift] at hpicked
          exact hfirst.first (i + 1) (Nat.succ_lt_succ hi) q hq hpicked
      obtain ⟨s, hstop, hdone⟩ := ih hrest hbehind
      have hplace : position + (place + 1) = position + 1 + place := by omega
      refine ⟨(p' :: s.1, s.2), ?_, ?_⟩
      · rw [hstep chosen rfl, hstop]
        rfl
      · rw [hplace, hstep _ (by simp [before]; omega), hdone]
        rfl

/-! ### What is not picked -/

/-- A part that is not picked stays as it is. -/
theorem getElem?_updateChosen_of_not_picked (context : Context L H) (values : List (Value H))
    {chosen : Nat → Bool} (position : Nat) {i : Nat} (parts : List Part) (d : Document L)
    (hnot : chosen (position + i) = false) :
    (updateChosen context values chosen position parts d).state.1[i]? = parts[i]? := by
  induction parts generalizing d position i with
  | nil => rfl
  | cons p rest ih =>
    cases i with
    | zero =>
      have hhere : chosen position = false := hnot
      simp only [updateChosen, hhere, Bool.false_eq_true, if_false, Attempt.stopped_done,
        Attempt.state_done, Attempt.map, List.getElem?_cons_zero]
    | succ i =>
      have hbehind : chosen (position + 1 + i) = false := by
        rwa [Nat.add_assoc, Nat.add_comm 1 i]
      unfold updateChosen
      simp only
      split
      · rfl
      · exact ih (position + 1) _ hbehind

/-- Nodes of which no part is picked stay as they are. -/
theorem sameOn_updateChosen (context : Context L H) (values : List (Value H))
    {chosen : Nat → Bool} (position : Nat) {S : Set NodeId} (parts : List Part) (d : Document L)
    (hS : ∀ i q, parts[i]? = some q → chosen (position + i) = true → q.node ∉ S) :
    d.SameOn S (updateChosen context values chosen position parts d).state.2 := by
  induction parts generalizing d position with
  | nil => exact .refl S d
  | cons p rest ih =>
    have hhere : d.SameOn S (if chosen position then p.update context values d
        else Attempt.done (p, d)).state.2 := by
      split
      · next hpicked =>
        have hp : ∀ q ∈ [p], q.node ∉ S := by
          intro q hq
          rw [List.mem_singleton] at hq
          exact hq ▸ hS 0 p rfl hpicked
        exact (Document.keptByWriting_sameOn hp values d).updatePart (.refl S d) context
          (List.mem_cons_self ..)
      · exact .refl S d
    have hbehind : ∀ i q, rest[i]? = some q → chosen (position + 1 + i) = true → q.node ∉ S := by
      intro i q hq hpicked
      exact hS (i + 1) q hq (by rwa [Nat.add_comm i 1, ← Nat.add_assoc])
    unfold updateChosen
    simp only
    split
    · exact hhere
    · exact hhere.trans (ih (position + 1) _ hbehind)

end Part

end LiveMarkup
