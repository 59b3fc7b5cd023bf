/-
What writing depends on.

A part looks values up under the slots that it reads and nowhere else, so two lists of values
that agree there are written alike, whatever the document is and however far writing gets
(`update_congr`, `updateChosen_congr`).

Writing may leave less of a part than there was.  But it makes no part of another node or of
another kind, and no part that reads more (`LeftOf`).
-/
import LiveMarkup.Proofs.Marker
import LiveMarkup.Proofs.Part.Conversion

namespace LiveMarkup

variable {L H : Type} {values values' : List (Value H)}

/-! ### Values at the slots that are read -/

/-- The values of these slots are the same. -/
def AgreeAt (slots : List Nat) (values values' : List (Value H)) : Prop :=
  ∀ index ∈ slots, values'[index]? = values[index]?

theorem AgreeAt.mono {slots slots' : List Nat} (h : AgreeAt slots values values')
    (hslots : slots' ⊆ slots) : AgreeAt slots' values values' :=
  fun index hindex => h index (hslots hindex)

namespace Binding

variable {b : Binding}

theorem resolve_congr (hb : b.indices = Marker.replaced b.base)
    (h : AgreeAt b.indices values values') : b.resolve values' = b.resolve values := by
  have hlooked : ∀ values : List (Value H), b.handler? values =
      (b.indices.map fun index => values[index]?).findSome? fun v => v.bind Value.handler? := by
    intro values
    rw [List.findSome?_map]
    rfl
  have hhandler : b.handler? values' = b.handler? values := by
    rw [hlooked, hlooked, List.map_congr_left h]
  have htext : Marker.substitute b.base (shown values') = Marker.substitute b.base (shown values) :=
    Marker.substitute_congr fun index hindex => by
      unfold shown
      rw [h index (hb ▸ hindex)]
  unfold resolve
  rw [hhandler, htext]

end Binding

namespace AttributePart

theorem updateBindings_congr (context : Context L H) (element : NodeId)
    (bindings : List (String × Binding)) (d : Document L)
    (h : ∀ entry ∈ bindings, entry.2.resolve values' = entry.2.resolve values) :
    updateBindings context element values' bindings d =
      updateBindings context element values bindings d := by
  induction bindings generalizing d with
  | nil => rfl
  | cons entry rest ih =>
    obtain ⟨name, b⟩ := entry
    obtain ⟨hfirst, hrest⟩ := List.forall_mem_cons.1 h
    have hall : ∀ d : Document L, updateBindings context element values' rest d =
        updateBindings context element values rest d := fun d => ih d hrest
    simp only [updateBindings, hfirst, hall]

/-- Some attributes may be bound no longer, but no others are. -/
theorem updateBindings_sublist (context : Context L H) (element : NodeId)
    (values : List (Value H)) (bindings : List (String × Binding)) (d : Document L) :
    (updateBindings context element values bindings d).state.1.Sublist bindings := by
  induction bindings generalizing d with
  | nil => exact List.Sublist.refl _
  | cons entry rest ih =>
    obtain ⟨name, b⟩ := entry
    unfold updateBindings
    cases b.resolve values with
    | text s =>
      simp only
      split
      · exact List.Sublist.refl _
      · exact (ih _).cons_cons _
    | event handler =>
      simp only
      split
      · exact List.Sublist.refl _
      · exact (ih _).cons _

end AttributePart

namespace Part

/-- **A part is written alike for values that agree on the slots that it reads.** -/
theorem update_congr (context : Context L H) {p : Part} (hp : p.Proper)
    (h : AgreeAt p.indices values values') (d : Document L) :
    p.update context values' d = p.update context values d := by
  cases p with
  | content p =>
    have hindices : (Part.content p).indices = Marker.replaced p.base := hp
    have hrender : p.render values' = p.render values := by
      refine Marker.substitute_congr fun index hindex => ?_
      unfold ContentPart.shown
      rw [h index (hindices ▸ hindex)]
    unfold update ContentPart.update
    simp only [hrender]
  | attributes p =>
    have hresolve : ∀ entry ∈ p.bindings.entries,
        entry.2.resolve values' = entry.2.resolve values := fun entry hentry =>
      Binding.resolve_congr (hp.2 entry hentry)
        (h.mono fun index hindex => List.mem_flatMap.2 ⟨entry, hentry, hindex⟩)
    unfold update AttributePart.update
    simp only [AttributePart.updateBindings_congr context p.element _ d hresolve]

/-- **So are several parts, if the same ones are picked.** -/
theorem updateChosen_congr (context : Context L H) {chosen chosen' : Nat → Bool}
    (hchosen : ∀ position, chosen' position = chosen position) {parts : List Part}
    (hparts : ∀ p ∈ parts, p.Proper ∧ AgreeAt p.indices values values') (position : Nat)
    (d : Document L) :
    updateChosen context values' chosen' position parts d =
      updateChosen context values chosen position parts d := by
  induction parts generalizing position d with
  | nil => rfl
  | cons p rest ih =>
    obtain ⟨⟨hproper, hagree⟩, hrest⟩ := List.forall_mem_cons.1 hparts
    have hall : ∀ (position : Nat) (d : Document L),
        updateChosen context values' chosen' position rest d =
          updateChosen context values chosen position rest d := fun position d =>
      ih hrest position d
    simp only [updateChosen, hchosen position, update_congr context hproper hagree d, hall]

/-! ### What is left of a part -/

/-- The same text, or the same element with some of its bound attributes. -/
inductive LeftOf : Part → Part → Prop
  | content (p : ContentPart) : LeftOf (.content p) (.content p)
  | attributes {q p : AttributePart} (helement : q.element = p.element)
    (hbindings : q.bindings.entries.Sublist p.bindings.entries) :
    LeftOf (.attributes q) (.attributes p)

theorem LeftOf.refl (p : Part) : p.LeftOf p := by
  cases p with
  | content p => exact .content p
  | attributes p => exact .attributes rfl (List.Sublist.refl _)

theorem LeftOf.trans {p q r : Part} (h : q.LeftOf p) (h' : r.LeftOf q) : r.LeftOf p := by
  cases h with
  | content p =>
    cases h'
    exact .content p
  | attributes helement hbindings =>
    cases h' with
    | attributes helement' hbindings' =>
      exact .attributes (helement'.trans helement) (hbindings'.trans hbindings)

variable {p q : Part}

theorem LeftOf.node (h : q.LeftOf p) : q.node = p.node := by
  cases h with
  | content => rfl
  | attributes helement => exact helement

theorem LeftOf.fits_iff (h : q.LeftOf p) (c : Content) : q.Fits c ↔ p.Fits c := by
  cases h with
  | content => rfl
  | attributes => cases c <;> exact Iff.rfl

theorem LeftOf.indices_subset (h : q.LeftOf p) : q.indices ⊆ p.indices := by
  cases h with
  | content => exact List.Subset.refl _
  | attributes _ hbindings =>
    intro index hindex
    obtain ⟨entry, hentry, hslot⟩ := List.mem_flatMap.1 hindex
    exact List.mem_flatMap.2 ⟨entry, hbindings.subset hentry, hslot⟩

theorem LeftOf.proper (h : q.LeftOf p) (hp : p.Proper) : q.Proper := by
  cases h with
  | content => exact hp
  | attributes _ hbindings =>
    exact ⟨List.Nodup.sublist (hbindings.map Prod.fst) hp.1,
      fun entry hentry => hp.2 entry (hbindings.subset hentry)⟩

theorem leftOf_remaining (writes : List (List (Value H))) (p : Part) :
    (p.remaining writes).LeftOf p := by
  cases p with
  | content p => exact .content p
  | attributes p => exact .attributes rfl List.filter_sublist

theorem leftOf_kept (values : List (Value H)) (p : Part) : (p.kept values).LeftOf p := by
  cases p with
  | content p => exact .content p
  | attributes p => exact .attributes rfl List.filter_sublist

/-- What is left of parts, each in its place, of what was left of others. -/
theorem forall₂_leftOf_trans {parts parts' parts'' : List Part}
    (h : List.Forall₂ LeftOf parts' parts) (h' : List.Forall₂ LeftOf parts'' parts') :
    List.Forall₂ LeftOf parts'' parts := by
  induction h generalizing parts'' with
  | nil => exact h'
  | cons hleft _ ih =>
    cases h' with
    | cons hleft' hrest' => exact .cons (hleft.trans hleft') (ih hrest')

theorem forall₂_leftOf_kept (values : List (Value H)) (parts : List Part) :
    List.Forall₂ LeftOf (parts.map (kept values)) parts :=
  List.forall₂_map_left_iff.2 (List.forall₂_same.2 fun p _ => leftOf_kept values p)

theorem leftOf_update (context : Context L H) (values : List (Value H)) (p : Part)
    (d : Document L) : (p.update context values d).state.1.LeftOf p := by
  cases p with
  | content p => exact .content p
  | attributes p =>
    exact .attributes rfl (AttributePart.updateBindings_sublist context p.element values _ d)

/-- **Whatever is written, and however far, the parts are left of those that were there**, in their
places. -/
theorem forall₂_leftOf_updateChosen (context : Context L H) (values : List (Value H))
    (chosen : Nat → Bool) (position : Nat) (parts : List Part) (d : Document L) :
    List.Forall₂ LeftOf (updateChosen context values chosen position parts d).state.1 parts := by
  induction parts generalizing d position with
  | nil => exact .nil
  | cons p rest ih =>
    have hhere : (if chosen position then p.update context values d
        else Attempt.done (p, d)).state.1.LeftOf p := by
      split
      · exact leftOf_update context values p d
      · exact .refl p
    unfold updateChosen
    simp only
    split
    · exact .cons hhere (List.forall₂_same.2 fun q _ => .refl q)
    · exact .cons hhere (ih _ _)

theorem exists_leftOf_of_mem_updateChosen (context : Context L H) (values : List (Value H))
    (chosen : Nat → Bool) (position : Nat) (parts : List Part) (d : Document L) :
    ∀ q ∈ (updateChosen context values chosen position parts d).state.1,
      ∃ p ∈ parts, q.LeftOf p := by
  intro q hq
  have hleft := forall₂_leftOf_updateChosen context values chosen position parts d
  obtain ⟨i, hi, rfl⟩ := List.mem_iff_getElem.1 hq
  have hlt : i < parts.length := hleft.length_eq ▸ hi
  exact ⟨parts[i], List.getElem_mem hlt, hleft.get hi hlt⟩

end Part

end LiveMarkup
