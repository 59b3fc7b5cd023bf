/-
How attributes become listeners in the course of several writes.

A write makes a listener of every bound attribute that has a handler in one of its slots, and
that attribute is bound no longer.  So the first write that comes with a handler for an
attribute decides (`Binding.conversion?`), and what all of them come to can be said without
going through them: the attributes with such a write are listeners now
(`AttributePart.conversions`), and the others are left (`AttributePart.remaining`).

Not every write is for every part.  `Part.updateChosen_map` says what comes of writing some of
the parts, and `Part.record?_writeAll_filter` what becomes of each node.
-/
import LiveMarkup.Proofs.Part.Writing
import Mathlib.Data.List.Nodup

namespace LiveMarkup

variable {L H : Type} {writes : List (List (Value H))}

namespace Binding

/-- The handler that an attribute becomes a listener for in the course of several writes: the
first of them with a handler in a slot of the attribute decides, and in it the first such
slot. -/
def conversion? (b : Binding) (writes : List (List (Value H))) : Option H :=
  writes.findSome? b.handler?

theorem conversion?_concat (b : Binding) (writes : List (List (Value H)))
    (values : List (Value H)) :
    b.conversion? (writes ++ [values]) = (b.conversion? writes).or (b.handler? values) := by
  unfold conversion?
  rw [List.findSome?_append]
  simp

end Binding

namespace AttributePart

/-- The listeners that several writes add, in the order of the attributes. -/
def conversions (context : Context L H) (writes : List (List (Value H)))
    (bindings : List (String × Binding)) : List (Registration L) :=
  bindings.filterMap fun entry =>
    (entry.2.conversion? writes).map fun h => ⟨Marker.eventName entry.1, context.listener h⟩

/-- The attributes that are still bound after several writes. -/
def remaining (writes : List (List (Value H))) (bindings : List (String × Binding)) :
    List (String × Binding) :=
  bindings.filter fun entry => (entry.2.conversion? writes).isNone

theorem mem_remaining {bindings : List (String × Binding)} {entry : String × Binding} :
    entry ∈ remaining writes bindings ↔
      entry ∈ bindings ∧ entry.2.conversion? writes = none := by
  simp [remaining]

/-- One more write leaves less. -/
theorem kept_remaining (values : List (Value H)) (bindings : List (String × Binding)) :
    kept values (remaining writes bindings) = remaining (writes ++ [values]) bindings := by
  unfold kept remaining
  rw [List.filter_filter]
  refine List.filter_congr fun entry _ => ?_
  rw [Binding.conversion?_concat]
  cases entry.2.conversion? writes <;> simp

theorem conversions_singleton (context : Context L H) (values : List (Value H))
    (bindings : List (String × Binding)) :
    conversions context [values] bindings = registrations context values bindings := by
  simp [conversions, registrations, Binding.conversion?]

/-- **One more write adds the listeners of the attributes that it takes, and no others.** -/
theorem conversions_concat (context : Context L H) (values : List (Value H))
    (bindings : List (String × Binding)) :
    (conversions context writes bindings ++
        registrations context values (remaining writes bindings)).Perm
      (conversions context (writes ++ [values]) bindings) := by
  induction bindings with
  | nil => exact List.Perm.refl _
  | cons entry rest ih =>
    cases hold : entry.2.conversion? writes with
    | some h =>
      have hnew : entry.2.conversion? (writes ++ [values]) = some h := by
        rw [Binding.conversion?_concat, hold]
        rfl
      simpa [conversions, remaining, hold, hnew] using ih
    | none =>
      have hnew : entry.2.conversion? (writes ++ [values]) = entry.2.handler? values := by
        rw [Binding.conversion?_concat, hold]
        rfl
      cases hhandler : entry.2.handler? values with
      | none => simpa [conversions, remaining, registrations, hold, hnew, hhandler] using ih
      | some h =>
        have hmiddle := List.perm_middle.trans (ih.cons
          (⟨Marker.eventName entry.1, context.listener h⟩ : Registration L))
        simpa [conversions, remaining, registrations, hold, hnew, hhandler] using hmiddle

/-- An attribute that became a listener is taken out. -/
theorem get?_rewrite_of_handler {values : List (Value H)} {bindings : List (String × Binding)}
    (hnodup : (bindings.map Prod.fst).Nodup) {entry : String × Binding} (hentry : entry ∈ bindings)
    (hhandler : (entry.2.handler? values).isSome = true) (e : Element) :
    (rewrite values values bindings e).attributes.get? entry.1 = none := by
  refine OrderedMap.get?_edit_of_mem ?_ (List.mem_map.2 ⟨entry, hentry, ?_⟩)
  · rw [map_fst_attributeEdits]
    exact hnodup
  · simp [Binding.attributeEdit, hhandler]

/-- An attribute that is not bound is left alone. -/
theorem get?_rewrite_of_not_mem {bindings : List (String × Binding)} {name : String}
    (h : name ∉ bindings.map Prod.fst) (first values : List (Value H)) (e : Element) :
    (rewrite first values bindings e).attributes.get? name = e.attributes.get? name := by
  refine OrderedMap.get?_edit_of_not_mem ?_
  rw [map_fst_attributeEdits]
  exact h

/-- **What became a listener is not among the attributes afterwards**, be it by this write or
by an earlier one. -/
theorem get?_rewrite_remaining {values : List (Value H)} {bindings : List (String × Binding)}
    (hnodup : (bindings.map Prod.fst).Nodup) {entry : String × Binding} (hentry : entry ∈ bindings)
    {e : Element}
    (hbefore : entry.2.conversion? writes ≠ none → e.attributes.get? entry.1 = none)
    (hafter : entry.2.conversion? (writes ++ [values]) ≠ none) :
    (rewrite values values (remaining writes bindings) e).attributes.get? entry.1 = none := by
  have hnodup' : ((remaining writes bindings).map Prod.fst).Nodup :=
    hnodup.sublist (List.filter_sublist.map Prod.fst)
  cases hold : entry.2.conversion? writes with
  | none =>
    rw [Binding.conversion?_concat, hold, Option.none_or] at hafter
    exact get?_rewrite_of_handler hnodup' (mem_remaining.2 ⟨hentry, hold⟩)
      (Option.isSome_iff_ne_none.2 hafter) e
  | some h =>
    have hout : entry.1 ∉ (remaining writes bindings).map Prod.fst := by
      intro hname
      obtain ⟨other, hother, hsame⟩ := List.mem_map.1 hname
      obtain ⟨hmem, hnone⟩ := mem_remaining.1 hother
      rw [List.inj_on_of_nodup_map hnodup hmem hentry hsame, hold] at hnone
      cases hnone
    rw [get?_rewrite_of_not_mem hout]
    exact hbefore (hold ▸ Option.some_ne_none h)

end AttributePart

namespace Part

/-- The part as it is after several writes. -/
def remaining (writes : List (List (Value H))) : Part → Part
  | content p => content p
  | attributes p =>
    attributes { p with bindings := ⟨AttributePart.remaining writes p.bindings.entries⟩ }

@[simp] theorem node_remaining (writes : List (List (Value H))) (p : Part) :
    (p.remaining writes).node = p.node := by
  cases p <;> rfl

theorem fits_remaining (writes : List (List (Value H))) {p : Part} {c : Content} :
    (p.remaining writes).Fits c ↔ p.Fits c := by
  cases p <;> cases c <;> rfl

@[simp] theorem remaining_nil (p : Part) : p.remaining ([] : List (List (Value H))) = p := by
  cases p with
  | content p => rfl
  | attributes p => simp [remaining, AttributePart.remaining, Binding.conversion?]

@[simp] theorem kept_remaining (values : List (Value H)) (p : Part) :
    (p.remaining writes).kept values = p.remaining (writes ++ [values]) := by
  cases p with
  | content p => rfl
  | attributes p => simp [remaining, kept, AttributePart.kept_remaining]

/-- What writing the part makes of the record of its node. -/
def amend (context : Context L H) (values : List (Value H)) (p : Part) (r : Record L) :
    Record L :=
  { r with
    content := p.rewrite values values r.content
    listeners := r.listeners ++ p.registrations context values }

/-! ### Writing some of the parts -/

variable {parts : List Part} {d : Document L}

theorem Apart.sublist {parts' : List Part} (h : Apart parts d) (hsub : parts'.Sublist parts) :
    Apart parts' d where
  nodup := h.nodup.sublist (hsub.map node)
  fits p hp := h.fits p (hsub.subset hp)

/-- **Writing some of the parts goes through, and writes these.** -/
theorem updateChosen_map (context : Context L H) (values : List (Value H)) {f : Part → Part}
    {chosen : Nat → Bool} {reached : Part → Bool} {position : Nat} (h : Apart (parts.map f) d)
    (hchosen : ∀ i p, parts[i]? = some p → chosen (position + i) = reached p) :
    updateChosen context values chosen position (parts.map f) d =
      .done (parts.map fun p => if reached p then (f p).kept values else f p,
        writeAll context values ((parts.filter reached).map f) d) := by
  induction parts generalizing d position with
  | nil => rfl
  | cons p rest ih =>
    have hp : chosen position = reached p := hchosen 0 p rfl
    have hrest : ∀ i q, rest[i]? = some q → chosen (position + 1 + i) = reached q := by
      intro i q hq
      rw [Nat.add_assoc, Nat.add_comm 1 i]
      exact hchosen (i + 1) q hq
    cases hreached : reached p with
    | false =>
      have htail : Apart (rest.map f) d := h.sublist (List.sublist_cons_self _ _)
      simp only [List.map_cons, updateChosen, hp, hreached, Bool.false_eq_true, if_false,
        Attempt.stopped_done, Attempt.state_done, ih htail hrest, Attempt.done_map]
      simp [hreached]
    | true =>
      obtain ⟨c, hc, hfits⟩ := h.fits (f p) (List.mem_cons_self ..)
      simp only [List.map_cons, updateChosen, hp, hreached, if_true,
        update_eq context values hc hfits, Attempt.stopped_done, Attempt.state_done,
        ih (h.tail _ _) hrest, Attempt.done_map]
      simp [hreached, writeAll, Document.contentAt_of_content? hc]

/-- **Each node holds what its part made of it, if that was written.** -/
theorem record?_writeAll_filter (context : Context L H) (values : List (Value H)) {f : Part → Part}
    (hf : ∀ p, (f p).node = p.node) (h : Apart (parts.map f) d) (reached : Part → Bool) {p : Part}
    (hp : p ∈ parts) :
    (writeAll context values ((parts.filter reached).map f) d).record? p.node =
      (d.record? p.node).map fun r => if reached p then (f p).amend context values r else r := by
  have hnodes : (parts.map f).map node = parts.map node := by
    rw [List.map_map]
    exact List.map_congr_left fun p _ => hf p
  cases hreached : reached p with
  | false =>
    have hothers : ∀ q ∈ (parts.filter reached).map f, q.node ≠ p.node := by
      intro q hq hsame
      obtain ⟨p', hp', rfl⟩ := List.mem_map.1 hq
      obtain ⟨hmem, hreached'⟩ := List.mem_filter.1 hp'
      rw [hf] at hsame
      have heq := List.inj_on_of_nodup_map (hnodes ▸ h.nodup) hmem hp hsame
      rw [heq, hreached] at hreached'
      cases hreached'
    simp [record?_writeAll_of_not_mem context values hothers]
  | true =>
    have hwritten : f p ∈ (parts.filter reached).map f :=
      List.mem_map_of_mem (List.mem_filter.2 ⟨hp, hreached⟩)
    obtain ⟨c, hc, -⟩ := h.fits (f p) (List.mem_map_of_mem hp)
    obtain ⟨r, hr, -⟩ := Option.map_eq_some_iff.1 hc
    have hrecord := record?_writeAll_of_mem context values
      (h.sublist (List.filter_sublist.map f)) hwritten hr
    rw [hf] at hr hrecord
    rw [hrecord, hr]
    rfl

end Part

end LiveMarkup
