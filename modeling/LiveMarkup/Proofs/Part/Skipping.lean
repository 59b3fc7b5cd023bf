/-
Which parts need not be written.

A part shows what the values in its slots show, and nothing else of the values matters to
it.  So a part that shows one list of values shows every list that has equal values in
the slots of the part, and writing it for such a list changes nothing (`Idle.of_beq`).

The table was made when the parts were found.  Since then parts may have lost attributes to
listeners, but none has begun to read another slot (`Listed.map_kept`).  A part that the
table does not bring up for the slots that changed reads none of them.
-/
import LiveMarkup.Proofs.Part.Registry
import LiveMarkup.Proofs.Part.Rendering
import LiveMarkup.Proofs.Value

namespace LiveMarkup

variable {L H : Type} {values values' : List (Value H)} {index : Nat}

/-! ### Equal values -/

section Equal

variable [BEq H]

theorem absent_or_equal (h : (values'[index]? == values[index]?) = true) :
    (values'[index]? = none ∧ values[index]? = none) ∨
      ∃ v' v, values'[index]? = some v' ∧ values[index]? = some v ∧ (v' == v) = true := by
  cases hnew : values'[index]? with
  | none =>
    cases hold : values[index]? with
    | none => exact Or.inl ⟨rfl, rfl⟩
    | some v => rw [hnew, hold] at h; cases h
  | some v' =>
    cases hold : values[index]? with
    | none => rw [hnew, hold] at h; cases h
    | some v => rw [hnew, hold] at h; exact Or.inr ⟨v', v, rfl, rfl, h⟩

/-- Equal values show alike, and so do values that are missing. -/
theorem showAlike_of_beq {slots : List Nat}
    (h : ∀ index ∈ slots, (values'[index]? == values[index]?) = true) :
    ShowAlike slots values' values where
  texts := by
    intro index hindex
    unfold ContentPart.shown
    rcases absent_or_equal (h index hindex) with ⟨hnew, hold⟩ | ⟨v', v, hnew, hold, hequal⟩
    · rw [hnew, hold]
    · rw [hnew, hold]
      have htext := Value.display_of_beq hequal
      cases v' <;> cases v <;> first | rfl | cases hequal | exact htext
  attributes := by
    intro index hindex
    unfold Binding.shown
    rcases absent_or_equal (h index hindex) with ⟨hnew, hold⟩ | ⟨v', v, hnew, hold, hequal⟩
    · rw [hnew, hold]
    · rw [hnew, hold]
      exact Value.displayOrEmpty_of_beq hequal

theorem holdsHandler_of_beq (h : (values'[index]? == values[index]?) = true) :
    holdsHandler values' index = holdsHandler values index := by
  unfold holdsHandler
  rcases absent_or_equal h with ⟨hnew, hold⟩ | ⟨v', v, hnew, hold, hequal⟩
  · rw [hnew, hold]
  · rw [hnew, hold]
    exact Value.isCallable_of_beq hequal

end Equal

namespace Part

/-! ### Idle parts -/

/-- Without handlers only what the slots show matters. -/
theorem rewrite_congr {p : Part} (hp : p.Proper) (hsilent' : p.Silent values')
    (hsilent : p.Silent values) (h : ShowAlike p.indices values' values) (c : Content) :
    p.rewrite values' values' c = p.rewrite values values c := by
  cases p with
  | content p =>
    cases c with
    | text s =>
      have hindices : p.indices = Marker.replaced p.base := hp
      refine congrArg Content.text (Marker.substitute_congr fun index hindex => ?_)
      rw [← hindices] at hindex
      exact h.texts index hindex
    | fragment | element | comment | shadowRoot => rfl
  | attributes p =>
    cases c with
    | fragment | text | comment | shadowRoot => rfl
    | element e =>
      have htext : ∀ entry ∈ p.bindings.entries,
          entry.2.text values' = entry.2.text values := by
        intro entry hentry
        refine Marker.substitute_congr fun index hindex => h.attributes index ?_
        rw [← hp.2 entry hentry] at hindex
        exact List.mem_flatMap.2 ⟨entry, hentry, hindex⟩
      have hedits : AttributePart.attributeEdits values' values' p.bindings.entries =
          AttributePart.attributeEdits values values p.bindings.entries := by
        refine List.map_congr_left fun entry hentry => ?_
        unfold Binding.attributeEdit
        rw [hsilent' entry hentry, hsilent entry hentry, htext entry hentry]
      have hproperties : AttributePart.propertyEntries values' values' p.bindings.entries =
          AttributePart.propertyEntries values values p.bindings.entries := by
        refine List.filterMap_congr fun entry hentry => ?_
        unfold Binding.propertyOf?
        rw [hsilent' entry hentry, hsilent entry hentry, htext entry hentry]
      refine congrArg Content.element ?_
      unfold AttributePart.rewrite
      rw [hedits, hproperties]

/-- **A part that has nothing to write for some values has nothing to write for equal
ones.** -/
theorem Idle.of_beq [BEq H] {p : Part} {c : Content} (h : p.Idle values c) (hp : p.Proper)
    (hequal : ∀ index ∈ p.indices, (values'[index]? == values[index]?) = true) :
    p.Idle values' c := by
  have hsilent : p.Silent values' := h.silent.of_handlers fun index hindex hhandler => by
    rw [← holdsHandler_of_beq (hequal index hindex)]
    exact hhandler
  exact ⟨hsilent, (rewrite_congr hp hsilent h.silent (showAlike_of_beq hequal) c).trans h.same⟩

/-! ### Parts and their nodes -/

variable {parts : List Part} {d d' : Document L}

/-- The parts can be written, and they and their nodes are as parts and nodes are made. -/
structure Ready (parts : List Part) (d : Document L) : Prop extends Apart parts d where
  proper : ∀ p ∈ parts, p.Proper
  contents : ∀ p ∈ parts, (d.contentAt p.node).Proper

theorem Ready.of_content? (h : Ready parts d)
    (hsame : ∀ p ∈ parts, d'.content? p.node = d.content? p.node) :
    Ready parts d' ∧ ∀ p ∈ parts, d'.contentAt p.node = d.contentAt p.node := by
  have hat : ∀ p ∈ parts, d'.contentAt p.node = d.contentAt p.node := by
    intro p hp
    obtain ⟨c, hc, -⟩ := h.fits p hp
    rw [Document.contentAt_of_content? hc,
      Document.contentAt_of_content? ((hsame p hp).trans hc)]
  refine ⟨⟨⟨h.nodup, fun p hp => ?_⟩, h.proper, fun p hp => ?_⟩, hat⟩
  · obtain ⟨c, hc, hfits⟩ := h.fits p hp
    exact ⟨c, (hsame p hp).trans hc, hfits⟩
  · rw [hat p hp]
    exact h.contents p hp

/-- **Writing leaves parts that can be written again and have nothing to write.** -/
theorem Ready.writeAll (h : Ready parts d) (context : Context L H) (values : List (Value H)) :
    Ready (parts.map (kept values)) (writeAll context values parts d) ∧
      ∀ q ∈ parts.map (kept values),
        q.Idle values ((Part.writeAll context values parts d).contentAt q.node) := by
  have hnodes : (parts.map (kept values)).map node = parts.map node := by
    rw [List.map_map]
    exact List.map_congr_left fun p _ => node_kept values p
  have hcontent : ∀ p ∈ parts, (Part.writeAll context values parts d).content? (p.kept values).node =
      some (p.rewrite values values (d.contentAt p.node)) := by
    intro p hp
    rw [node_kept]
    exact content?_writeAll_of_mem context values h.toApart hp
  refine ⟨⟨⟨hnodes ▸ h.nodup, fun q hq => ?_⟩, fun q hq => ?_, fun q hq => ?_⟩, fun q hq => ?_⟩
  all_goals obtain ⟨p, hp, rfl⟩ := List.mem_map.1 hq
  · obtain ⟨c, hc, hfits⟩ := h.fits p hp
    rw [← Document.contentAt_of_content? hc] at hfits
    exact ⟨_, hcontent p hp, fits_rewrite values values hfits⟩
  · exact (h.proper p hp).kept values
  · rw [Document.contentAt_of_content? (hcontent p hp)]
    exact proper_rewrite (h.contents p hp) values values p
  · rw [Document.contentAt_of_content? (hcontent p hp)]
    exact idle_kept (h.proper p hp) (h.contents p hp) values

theorem state_updateBindings_of_gone (context : Context L H) (values : List (Value H))
    {id : NodeId} (h : d.content? id = none) (bindings : List (String × Binding)) :
    (AttributePart.updateBindings context id values bindings d).state = (bindings, d) := by
  have helement : d.element id = .error (.unknownNode id) := by simp [Document.element, h]
  have hget : d.get id = .error (.unknownNode id) := by simp [Document.get, h]
  cases bindings with
  | nil => rfl
  | cons entry rest =>
    obtain ⟨name, b⟩ := entry
    cases hresolve : b.resolve values with
    | text s =>
      have hwrite : AttributePart.write id name b s d = .stop d (.unknownNode id) := by
        simp [AttributePart.write, Document.setProperty, Document.setAttribute,
          Document.modifyElement, helement, Except.map]
      simp only [AttributePart.updateBindings, hresolve, hwrite]
      rfl
    | event handler =>
      have hconvert : AttributePart.convert id name (context.listener handler) d =
          .stop d (.unknownNode id) := by
        simp [AttributePart.convert, Document.addListener, hget, Except.map]
      simp only [AttributePart.updateBindings, hresolve, hconvert]
      rfl

/-- Writing a part whose node is gone changes nothing. -/
theorem state_update_of_gone (context : Context L H) (values : List (Value H)) {p : Part}
    (h : d.content? p.node = none) : (p.update context values d).state = (p, d) := by
  cases p with
  | content p =>
    have hp : d.content? p.node = none := h
    simp [update, ContentPart.update, Document.setText, hp]
  | attributes p =>
    have hp : d.content? p.element = none := h
    have hbindings := state_updateBindings_of_gone context values hp p.bindings.entries
    simp [update, AttributePart.update, Attempt.map, hbindings]

theorem state_updateChosen_of_gone (context : Context L H) (values : List (Value H))
    (chosen : Nat → Bool) (position : Nat) (h : ∀ p ∈ parts, d.content? p.node = none) :
    (updateChosen context values chosen position parts d).state = (parts, d) := by
  induction parts generalizing position with
  | nil => rfl
  | cons p rest ih =>
    have hhere : (if chosen position then p.update context values d
        else Attempt.done (p, d)).state = (p, d) := by
      split
      · exact state_update_of_gone context values (h p (List.mem_cons_self ..))
      · rfl
    have hrest := ih (position + 1) fun q hq => h q (List.mem_cons_of_mem _ hq)
    unfold updateChosen
    simp only [hhere]
    split
    · rfl
    · simp only [Attempt.map, hrest]

/-! ### Parts in the table -/

/-- What the parts read are slots that are there, and the table lists them where they read. -/
structure Listed (slots : Nat) (registry : Registry) (parts : List Part) : Prop where
  below : ∀ p ∈ parts, ∀ index ∈ p.indices, index < slots
  listed : ∀ position p, parts[position]? = some p →
    ∀ index ∈ p.indices, position ∈ registry.partsFor index

theorem listed_ofParts {slots : Nat} {parts : List Part}
    (h : ∀ p ∈ parts, ∀ index ∈ p.indices, index < slots) :
    Listed slots (.ofParts parts) parts where
  below := h
  listed position p hp index hindex :=
    (Registry.mem_partsFor_ofParts parts index position).2 ⟨p, hp, hindex⟩

/-- Writing parts never makes them read more. -/
theorem Listed.map_kept {slots : Nat} {registry : Registry} {parts : List Part}
    (h : Listed slots registry parts) (values : List (Value H)) :
    Listed slots registry (parts.map (kept values)) where
  below := by
    intro q hq index hindex
    obtain ⟨p, hp, rfl⟩ := List.mem_map.1 hq
    exact h.below p hp index (indices_kept_subset values p hindex)
  listed := by
    intro position q hq index hindex
    rw [List.getElem?_map, Option.map_eq_some_iff] at hq
    obtain ⟨p, hp, rfl⟩ := hq
    exact h.listed position p hp index (indices_kept_subset values p hindex)

/-- A part that the table does not bring up reads none of the slots. -/
theorem Listed.not_mem_changed {slots : Nat} {registry : Registry} {parts : List Part}
    (h : Listed slots registry parts) {changed : List Nat} {position : Nat} {p : Part}
    (hp : parts[position]? = some p) (hnot : registry.concerns changed position = false) :
    ∀ index ∈ p.indices, index ∉ changed := by
  intro index hindex hchanged
  have hlisted := h.listed position p hp index hindex
  unfold Registry.concerns at hnot
  rw [List.any_eq_false] at hnot
  exact hnot index hchanged (List.contains_iff_mem.2 hlisted)

end Part

end LiveMarkup
