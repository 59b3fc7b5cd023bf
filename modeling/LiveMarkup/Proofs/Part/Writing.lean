/-
What writing a part does.

Writing goes attribute by attribute through the document, and may turn attributes into
listeners on the way.  As long as the node is there and of the right kind nothing can go
wrong, and the whole of it is one change of one record: other content, some listeners
more, and some attributes that are bound no longer.  `Part.rewrite`,
`Part.registrations` and `Part.kept` say which, as functions of the part, the values
and the content alone, and `Part.update_eq` says that writing is just this.

A node that was written several times shows two lists of values: the handlers of the
first decided which of its attributes became listeners, and the texts are those of the
last.  So `Part.rewrite` takes both, and `Part.rewrite_rewrite` says that writing once
more replaces the last and leaves the first.
-/
import LiveMarkup.Part.Basic
import LiveMarkup.Proofs.Document.Writing
import LiveMarkup.Proofs.Markup.Fragment

namespace LiveMarkup

variable {L H : Type}

namespace Binding

/-- The text that values make of the attribute. -/
def text (b : Binding) (values : List (Value H)) : String :=
  Marker.substitute b.base (shown values)

/-- What becomes of the attribute: new text, or nothing where a listener or a property takes
its place. -/
def attributeEdit (b : Binding) (first values : List (Value H)) : Option String :=
  if (b.handler? first).isSome || b.isProperty then none else some (b.text values)

/-- The property that is written for the attribute, if there is one. -/
def propertyOf? (b : Binding) (first values : List (Value H)) : Option (String × String) :=
  if (b.handler? first).isNone && b.isProperty then some (b.cleanName, b.text values) else none

end Binding

namespace AttributePart

/-- The attributes that are still bound after they were written. -/
def kept (values : List (Value H)) (bindings : List (String × Binding)) :
    List (String × Binding) :=
  bindings.filter fun entry => (entry.2.handler? values).isNone

/-- What becomes of the attributes that are bound. -/
def attributeEdits (first values : List (Value H)) (bindings : List (String × Binding)) :
    List (String × Option String) :=
  bindings.map fun entry => (entry.1, entry.2.attributeEdit first values)

/-- The properties that are written. -/
def propertyEntries (first values : List (Value H)) (bindings : List (String × Binding)) :
    List (String × String) :=
  bindings.filterMap fun entry => entry.2.propertyOf? first values

/-- The listeners that are added. -/
def registrations (context : Context L H) (values : List (Value H))
    (bindings : List (String × Binding)) : List (Registration L) :=
  bindings.filterMap fun entry =>
    (entry.2.handler? values).map fun h => ⟨Marker.eventName entry.1, context.listener h⟩

/-- The element with its bound attributes written, first for one list of values and last for
another. -/
def rewrite (first values : List (Value H)) (bindings : List (String × Binding)) (e : Element) :
    Element :=
  { e with
    attributes := e.attributes.edit (attributeEdits first values bindings)
    properties := e.properties.insertAll (propertyEntries first values bindings) }

/-! ### Writing the attributes again -/

section Again

variable {first last values : List (Value H)} {bindings : List (String × Binding)}

theorem map_fst_attributeEdits (first values : List (Value H))
    (bindings : List (String × Binding)) :
    (attributeEdits first values bindings).map Prod.fst = bindings.map Prod.fst := by
  simp [attributeEdits, Function.comp_def]

theorem mem_kept {entry : String × Binding} :
    entry ∈ kept first bindings ↔ entry ∈ bindings ∧ entry.2.handler? first = none := by
  simp [kept]

/-- What was erased for good is not bound any longer, and all else is written again. -/
theorem edit_attributeEdits_kept {m : OrderedMap String} (hm : m.Distinct)
    (hnodup : (bindings.map Prod.fst).Nodup)
    (hsilent : ∀ entry ∈ kept first bindings, entry.2.handler? values = none) :
    (m.edit (attributeEdits first last bindings)).edit
        (attributeEdits values values (kept first bindings)) =
      m.edit (attributeEdits first values bindings) := by
  refine OrderedMap.edit_edit hm ?_ ?_ ?_ ?_ ?_
  · rw [map_fst_attributeEdits]
    exact hnodup
  · simp [attributeEdits, Binding.attributeEdit, Function.comp_def, apply_ite]
  · intro edit hedit
    obtain ⟨entry, hentry, rfl⟩ := List.mem_map.1 hedit
    obtain ⟨hmem, hfirst⟩ := mem_kept.1 hentry
    refine List.mem_map.2 ⟨entry, hmem, ?_⟩
    simp [Binding.attributeEdit, hfirst, hsilent entry hentry]
  · rw [map_fst_attributeEdits]
    exact List.Nodup.sublist (List.filter_sublist.map Prod.fst) hnodup
  · intro edit hedit hleft
    obtain ⟨entry, hentry, rfl⟩ := List.mem_map.1 hedit
    cases hfirst : entry.2.handler? first with
    | some h => simp [Binding.attributeEdit, hfirst]
    | none =>
      have hmem : entry ∈ kept first bindings := mem_kept.2 ⟨hentry, hfirst⟩
      refine absurd (List.mem_map.2 ⟨entry, hmem, ?_⟩) hleft
      simp [Binding.attributeEdit, hfirst, hsilent entry hmem]

/-- An attribute that became a listener never had a property. -/
theorem propertyEntries_kept
    (hsilent : ∀ entry ∈ kept first bindings, entry.2.handler? values = none) :
    propertyEntries values values (kept first bindings) =
      propertyEntries first values bindings := by
  unfold propertyEntries kept
  rw [List.filterMap_filter]
  refine List.filterMap_congr fun entry hentry => ?_
  cases hfirst : entry.2.handler? first with
  | some h => simp [Binding.propertyOf?, hfirst]
  | none =>
    have hvalues := hsilent entry (mem_kept.2 ⟨hentry, hfirst⟩)
    simp [Binding.propertyOf?, hfirst, hvalues]

theorem map_fst_propertyEntries (first last values : List (Value H))
    (bindings : List (String × Binding)) :
    (propertyEntries first last bindings).map Prod.fst =
      (propertyEntries first values bindings).map Prod.fst := by
  unfold propertyEntries
  rw [List.map_filterMap, List.map_filterMap]
  refine List.filterMap_congr fun entry _ => ?_
  simp only [Binding.propertyOf?]
  split <;> rfl

theorem rewrite_rewrite {e : Element} (hnodup : (bindings.map Prod.fst).Nodup)
    (hattributes : e.attributes.Distinct) (hproperties : e.properties.Distinct)
    (hsilent : ∀ entry ∈ kept first bindings, entry.2.handler? values = none) :
    rewrite values values (kept first bindings) (rewrite first last bindings e) =
      rewrite first values bindings e := by
  unfold rewrite
  simp only [edit_attributeEdits_kept hattributes hnodup hsilent, propertyEntries_kept hsilent,
    OrderedMap.insertAll_insertAll hproperties (map_fst_propertyEntries first last values bindings)]

end Again

/-! ### Writing in a document -/

theorem write_eq {d : Document L} {id : NodeId} {e : Element}
    (h : d.content? id = some (.element e)) (name : String) (b : Binding) (s : String) :
    write id name b s d = .done (d.put id (.element
      (if b.isProperty then
        { e with
          attributes := e.attributes.erase name, properties := e.properties.insert b.cleanName s }
      else { e with attributes := e.attributes.insert name s })) []) := by
  unfold write
  split
  · have hproperty := Document.content?_put_self h
      (.element { e with properties := e.properties.insert b.cleanName s }) []
    rw [Document.setProperty, Document.modifyElement_of_element h, Attempt.ofExcept_ok,
      Attempt.done_andThen, Document.removeAttribute, Document.modifyElement_of_element hproperty,
      Document.put_put, Attempt.ofExcept_ok]
    rfl
  · rw [Document.setAttribute, Document.modifyElement_of_element h]
    rfl

theorem convert_eq {d : Document L} {id : NodeId} {e : Element}
    (h : d.content? id = some (.element e)) (name : String) (listener : L) :
    convert id name listener d = .done (d.put id
      (.element { e with attributes := e.attributes.erase name })
      [⟨Marker.eventName name, listener⟩]) := by
  have hlistener := Document.content?_put_self h (.element e)
    [⟨Marker.eventName name, listener⟩]
  unfold convert
  rw [Document.addListener_of_content? h, Attempt.ofExcept_ok, Attempt.done_andThen,
    Document.removeAttribute, Document.modifyElement_of_element hlistener, Document.put_put,
    Attempt.ofExcept_ok]
  rfl

/-- Writing the bound attributes of an element is one change of its record. -/
theorem updateBindings_eq (context : Context L H) (values : List (Value H)) {id : NodeId}
    (bindings : List (String × Binding)) {d : Document L} {e : Element}
    (h : d.content? id = some (.element e)) :
    updateBindings context id values bindings d =
      .done (kept values bindings,
        d.put id (.element (rewrite values values bindings e))
          (registrations context values bindings)) := by
  induction bindings generalizing d e with
  | nil =>
    show Attempt.done ([], d) = Attempt.done ([], d.put id (.element e) [])
    rw [Document.put_eq_self h]
  | cons entry rest ih =>
    obtain ⟨name, b⟩ := entry
    cases hhandler : b.handler? values with
    | some handler =>
      have hresolve : b.resolve values = .event handler := by simp [Binding.resolve, hhandler]
      have hstep := ih (Document.content?_put_self h
        (.element { e with attributes := e.attributes.erase name })
        [⟨Marker.eventName name, context.listener handler⟩])
      rw [Document.put_put] at hstep
      simp only [updateBindings, hresolve, convert_eq h, Attempt.stopped_done, Attempt.state_done]
      rw [hstep]
      simp [kept, registrations, rewrite, attributeEdits, propertyEntries, hhandler,
        Binding.attributeEdit, Binding.propertyOf?, OrderedMap.edit_cons_none]
    | none =>
      have hresolve : b.resolve values = .text (b.text values) := by
        simp [Binding.resolve, hhandler, Binding.text]
      simp only [updateBindings, hresolve, write_eq h, Attempt.stopped_done, Attempt.state_done]
      rw [ih (Document.content?_put_self h _ []), Attempt.done_map, Document.put_put]
      cases hproperty : b.isProperty with
      | true =>
        simp [kept, registrations, rewrite,
          attributeEdits, propertyEntries, hhandler, hproperty, Binding.attributeEdit,
          Binding.propertyOf?, OrderedMap.edit_cons_none, OrderedMap.insertAll_cons]
      | false =>
        simp [kept, registrations, rewrite,
          attributeEdits, propertyEntries, hhandler, hproperty, Binding.attributeEdit,
          Binding.propertyOf?, OrderedMap.edit_cons_some]

end AttributePart

namespace Part

/-- Whether content is of the kind that the part writes. -/
def Fits : Part → Content → Prop
  | content _, .text _ => True
  | attributes _, .element _ => True
  | _, _ => False

/-- What the part makes of the content of its node, written first for one list of values and
last for another. -/
def rewrite (first values : List (Value H)) : Part → Content → Content
  | content p, .text _ => .text (p.render values)
  | attributes p, .element e =>
    .element (AttributePart.rewrite first values p.bindings.entries e)
  | _, c => c

/-- The listeners that writing the part adds to its node. -/
def registrations (context : Context L H) (values : List (Value H)) :
    Part → List (Registration L)
  | content _ => []
  | attributes p => AttributePart.registrations context values p.bindings.entries

/-- The part as it is after it was written. -/
def kept (values : List (Value H)) : Part → Part
  | content p => content p
  | attributes p => attributes { p with bindings := ⟨AttributePart.kept values p.bindings.entries⟩ }

@[simp] theorem node_kept (values : List (Value H)) (p : Part) : (p.kept values).node = p.node := by
  cases p <;> rfl

theorem fits_rewrite {p : Part} {c : Content} (first values : List (Value H)) (h : p.Fits c) :
    (p.kept first).Fits (p.rewrite first values c) := by
  cases p <;> cases c <;> simp_all [Fits, kept, rewrite]

/-- **Writing a part is one change of one record.** -/
theorem update_eq (context : Context L H) (values : List (Value H)) {p : Part} {d : Document L}
    {c : Content} (h : d.content? p.node = some c) (hfits : p.Fits c) :
    p.update context values d =
      .done (p.kept values,
        d.put p.node (p.rewrite values values c) (p.registrations context values)) := by
  cases p with
  | content p =>
    cases c with
    | text s =>
      have hp : d.content? p.node = some (.text s) := h
      show (Attempt.ofExcept d (d.setText p.node (p.render values))).map (Prod.mk (content p)) = _
      rw [Document.setText_of_text hp]
      rfl
    | fragment | element | comment | shadowRoot => exact absurd hfits (by simp [Fits])
  | attributes p =>
    cases c with
    | element e =>
      have hp : d.content? p.element = some (.element e) := h
      simp only [update, AttributePart.update,
        AttributePart.updateBindings_eq context values p.bindings.entries hp, Attempt.done_map]
      rfl
    | fragment | text | comment | shadowRoot => exact absurd hfits (by simp [Fits])

/-! ### Writing again -/

/-- Parts as they are made: what they read are the slots of the texts they hold, and no
attribute is bound twice. -/
def Proper : Part → Prop
  | content p => p.indices = Marker.replaced p.base
  | attributes p =>
    p.bindings.Distinct ∧ ∀ entry ∈ p.bindings.entries,
      entry.2.indices = Marker.replaced entry.2.base

/-- No slot that the part reads holds a handler; in texts handlers do not count. -/
def Silent (values : List (Value H)) : Part → Prop
  | content _ => True
  | attributes p => ∀ entry ∈ p.bindings.entries, entry.2.handler? values = none

theorem Proper.kept {p : Part} (h : p.Proper) (values : List (Value H)) :
    (p.kept values).Proper := by
  cases p with
  | content p => exact h
  | attributes p =>
    refine ⟨?_, fun entry hentry => h.2 entry (List.mem_of_mem_filter hentry)⟩
    exact List.Nodup.sublist (List.filter_sublist.map Prod.fst) h.1

theorem silent_kept (values : List (Value H)) (p : Part) : (p.kept values).Silent values := by
  cases p with
  | content p => trivial
  | attributes p =>
    intro entry hentry
    simpa using (List.mem_filter.1 hentry).2

/-- A part stays as it is when none of its slots holds a handler. -/
theorem kept_of_silent {values : List (Value H)} {p : Part} (h : p.Silent values) :
    p.kept values = p := by
  cases p with
  | content p => rfl
  | attributes p =>
    have hall : AttributePart.kept values p.bindings.entries = p.bindings.entries :=
      List.filter_eq_self.2 fun entry hentry => by simp [h entry hentry]
    simp only [kept, hall]

theorem registrations_of_silent (context : Context L H) {values : List (Value H)} {p : Part}
    (h : p.Silent values) : p.registrations context values = [] := by
  cases p with
  | content p => rfl
  | attributes p =>
    refine List.filterMap_eq_nil_iff.2 fun entry hentry => ?_
    simp [h entry hentry]

theorem proper_rewrite {c : Content} (h : c.Proper) (first values : List (Value H)) (p : Part) :
    (p.rewrite first values c).Proper := by
  cases p with
  | content p => cases c <;> exact h
  | attributes p =>
    cases c with
    | element e => exact ⟨h.1.edit _, h.2.insertAll _⟩
    | fragment | text | comment | shadowRoot => exact h

/-- **Writing once more replaces what was written last.**  Which attributes have become
listeners was decided by the first values, and no handler comes in later. -/
theorem rewrite_rewrite {first last values : List (Value H)} {p : Part} {c : Content}
    (hp : p.Proper) (hc : c.Proper) (hsilent : (p.kept first).Silent values) :
    (p.kept first).rewrite values values (p.rewrite first last c) = p.rewrite first values c := by
  cases p with
  | content p => cases c <;> rfl
  | attributes p =>
    cases c with
    | fragment | text | comment | shadowRoot => rfl
    | element e =>
      show Content.element (AttributePart.rewrite values values
        (AttributePart.kept first p.bindings.entries)
        (AttributePart.rewrite first last p.bindings.entries e)) = _
      rw [AttributePart.rewrite_rewrite hp.1 hc.1 hc.2 hsilent]
      rfl

/-- The part has nothing to write: the node shows the values, and no handler is among
them. -/
structure Idle (values : List (Value H)) (p : Part) (c : Content) : Prop where
  silent : p.Silent values
  same : p.rewrite values values c = c

/-- A part that was just written has nothing to write. -/
theorem idle_kept {p : Part} {c : Content} (hp : p.Proper) (hc : c.Proper)
    (values : List (Value H)) : (p.kept values).Idle values (p.rewrite values values c) where
  silent := silent_kept values p
  same := rewrite_rewrite hp hc (silent_kept values p)

/-! ### Writing several parts

Parts of one template are at different nodes, so none of them sees what the others write.
-/

/-- The document after all parts were written, each into what its node holds. -/
def writeAll (context : Context L H) (values : List (Value H)) :
    List Part → Document L → Document L
  | [], d => d
  | p :: rest, d =>
    writeAll context values rest
      (d.put p.node (p.rewrite values values (d.contentAt p.node))
        (p.registrations context values))

/-- The parts have nodes of their own, each of the right kind. -/
structure Apart (parts : List Part) (d : Document L) : Prop where
  nodup : (parts.map node).Nodup
  fits : ∀ p ∈ parts, ∃ c, d.content? p.node = some c ∧ p.Fits c

theorem Apart.tail {p : Part} {rest : List Part} {d : Document L} (h : Apart (p :: rest) d)
    (content : Content) (new : List (Registration L)) :
    Apart rest (d.put p.node content new) where
  nodup := (List.nodup_cons.1 h.nodup).2
  fits q hq := by
    have hne : q.node ≠ p.node := fun hc =>
      (List.nodup_cons.1 h.nodup).1 (hc ▸ List.mem_map_of_mem hq)
    obtain ⟨c, hc, hfits⟩ := h.fits q (List.mem_cons_of_mem _ hq)
    exact ⟨c, (Document.content?_put_ne hne new).trans hc, hfits⟩

/-- **Writing parts goes through, and it does not matter which of the idle ones are left
out.** -/
theorem updateChosen_eq (context : Context L H) {values : List (Value H)} {chosen : Nat → Bool}
    {position : Nat} {parts : List Part} {d : Document L} (h : Apart parts d)
    (hidle : ∀ i p, parts[i]? = some p → chosen (position + i) = false →
      p.Idle values (d.contentAt p.node)) :
    updateChosen context values chosen position parts d =
      .done (parts.map (kept values), writeAll context values parts d) := by
  induction parts generalizing d position with
  | nil => rfl
  | cons p rest ih =>
    obtain ⟨c, hc, hfits⟩ := h.fits p (List.mem_cons_self ..)
    have hat : d.contentAt p.node = c := Document.contentAt_of_content? hc
    have hhere : (if chosen position then p.update context values d else .done (p, d)) =
        .done (p.kept values, d.put p.node (p.rewrite values values (d.contentAt p.node))
          (p.registrations context values)) := by
      rw [hat]
      split
      · exact update_eq context values hc hfits
      · next hnot =>
        have hp := hidle 0 p rfl (Bool.not_eq_true _ ▸ hnot)
        rw [hat] at hp
        rw [kept_of_silent hp.silent, registrations_of_silent context hp.silent, hp.same,
          Document.put_eq_self hc]
    simp only [updateChosen, hhere, Attempt.stopped_done, Attempt.state_done]
    rw [ih (h.tail _ _), Attempt.done_map]
    · rfl
    · intro i q hq hnot
      have hne : q.node ≠ p.node := fun hsame =>
        (List.nodup_cons.1 h.nodup).1 (hsame ▸ List.mem_map_of_mem (List.mem_of_getElem? hq))
      have hq' := hidle (i + 1) q hq (by rwa [← Nat.add_assoc, Nat.add_right_comm])
      rwa [Document.put, Document.contentAt_modifyRecord_ne hne]

/-- **Writing all parts goes through, and writes each.** -/
theorem updateAll_eq (context : Context L H) (values : List (Value H)) {parts : List Part}
    {d : Document L} (h : Apart parts d) :
    updateAll context values parts d =
      .done (parts.map (kept values), writeAll context values parts d) :=
  updateChosen_eq context h fun _ _ _ hnot => absurd hnot nofun

@[simp] theorem forest_writeAll (context : Context L H) (values : List (Value H))
    (parts : List Part) (d : Document L) :
    (writeAll context values parts d).forest = d.forest := by
  induction parts generalizing d with
  | nil => rfl
  | cons p rest ih => exact ih _

theorem contains_writeAll (context : Context L H) (values : List (Value H))
    (parts : List Part) (d : Document L) (id : NodeId) :
    (writeAll context values parts d).contains id = d.contains id := by
  unfold Document.contains
  rw [forest_writeAll]

/-- Nodes without a part stay as they are. -/
theorem record?_writeAll_of_not_mem (context : Context L H) (values : List (Value H))
    {parts : List Part} {d : Document L} {id : NodeId} (h : ∀ p ∈ parts, p.node ≠ id) :
    (writeAll context values parts d).record? id = d.record? id := by
  induction parts generalizing d with
  | nil => rfl
  | cons p rest ih =>
    have hne : id ≠ p.node := fun hc => h p (List.mem_cons_self ..) hc.symm
    show (writeAll context values rest _).record? id = _
    rw [ih fun q hq => h q (List.mem_cons_of_mem _ hq), Document.record?_put_ne hne]

/-- The node of a part holds what the part makes of it. -/
theorem record?_writeAll_of_mem (context : Context L H) (values : List (Value H))
    {parts : List Part} {d : Document L} {p : Part} {r : Record L} (h : Apart parts d)
    (hp : p ∈ parts) (hr : d.record? p.node = some r) :
    (writeAll context values parts d).record? p.node =
      some { r with
        content := p.rewrite values values r.content
        listeners := r.listeners ++ p.registrations context values } := by
  induction parts generalizing d with
  | nil => simp at hp
  | cons q rest ih =>
    have hq : q.node ∉ rest.map node := (List.nodup_cons.1 h.nodup).1
    show (writeAll context values rest _).record? p.node = _
    rcases List.mem_cons.1 hp with rfl | hp
    · have hcontent : d.contentAt p.node = r.content := Document.contentAt_of_content? (by
        unfold Document.content?
        rw [hr]
        rfl)
      have hothers : ∀ q ∈ rest, q.node ≠ p.node := fun s hs hc =>
        hq (hc ▸ List.mem_map_of_mem hs)
      rw [record?_writeAll_of_not_mem context values hothers, Document.record?_put_self hr,
        hcontent]
    · have hne : p.node ≠ q.node := fun hc => hq (hc ▸ List.mem_map_of_mem hp)
      exact ih (h.tail _ _) hp ((Document.record?_put_ne hne _).trans hr)

theorem content?_writeAll_of_mem (context : Context L H) (values : List (Value H))
    {parts : List Part} {d : Document L} {p : Part} (h : Apart parts d) (hp : p ∈ parts) :
    (writeAll context values parts d).content? p.node =
      some (p.rewrite values values (d.contentAt p.node)) := by
  obtain ⟨c, hc, -⟩ := h.fits p hp
  obtain ⟨hlive, r, hr, rfl⟩ := Document.content?_eq_some_iff.1 hc
  have hrecord : d.record? p.node = some r := Document.record?_eq_some_iff.2 ⟨hlive, hr⟩
  unfold Document.content?
  rw [record?_writeAll_of_mem context values h hp hrecord, Document.contentAt_of_content? hc]
  rfl

end Part

end LiveMarkup
