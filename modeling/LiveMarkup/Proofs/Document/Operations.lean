/-
Operations one after the other, and what none of them does.

A name is given once.  So a node that was removed does not come back, and a node that has
another parent, other attributes or other characters is still the same element or text as
before (`Steady`).  What can change of a content is all that `Content.bare` leaves out.

Each operation has one lemma here, and the relation is transitive, so it holds between a
document and whatever the operations make of it (`Reachable.steady`).
-/
import Mathlib.Logic.Relation
import LiveMarkup.Proofs.Document.Reachable

namespace LiveMarkup

/-- What of a content never changes: whether it is an element, a text or something else, and the
tag of an element. -/
def Content.bare : Content → Content
  | fragment => fragment
  | element e => element { tag := e.tag }
  | text _ => text ""
  | comment _ => comment ""
  | shadowRoot => shadowRoot

theorem Content.isContainer_bare (c : Content) : c.bare.isContainer = c.isContainer := by
  cases c <;> rfl

theorem Content.bare_eq_fragment_iff {c : Content} : c.bare = .fragment ↔ c = .fragment := by
  cases c <;> simp [bare]

namespace Document

variable {L : Type} {d d' d'' : Document L} {id other : NodeId} {content content' : Content}

/-- No node comes back, and no node becomes something else. -/
structure Steady (d d' : Document L) : Prop where
  size : d.records.size ≤ d'.records.size
  gone : ∀ id, id.index < d.records.size → d'.contains id = true → d.contains id = true
  bare : ∀ id, id.index < d.records.size → (d'.contentAt id).bare = (d.contentAt id).bare

theorem Steady.refl (d : Document L) : d.Steady d where
  size := Nat.le_refl _
  gone _ _ hlive := hlive
  bare _ _ := rfl

theorem Steady.trans (h : d.Steady d') (h' : d'.Steady d'') : d.Steady d'' where
  size := Nat.le_trans h.size h'.size
  gone id hid hlive := h.gone id hid (h'.gone id (Nat.lt_of_lt_of_le hid h.size) hlive)
  bare id hid := (h'.bare id (Nat.lt_of_lt_of_le hid h.size)).trans (h.bare id hid)

/-! ### New nodes -/

theorem contentAt_plant_of_lt (hid : id.index < d.records.size) (trees : Forest Content) :
    (d.plant trees).contentAt id = d.contentAt id := by
  unfold contentAt
  rw [getElem?_records_plant_of_lt hid]

theorem steady_plant (d : Document L) (trees : Forest Content) : d.Steady (d.plant trees) where
  size := by
    rw [size_records_plant]
    exact Nat.le_add_right ..
  gone := by
    intro id hid hlive
    rw [contains_iff, forest_plant, Forest.labels_append, List.mem_append] at hlive
    refine contains_iff.2 (hlive.resolve_right fun hnew => ?_)
    have hle := (mem_labels_sprouts.1 hnew).1
    omega
  bare id hid := congrArg Content.bare (contentAt_plant_of_lt hid trees)

/-! ### Other content -/

/-- What is read of contents is the same when one record is changed and reads the same. -/
theorem congr_contentAt_modifyRecord {β : Type} (read : Content → β)
    (hold : d.content? id = some content) {change : Record L → Record L}
    (hchange : ∀ r, r.content = content → read (change r).content = read content)
    (other : NodeId) :
    read ((d.modifyRecord id change).contentAt other) = read (d.contentAt other) := by
  by_cases hother : other = id
  · subst hother
    obtain ⟨-, r, hr, rfl⟩ := content?_eq_some_iff.1 hold
    unfold contentAt
    rw [getElem?_records_modifyRecord, if_pos rfl, hr]
    exact hchange r rfl
  · rw [contentAt_modifyRecord_ne hother]

/-- Only what a node holds is changed, and the node stays what it is. -/
structure Rewritten (d d' : Document L) : Prop where
  forest : d'.forest = d.forest
  size : d'.records.size = d.records.size
  bare : ∀ id, (d'.contentAt id).bare = (d.contentAt id).bare

theorem Rewritten.contains_eq (h : d.Rewritten d') (id : NodeId) :
    d'.contains id = d.contains id := by
  unfold contains
  rw [h.forest]

theorem Rewritten.steady (h : d.Rewritten d') : d.Steady d' where
  size := Nat.le_of_eq h.size.symm
  gone id _ hlive := (h.contains_eq id).symm.trans hlive
  bare id _ := h.bare id

theorem rewritten_setContent (hold : d.content? id = some content)
    (hbare : content'.bare = content.bare) : d.Rewritten (d.setContent id content') where
  forest := rfl
  size := size_records_modifyRecord _
  bare := congr_contentAt_modifyRecord Content.bare hold fun _ _ => hbare

theorem rewritten_modifyElement {change : Element → Element}
    (hd : d.modifyElement id change = .ok d') (htag : ∀ e, (change e).tag = e.tag) :
    d.Rewritten d' := by
  unfold modifyElement at hd
  cases he : d.element id with
  | error e => rw [he] at hd; cases hd
  | ok e =>
    rw [he] at hd
    cases hd
    exact rewritten_setContent (element_eq_ok_iff.1 he) (by simp [Content.bare, htag])

theorem rewritten_setAttribute {name value : String}
    (hd : d.setAttribute id name value = .ok d') : d.Rewritten d' := by
  unfold setAttribute at hd
  exact rewritten_modifyElement hd fun _ => rfl

theorem rewritten_removeAttribute {name : String} (hd : d.removeAttribute id name = .ok d') :
    d.Rewritten d' := by
  unfold removeAttribute at hd
  exact rewritten_modifyElement hd fun _ => rfl

theorem rewritten_setProperty {name value : String}
    (hd : d.setProperty id name value = .ok d') : d.Rewritten d' := by
  unfold setProperty at hd
  exact rewritten_modifyElement hd fun _ => rfl

theorem rewritten_setText {s : String} (hd : d.setText id s = .ok d') : d.Rewritten d' := by
  unfold setText at hd
  split at hd
  · next hold =>
    cases hd
    exact rewritten_setContent hold rfl
  · next hold =>
    cases hd
    exact rewritten_setContent hold rfl
  · cases hd
  · cases hd

theorem rewritten_addListener {kind : String} {listener : L}
    (hd : d.addListener id kind listener = .ok d') : d.Rewritten d' := by
  unfold addListener get at hd
  cases hold : d.content? id with
  | none => rw [hold] at hd; cases hd
  | some content =>
    rw [hold] at hd
    cases hd
    exact ⟨rfl, size_records_modifyRecord _,
      congr_contentAt_modifyRecord Content.bare hold fun r hr => congrArg Content.bare hr⟩

theorem content?_create_of_content? (h : d.WellFormed) (hold : d.content? id = some content)
    (new : Content) : (d.create new).1.content? id = some content := by
  unfold content?
  rw [create, h.record?_plant (contains_of_content? hold)]
  exact hold

theorem steady_attachShadow (h : d.WellFormed) {root : NodeId}
    (hd : d.attachShadow id = .ok (d', root)) : d.Steady d' := by
  obtain ⟨e, hold, ⟨-, rfl⟩ | ⟨-, -, rfl⟩⟩ := exists_of_attachShadow hd
  · exact Steady.refl _
  · have hnew : d.Steady (d.create .shadowRoot).1 := steady_plant d _
    refine hnew.trans (Rewritten.steady
      (rewritten_setContent (content?_create_of_content? h hold .shadowRoot) ?_))
    rfl

/-! ### Other places -/

theorem Rearranged.contentAt_eq (h : d.Rearranged d') (id : NodeId) :
    d'.contentAt id = d.contentAt id := by
  obtain ⟨f, -, rfl⟩ := h
  rfl

theorem Rearranged.steady (h : d.Rearranged d') : d.Steady d' where
  size := by
    obtain ⟨f, -, rfl⟩ := h
    exact Nat.le_refl _
  gone id _ hlive := (h.contains_iff id).1 hlive
  bare id _ := congrArg Content.bare (h.contentAt_eq id)

theorem steady_remove (hd : d.remove id = .ok d') : d.Steady d' := by
  obtain ⟨-, hforest, hrecords⟩ := exists_of_remove hd
  refine ⟨Nat.le_of_eq (congrArg Array.size hrecords).symm, fun other _ hlive => ?_,
    fun other _ => by unfold contentAt; rw [hrecords]⟩
  rw [contains_iff, hforest] at hlive
  exact contains_iff.2 ((Forest.labels_prune_sublist id d.forest).subset hlive)

/-! ### Runs of operations -/

/-- One operation, if it is not refused.  An append may stop half way. -/
inductive Operation : Document L → Document L → Prop
  | create (d : Document L) {content : Content} (hcontent : content.Proper) :
      Operation d (d.create content).1
  | parse (d : Document L) (markup : String) : Operation d (d.parseFragment markup).1
  | attachShadow {d d' : Document L} {id root : NodeId} (hd : d.attachShadow id = .ok (d', root)) :
      Operation d d'
  | append (d : Document L) (parent child : NodeId) : Operation d (d.append parent child).state
  | remove {d d' : Document L} {id : NodeId} (hd : d.remove id = .ok d') : Operation d d'
  | setText {d d' : Document L} {id : NodeId} {s : String} (hd : d.setText id s = .ok d') :
      Operation d d'
  | setAttribute {d d' : Document L} {id : NodeId} {name value : String}
      (hd : d.setAttribute id name value = .ok d') : Operation d d'
  | removeAttribute {d d' : Document L} {id : NodeId} {name : String}
      (hd : d.removeAttribute id name = .ok d') : Operation d d'
  | setProperty {d d' : Document L} {id : NodeId} {name value : String}
      (hd : d.setProperty id name value = .ok d') : Operation d d'
  | addListener {d d' : Document L} {id : NodeId} {kind : String} {listener : L}
      (hd : d.addListener id kind listener = .ok d') : Operation d d'

/-- Any operations in any order. -/
def Operations : Document L → Document L → Prop := Relation.ReflTransGen Operation

theorem Operations.refl (d : Document L) : d.Operations d := Relation.ReflTransGen.refl

theorem Operation.operations (h : d.Operation d') : d.Operations d' :=
  Relation.ReflTransGen.single h

theorem Operations.trans (h : d.Operations d') (h' : d'.Operations d'') : d.Operations d'' :=
  Relation.ReflTransGen.trans h h'

theorem Reachable.operation (h : d.Reachable) (hop : d.Operation d') : d'.Reachable := by
  cases hop with
  | create hcontent => exact h.create hcontent
  | parse markup => exact h.parse markup
  | attachShadow hd => exact h.attachShadow hd
  | append parent child => exact h.append parent child
  | remove hd => exact h.remove hd
  | setText hd => exact h.setText hd
  | setAttribute hd => exact h.setAttribute hd
  | removeAttribute hd => exact h.removeAttribute hd
  | setProperty hd => exact h.setProperty hd
  | addListener hd => exact h.addListener hd

theorem Reachable.operations (h : d.Reachable) (hops : d.Operations d') : d'.Reachable := by
  induction hops with
  | refl => exact h
  | tail _ hop ih => exact ih.operation hop

/-- **No operation brings a node back or makes something else of it.** -/
theorem Operation.steady (hd : d.WellFormed) (hop : d.Operation d') : d.Steady d' := by
  cases hop with
  | create hcontent => exact steady_plant d _
  | parse markup => exact steady_plant d _
  | attachShadow hattached => exact steady_attachShadow hd hattached
  | append parent child => exact (rearranged_append hd parent child).steady
  | remove hremoved => exact steady_remove hremoved
  | setText hset => exact (rewritten_setText hset).steady
  | setAttribute hset => exact (rewritten_setAttribute hset).steady
  | removeAttribute hset => exact (rewritten_removeAttribute hset).steady
  | setProperty hset => exact (rewritten_setProperty hset).steady
  | addListener hadded => exact (rewritten_addListener hadded).steady

/-- **Nor do many.** -/
theorem Reachable.steady (h : d.Reachable) (hops : d.Operations d') : d.Steady d' := by
  induction hops with
  | refl => exact Steady.refl d
  | tail hbefore hop ih => exact ih.trans (hop.steady (h.operations hbefore).wellFormed)

theorem Steady.content?_eq_none (h : d.Steady d') (hd : d.WellFormed)
    (hid : id.index < d.records.size) (hnone : d.content? id = none) : d'.content? id = none := by
  rw [Option.eq_none_iff_forall_ne_some]
  intro c hc
  have hlive := h.gone id hid (contains_of_content? hc)
  obtain ⟨c', hc'⟩ := hd.exists_content? hlive
  rw [hnone] at hc'
  cases hc'

theorem Steady.bare_content? (h : d.Steady d') (hd : d.WellFormed)
    (hold : d.content? id = some content) (hnew : d'.content? id = some content') :
    content'.bare = content.bare := by
  rw [← contentAt_of_content? hold, ← contentAt_of_content? hnew]
  exact h.bare id (hd.lt_size (contains_of_content? hold))

end Document

end LiveMarkup
