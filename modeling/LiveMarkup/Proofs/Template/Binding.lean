/-
What binding does to a tree.

Binding finds the parts below a fragment and writes each of them.  On a tree whose
markers are all usable it cannot fail, and on every node it does what `Content.rendered`
and `Content.listeners` say (`record?_writeAll_partsOf`): a node with a part is written by
it, and a node without one would not have changed.

So the tree that comes out is the tree that went in, mapped.  This is said once, in
`map_held?_writeAll`, and the theorems about rendering rest on it.
-/
import LiveMarkup.Proofs.Document.Reachable
import LiveMarkup.Proofs.Part.Faults
import LiveMarkup.Proofs.Part.Rendering
import LiveMarkup.Template

namespace LiveMarkup

variable {L H : Type}

namespace Document

variable {d : Document L} {id x : NodeId} {kids : Forest NodeId} {nodes : List NodeId}

/-- What a live node holds, with its listeners. -/
def held? (d : Document L) (id : NodeId) : Option (Content × List (Registration L)) :=
  (d.record? id).map fun r => (r.content, r.listeners)

theorem held?_of_record? {d' : Document L} (h : d'.record? id = d.record? id) :
    d'.held? id = d.held? id := by
  unfold held?
  rw [h]

theorem contentAt_of_held? {held : Content × List (Registration L)} (h : d.held? id = some held) :
    d.contentAt id = held.1 := by
  obtain ⟨r, hr, rfl⟩ := Option.map_eq_some_iff.1 h
  refine contentAt_of_content? ?_
  unfold content?
  rw [hr]
  rfl

theorem WellFormed.proper_contentAt (h : d.WellFormed) (id : NodeId) :
    (d.contentAt id).Proper := by
  unfold contentAt
  cases hr : d.records[id.index]? with
  | none => trivial
  | some r => exact h.proper _ r hr

/-! ### Finding the parts -/

/-- The parts of some nodes, in their order. -/
def partsOf (d : Document L) (nodes : List NodeId) : List Part :=
  nodes.filterMap fun id => Part.of? id (d.contentAt id)

theorem mem_partsOf {p : Part} :
    p ∈ d.partsOf nodes ↔ ∃ id ∈ nodes, Part.of? id (d.contentAt id) = some p :=
  List.mem_filterMap

theorem node_mem_of_mem_partsOf {p : Part} (hp : p ∈ d.partsOf nodes) :
    p.node ∈ nodes ∧ Part.of? p.node (d.contentAt p.node) = some p := by
  obtain ⟨id, hid, hpart⟩ := mem_partsOf.1 hp
  have hnode := Part.node_of? hpart
  subst hnode
  exact ⟨hid, hpart⟩

theorem map_node_partsOf_sublist (d : Document L) (nodes : List NodeId) :
    ((d.partsOf nodes).map Part.node).Sublist nodes := by
  induction nodes with
  | nil => exact List.Sublist.refl _
  | cons id rest ih =>
    unfold partsOf
    rw [List.filterMap_cons]
    split
    · exact ih.cons id
    · next p hp =>
      rw [List.map_cons, Part.node_of? hp]
      exact ih.cons_cons id

/-- Fragments and shadow roots are passed over on a walk, but they have no part anyway. -/
theorem discover_eq (hd : d.WellFormed) (hk : d.forest.below? x = some kids) (slots : Nat) :
    Part.discover d x slots =
      Part.discoverIn slots (kids.labels.map fun id => (id, d.contentAt id)) := by
  have hlive : d.contains x = true := by
    rw [contains_iff]
    exact Forest.mem_labels_of_below?_eq_some hk
  have hshown : ∀ id ∈ kids.labels,
      (d.content? id).any Shown.all.accepts = Shown.all.accepts (d.contentAt id) := by
    intro id hid
    have hidlive : d.contains id = true := contains_iff.2 (Forest.mem_labels_of_below? hk hid)
    rw [hd.content?_eq hidlive]
    rfl
  have hwalk : (d.walk x .all).map (fun id => (id, d.contentAt id)) =
      (kids.labels.map fun id => (id, d.contentAt id)).filter
        fun n => Shown.all.accepts n.2 := by
    unfold walk
    rw [met_of_contains hlive]
    unfold below
    rw [hk, Option.map_some, Option.getD_some, List.filter_congr hshown, List.filter_map]
    rfl
  unfold Part.discover
  rw [hwalk]
  refine Part.discoverIn_filter slots _ _ fun n _ hn => ?_
  cases hc : n.2 with
  | fragment | shadowRoot => rfl
  | element | text | comment => rw [hc] at hn; cases hn

theorem discover_eq_ok_iff (hd : d.WellFormed) (hk : d.forest.below? x = some kids)
    (slots : Nat) (parts : List Part) :
    Part.discover d x slots = .ok parts ↔
      (∀ id ∈ kids.labels, (d.contentAt id).MarkersBelow slots) ∧
        parts = d.partsOf kids.labels := by
  rw [discover_eq hd hk, Part.discoverIn_eq_ok_iff, List.forall_mem_map, List.filterMap_map]
  rfl

/-! ### Writing the parts -/

theorem apart_partsOf (hd : d.WellFormed) (hnodup : nodes.Nodup)
    (hlive : ∀ id ∈ nodes, d.contains id = true) : Part.Apart (d.partsOf nodes) d where
  nodup := hnodup.sublist (map_node_partsOf_sublist d nodes)
  fits := by
    intro p hp
    obtain ⟨hid, hpart⟩ := node_mem_of_mem_partsOf hp
    exact ⟨_, hd.content?_eq (hlive _ hid), Part.fits_of? hpart⟩

/-- **Every node becomes what the map makes of it, and gets the listeners that the map
gives it.** -/
theorem record?_writeAll_partsOf (context : Context L H) (values : List (Value H))
    (hd : d.WellFormed) (hnodup : nodes.Nodup) (hlive : ∀ id ∈ nodes, d.contains id = true)
    (hid : id ∈ nodes) {r : Record L} (hr : d.record? id = some r) :
    (Part.writeAll context values (d.partsOf nodes) d).record? id =
      some { r with
        content := r.content.rendered values values
        listeners := r.listeners ++ r.content.listeners context values } := by
  have hcontent : d.content? id = some r.content := by
    unfold content?
    rw [hr]
    rfl
  have hat : d.contentAt id = r.content := contentAt_of_content? hcontent
  have hproper : r.content.Proper := hd.proper_content? hcontent
  cases hpart : Part.of? id r.content with
  | none =>
    have hnone : ∀ p ∈ d.partsOf nodes, p.node ≠ id := by
      rintro p hp rfl
      have hsome := (node_mem_of_mem_partsOf hp).2
      rw [hat, hpart] at hsome
      cases hsome
    rw [Part.record?_writeAll_of_not_mem context values hnone, hr,
      Part.rendered_of_none hproper hpart, Part.listeners_of_none hpart, List.append_nil]
  | some p =>
    have hnode : p.node = id := Part.node_of? hpart
    have hmem : p ∈ d.partsOf nodes := mem_partsOf.2 ⟨id, hid, by rw [hat, hpart]⟩
    have hwritten := Part.record?_writeAll_of_mem context values
      (apart_partsOf hd hnodup hlive) hmem (hnode ▸ hr)
    rw [hnode, Part.rewrite_of? hproper hpart, Part.registrations_of? hpart] at hwritten
    exact hwritten

theorem record?_writeAll_partsOf_of_not_mem (context : Context L H) (values : List (Value H))
    (hid : id ∉ nodes) :
    (Part.writeAll context values (d.partsOf nodes) d).record? id = d.record? id := by
  refine Part.record?_writeAll_of_not_mem context values ?_
  rintro p hp rfl
  exact hid (node_mem_of_mem_partsOf hp).1

theorem WellFormed.writeAll (hd : d.WellFormed) (context : Context L H)
    (values : List (Value H)) (parts : List Part) :
    (Part.writeAll context values parts d).WellFormed := by
  induction parts generalizing d with
  | nil => exact hd
  | cons p rest ih =>
    have hproper := Part.proper_rewrite (hd.proper_contentAt p.node) values values p
    exact ih (hd.put hproper p.node (p.registrations context values))

/-- **A tree that was written is the tree as it was, mapped.** -/
theorem map_held?_writeAll (context : Context L H) (values : List (Value H)) (hd : d.WellFormed)
    (hk : d.forest.below? x = some kids) :
    kids.map (Part.writeAll context values (d.partsOf kids.labels) d).held? =
      kids.map fun id => (d.held? id).map fun h =>
        (h.1.rendered values values, h.2 ++ h.1.listeners context values) := by
  have hnodup : kids.labels.Nodup := (hd.distinct.below? hk).2
  have hlive : ∀ id ∈ kids.labels, d.contains id = true := fun id hid =>
    contains_iff.2 (Forest.mem_labels_of_below? hk hid)
  refine Forest.map_congr fun id hid => ?_
  obtain ⟨r, hr⟩ := hd.exists_record? (hlive id hid)
  unfold held?
  rw [record?_writeAll_partsOf context values hd hnodup hlive hid hr, hr]
  rfl

end Document

namespace Template

variable {d : Document L} {x : NodeId} {kids : Forest NodeId}

/-- **Binding a tree whose markers are all usable goes through.** -/
theorem bind_eq (context : Context L H) (t : Template L H) (hd : d.WellFormed)
    (hk : d.forest.below? x = some kids)
    (hmarkers : ∀ id ∈ kids.labels, (d.contentAt id).MarkersBelow t.slots) :
    bind context t x d =
      .done (((d.partsOf kids.labels).map (Part.kept t.values), .ofParts (d.partsOf kids.labels)),
        Part.writeAll context t.values (d.partsOf kids.labels) d) := by
  have hlive : ∀ id ∈ kids.labels, d.contains id = true := fun id hid =>
    Document.contains_iff.2 (Forest.mem_labels_of_below? hk hid)
  have hapart := Document.apart_partsOf hd (hd.distinct.below? hk).2 hlive
  unfold bind
  rw [(Document.discover_eq_ok_iff hd hk t.slots _).2 ⟨hmarkers, rfl⟩]
  simp only [Part.updateAll_eq context t.values hapart, Attempt.done_mapError, Attempt.done_map]

/-- A marker that cannot be used stops binding before anything is written. -/
theorem bind_of_bad_marker (context : Context L H) (t : Template L H) (hd : d.WellFormed)
    (hk : d.forest.below? x = some kids)
    (hbad : ¬ ∀ id ∈ kids.labels, (d.contentAt id).MarkersBelow t.slots) :
    ∃ e, bind context t x d = .stop (([], {}), d) e ∧ ∀ e', e ≠ .document e' := by
  unfold bind
  cases hfound : Part.discover d x t.slots with
  | ok parts => exact absurd ((Document.discover_eq_ok_iff hd hk t.slots parts).1 hfound).1 hbad
  | error e =>
    refine ⟨e, rfl, ?_⟩
    rintro e' rfl
    exact Part.discoverIn_ne_document _ _ e' hfound

end Template

end LiveMarkup
