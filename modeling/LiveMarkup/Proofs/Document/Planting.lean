/-
New nodes.

All nodes come into a document as trees that are planted beside the others.  Their names
are numbers that were never used, in document order (`labels_sprouts`), and their records
hold what the trees say (`map_contentAt_sprouts`).  Nothing that was there before can tell
the difference: names of live nodes are below the number of records, so old and new
nodes never meet.

That names stay below the number of records is one of three things that are true of every
document and that all later proofs rest on.  They are put together in `WellFormed`.
-/
import LiveMarkup.Document.Parse
import LiveMarkup.Proofs.Document.Writing
import LiveMarkup.Proofs.Markup.Fragment

namespace LiveMarkup

namespace Forest

variable {α β : Type}

/-- Numbers read back as what they stand for give the forest that was numbered. -/
theorem map_numbered {f : Forest α} {next : Nat} {read : Nat → α}
    (h : ∀ i < f.size, f.labels[i]? = some (read (next + i))) : (f.numbered next).map read = f := by
  induction f generalizing next with
  | nil => rfl
  | node a kids rest ihKids ihRest =>
    have hsize : (node a kids rest).size = 1 + kids.size + rest.size := rfl
    have hhead : a = read next := by
      have h0 := h 0 (by omega)
      simpa [labels] using h0
    have hkids : (kids.numbered (next + 1)).map read = kids := by
      refine ihKids fun i hi => ?_
      have hi' : i < kids.labels.length := by rw [length_labels]; exact hi
      have hstep := h (i + 1) (by omega)
      rw [show next + (i + 1) = next + 1 + i by omega] at hstep
      simpa [labels, List.getElem?_append_left hi'] using hstep
    have hrest : (rest.numbered (next + 1 + kids.size)).map read = rest := by
      refine ihRest fun i hi => ?_
      have hstep := h (kids.size + i + 1) (by omega)
      rw [show next + (kids.size + i + 1) = next + 1 + kids.size + i by omega] at hstep
      have hskip : kids.labels.length ≤ kids.size + i := by rw [length_labels]; omega
      have hsub : kids.size + i - kids.labels.length = i := by rw [length_labels]; omega
      simpa [labels, List.getElem?_append_right hskip, hsub] using hstep
    show node (read next) _ _ = node a kids rest
    rw [hkids, hrest, ← hhead]

end Forest

namespace Document

variable {L : Type} {d : Document L} {trees : Forest Content} {id x : NodeId}
  {kids : Forest NodeId}

/-- What is true of every document. -/
structure WellFormed (d : Document L) : Prop where
  /-- No node is in two places. -/
  distinct : d.forest.Distinct
  /-- Every live node has a record. -/
  known : ∀ id ∈ d.forest.labels, id.index < d.records.size
  /-- No element names anything twice. -/
  proper : ∀ (i : Nat) (r : Record L), d.records[i]? = some r → r.content.Proper

theorem wellFormed_empty : WellFormed ({} : Document L) where
  distinct := Forest.distinct_nil
  known _ hid := absurd hid List.not_mem_nil
  proper i r hr := by simp at hr

theorem WellFormed.lt_size (h : d.WellFormed) (hid : d.contains id = true) :
    id.index < d.records.size := h.known id (contains_iff.1 hid)

theorem WellFormed.exists_record? (h : d.WellFormed) (hid : d.contains id = true) :
    ∃ r, d.record? id = some r := by
  have hlt := h.lt_size hid
  exact ⟨d.records[id.index], record?_eq_some_iff.2 ⟨hid, Array.getElem?_eq_getElem hlt⟩⟩

theorem WellFormed.exists_content? (h : d.WellFormed) (hid : d.contains id = true) :
    ∃ c, d.content? id = some c := by
  obtain ⟨r, hr⟩ := h.exists_record? hid
  exact ⟨r.content, by rw [content?, hr]; rfl⟩

theorem WellFormed.content?_eq (h : d.WellFormed) (hid : d.contains id = true) :
    d.content? id = some (d.contentAt id) := by
  obtain ⟨c, hc⟩ := h.exists_content? hid
  rw [contentAt_of_content? hc, hc]

theorem WellFormed.proper_content? (h : d.WellFormed) {c : Content}
    (hc : d.content? id = some c) : c.Proper := by
  obtain ⟨-, r, hr, rfl⟩ := content?_eq_some_iff.1 hc
  exact h.proper _ r hr

theorem mk_injective : Function.Injective NodeId.mk := by
  intro a b h
  cases h
  rfl

/-! ### The trees that are planted -/

/-- The trees as they will stand in the document: their names. -/
def sprouts (d : Document L) (trees : Forest Content) : Forest NodeId :=
  (trees.numbered d.records.size).map NodeId.mk

theorem forest_plant (d : Document L) (trees : Forest Content) :
    (d.plant trees).forest = d.forest ++ d.sprouts trees := rfl

theorem labels_sprouts (d : Document L) (trees : Forest Content) :
    (d.sprouts trees).labels = (List.range' d.records.size trees.size).map NodeId.mk := by
  unfold sprouts
  rw [Forest.labels_map, Forest.labels_numbered]

theorem mem_labels_sprouts :
    id ∈ (d.sprouts trees).labels ↔
      d.records.size ≤ id.index ∧ id.index < d.records.size + trees.size := by
  rw [labels_sprouts, List.mem_map]
  constructor
  · rintro ⟨i, hi, rfl⟩
    exact List.mem_range'_1.1 hi
  · intro h
    exact ⟨id.index, List.mem_range'_1.2 h, rfl⟩

theorem distinct_sprouts (d : Document L) (trees : Forest Content) :
    (d.sprouts trees).Distinct := by
  unfold Forest.Distinct
  rw [labels_sprouts]
  exact List.Nodup.map mk_injective (List.nodup_range' ..)

theorem size_records_plant (d : Document L) (trees : Forest Content) :
    (d.plant trees).records.size = d.records.size + trees.size := by
  simp [plant]

theorem getElem?_records_plant_of_lt {i : Nat} (h : i < d.records.size) (trees : Forest Content) :
    (d.plant trees).records[i]? = d.records[i]? :=
  Array.getElem?_append_left h

theorem getElem?_records_plant_add (d : Document L) (trees : Forest Content) (i : Nat) :
    (d.plant trees).records[d.records.size + i]? =
      trees.labels[i]?.map fun content => { content, seat := d.nextSeat i } := by
  unfold plant
  rw [Array.getElem?_append_right (Nat.le_add_right ..), Nat.add_sub_cancel_left,
    List.getElem?_toArray, List.getElem?_mapIdx]

/-- **The new nodes hold what the trees say.** -/
theorem map_contentAt_sprouts (d : Document L) (trees : Forest Content) :
    (d.sprouts trees).map (d.plant trees).contentAt = trees := by
  unfold sprouts
  rw [Forest.map_map]
  refine Forest.map_numbered fun i hi => ?_
  rw [← Forest.length_labels] at hi
  show trees.labels[i]? = some ((d.plant trees).contentAt ⟨d.records.size + i⟩)
  unfold contentAt
  rw [getElem?_records_plant_add, List.getElem?_eq_getElem hi]
  rfl

/-- The new nodes have no listeners. -/
theorem listeners_of_mem_sprouts (hid : id ∈ (d.sprouts trees).labels) {r : Record L}
    (hr : (d.plant trees).records[id.index]? = some r) : r.listeners = [] := by
  obtain ⟨hle, -⟩ := mem_labels_sprouts.1 hid
  obtain ⟨i, hi⟩ := Nat.exists_eq_add_of_le hle
  rw [hi, getElem?_records_plant_add] at hr
  obtain ⟨content, -, rfl⟩ := Option.map_eq_some_iff.1 hr
  rfl

/-- New names are not names of live nodes. -/
theorem WellFormed.not_mem_sprouts (h : d.WellFormed) (hid : id ∈ d.forest.labels) :
    id ∉ (d.sprouts trees).labels := by
  intro hc
  have hlt := h.known id hid
  have hle := (mem_labels_sprouts.1 hc).1
  omega

/-- What was there stays as it is. -/
theorem WellFormed.record?_plant (h : d.WellFormed) (hid : d.contains id = true)
    (trees : Forest Content) : (d.plant trees).record? id = d.record? id := by
  have hlive : (d.plant trees).contains id = true := by
    rw [contains_iff, forest_plant, Forest.labels_append]
    exact List.mem_append_left _ (contains_iff.1 hid)
  unfold record?
  rw [hid, hlive, getElem?_records_plant_of_lt (h.lt_size hid)]

/-- Planting trees whose elements are proper keeps all that is true of documents. -/
theorem WellFormed.plant (h : d.WellFormed) (htrees : ∀ c ∈ trees.labels, c.Proper) :
    (d.plant trees).WellFormed where
  distinct := by
    rw [forest_plant]
    exact Forest.distinct_append.2
      ⟨h.distinct, distinct_sprouts d trees, fun id hid => h.not_mem_sprouts hid⟩
  known := by
    intro id hid
    rw [forest_plant, Forest.labels_append] at hid
    rw [size_records_plant]
    rcases List.mem_append.1 hid with hid | hid
    · have hlt := h.known id hid
      omega
    · exact (mem_labels_sprouts.1 hid).2
  proper := by
    intro i r hr
    by_cases hi : i < d.records.size
    · rw [getElem?_records_plant_of_lt hi] at hr
      exact h.proper i r hr
    · obtain ⟨j, rfl⟩ := Nat.exists_eq_add_of_le (Nat.le_of_not_lt hi)
      rw [getElem?_records_plant_add] at hr
      obtain ⟨content, hcontent, rfl⟩ := Option.map_eq_some_iff.1 hr
      exact htrees content (List.mem_of_getElem? hcontent)

/-- A change of records that keeps elements proper keeps all that is true of documents. -/
theorem WellFormed.modifyRecord (h : d.WellFormed) {change : Record L → Record L}
    (hchange : ∀ r, r.content.Proper → (change r).content.Proper) :
    (d.modifyRecord id change).WellFormed where
  distinct := h.distinct
  known := by
    intro other hother
    rw [size_records_modifyRecord]
    exact h.known other hother
  proper := by
    intro i r hr
    have hget : (d.modifyRecord id change).records[i]? = _ :=
      @getElem?_records_modifyRecord L d id ⟨i⟩ change
    rw [hget] at hr
    split at hr
    · obtain ⟨old, hold, rfl⟩ := Option.map_eq_some_iff.1 hr
      exact hchange old (h.proper i old hold)
    · exact h.proper i r hr

/-! ### Markup as a fragment -/

/-- The names of the trees that `markup` will be read as. -/
def parsed (d : Document L) (markup : String) : Forest NodeId :=
  ((Markup.parse markup).numbered (d.records.size + 1)).map NodeId.mk

/-- **Reading markup plants one fragment, and below it what the markup says.** -/
theorem forest_parseFragment (d : Document L) (markup : String) :
    (d.parseFragment markup).1.forest = d.forest ++ .tree d.nextId (d.parsed markup) := rfl

theorem map_contentAt_parsed (d : Document L) (markup : String) :
    (d.parsed markup).map (d.parseFragment markup).1.contentAt = Markup.parse markup := by
  have h := map_contentAt_sprouts d (.tree .fragment (Markup.parse markup))
  exact (Forest.node.inj h).2.1

theorem contentAt_nextId_parseFragment (d : Document L) (markup : String) :
    (d.parseFragment markup).1.contentAt d.nextId = .fragment := by
  have h := map_contentAt_sprouts d (.tree .fragment (Markup.parse markup))
  exact (Forest.node.inj h).1

theorem WellFormed.parseFragment (h : d.WellFormed) (markup : String) :
    (d.parseFragment markup).1.WellFormed := by
  refine h.plant fun c hc => ?_
  simp only [Forest.tree, Forest.labels, List.append_nil] at hc
  rcases List.mem_cons.1 hc with rfl | hc
  · trivial
  · exact (Markup.fresh_parse markup c hc).proper

/-- `x` is a fragment, and `kids` are the trees in it. -/
structure HasFragment (d : Document L) (x : NodeId) (kids : Forest NodeId) : Prop where
  content : d.content? x = some .fragment
  below : d.forest.below? x = some kids

theorem HasFragment.live (h : d.HasFragment x kids) (hid : id ∈ kids.labels) :
    d.contains id = true :=
  contains_iff.2 (Forest.mem_labels_of_below? h.below hid)

theorem nextId_not_mem (hd : d.WellFormed) : d.nextId ∉ d.forest.labels := by
  intro hc
  have hlt := hd.known _ hc
  exact absurd hlt (Nat.lt_irrefl _)

theorem below?_nextId_parseFragment (hd : d.WellFormed) (markup : String) :
    (d.parseFragment markup).1.forest.below? d.nextId = some (d.parsed markup) := by
  rw [forest_parseFragment, Forest.below?_append,
    Forest.below?_eq_none_iff.2 (nextId_not_mem hd), Option.none_or]
  exact Forest.below?_node_self ..

/-- A fragment that was parsed leaves no trace when it goes. -/
theorem prune_parseFragment (hd : d.WellFormed) (markup : String) :
    (d.parseFragment markup).1.forest.prune d.nextId = d.forest := by
  rw [forest_parseFragment, Forest.prune_append_right (nextId_not_mem hd)]
  show d.forest ++ (Forest.node d.nextId (d.parsed markup) .nil).prune d.nextId = d.forest
  rw [Forest.prune_node_self, Forest.append_empty]

theorem hasFragment_parseFragment (hd : d.WellFormed) (markup : String) :
    (d.parseFragment markup).1.HasFragment d.nextId (d.parsed markup) where
  content := by
    have hlive : (d.parseFragment markup).1.contains d.nextId = true := by
      rw [contains_iff]
      exact Forest.mem_labels_of_below?_eq_some (below?_nextId_parseFragment hd markup)
    rw [(hd.parseFragment markup).content?_eq hlive, contentAt_nextId_parseFragment]
  below := below?_nextId_parseFragment hd markup

theorem distinct_parsed (hd : d.WellFormed) (markup : String) : (d.parsed markup).Distinct :=
  ((hd.parseFragment markup).distinct.below? (below?_nextId_parseFragment hd markup)).2

theorem mem_sprouts_of_mem_parsed {markup : String} (hid : id ∈ (d.parsed markup).labels) :
    id ∈ (d.sprouts (.tree .fragment (Markup.parse markup))).labels := by
  show id ∈ (Forest.tree d.nextId (d.parsed markup)).labels
  simp [Forest.tree, Forest.labels, hid]

theorem contains_of_mem_parsed (hd : d.WellFormed) {markup : String}
    (hid : id ∈ (d.parsed markup).labels) : d.contains id = false := by
  rw [contains_eq_false_iff]
  intro hc
  exact hd.not_mem_sprouts hc (mem_sprouts_of_mem_parsed hid)

end Document

end LiveMarkup
