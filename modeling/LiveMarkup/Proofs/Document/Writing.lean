/-
Writing what a node holds.

Texts, attributes, properties and listeners are all written by changing one record
(`modifyRecord`).  The forest is not touched, so every node stays where it is, and the
records of all other nodes stay as they are.  Whether an operation is refused depends on
what its node holds and on nothing else; the lemmas here give its exact result in each
case, and later proofs go by these.
-/
import LiveMarkup.Document.Event
import LiveMarkup.Document.Walk
import LiveMarkup.Proofs.Forest

namespace LiveMarkup

namespace Document

variable {L : Type} {d : Document L} {id other : NodeId} {content : Content} {e : Element}

theorem contains_iff : d.contains id = true ↔ id ∈ d.forest.labels :=
  Forest.isSome_below? id d.forest

theorem contains_eq_false_iff : d.contains id = false ↔ id ∉ d.forest.labels := by
  rw [← contains_iff, Bool.not_eq_true]

theorem record?_eq_some_iff {r : Record L} :
    d.record? id = some r ↔ d.contains id = true ∧ d.records[id.index]? = some r := by
  unfold record?
  split
  · next h => simp [h]
  · next h => simp [h]

theorem content?_eq_some_iff :
    d.content? id = some content ↔
      d.contains id = true ∧ ∃ r, d.records[id.index]? = some r ∧ r.content = content := by
  simp only [content?, Option.map_eq_some_iff, record?_eq_some_iff]
  constructor
  · rintro ⟨r, ⟨hlive, hr⟩, rfl⟩
    exact ⟨hlive, r, hr, rfl⟩
  · rintro ⟨hlive, r, hr, rfl⟩
    exact ⟨r, ⟨hlive, hr⟩, rfl⟩

theorem contains_of_content? (h : d.content? id = some content) : d.contains id = true :=
  (content?_eq_some_iff.1 h).1

theorem content?_of_not_contains (h : d.contains id = false) : d.content? id = none := by
  simp [content?, record?, h]

theorem contentAt_of_content? (h : d.content? id = some content) : d.contentAt id = content := by
  obtain ⟨-, r, hr, rfl⟩ := content?_eq_some_iff.1 h
  simp [contentAt, hr]

theorem get_of_content? (h : d.content? id = some content) : d.get id = .ok content := by
  simp [get, h]

/-- The listeners of a node, which stay in its record when it is removed. -/
def registrationsAt (d : Document L) (id : NodeId) : List (Registration L) :=
  ((d.records[id.index]?).map Record.listeners).getD []

theorem registrationsAt_of_record? {r : Record L} (h : d.record? id = some r) :
    d.registrationsAt id = r.listeners := by
  unfold registrationsAt
  rw [(record?_eq_some_iff.1 h).2]
  rfl

/-! ### Changing a record -/

@[simp] theorem forest_modifyRecord (change : Record L → Record L) :
    (d.modifyRecord id change).forest = d.forest := rfl

@[simp] theorem size_records_modifyRecord (change : Record L → Record L) :
    (d.modifyRecord id change).records.size = d.records.size := Array.size_modify ..

@[simp] theorem contains_modifyRecord (change : Record L → Record L) :
    (d.modifyRecord id change).contains other = d.contains other := rfl

theorem getElem?_records_modifyRecord (change : Record L → Record L) :
    (d.modifyRecord id change).records[other.index]? =
      if other = id then d.records[other.index]?.map change else d.records[other.index]? := by
  show (d.records.modify id.index change)[other.index]? = _
  rw [Array.getElem?_modify]
  by_cases h : other = id
  · simp [h]
  · have hne : ¬ id.index = other.index := by
      intro hc
      cases id
      cases other
      exact h (congrArg NodeId.mk hc.symm)
    rw [if_neg hne, if_neg h]

theorem record?_modifyRecord (change : Record L → Record L) :
    (d.modifyRecord id change).record? other =
      if other = id then (d.record? other).map change else d.record? other := by
  unfold record?
  rw [contains_modifyRecord, getElem?_records_modifyRecord]
  by_cases hlive : d.contains other = true
  · simp only [hlive, if_true]
  · by_cases h : other = id <;> simp [hlive]

theorem record?_modifyRecord_ne (h : other ≠ id) (change : Record L → Record L) :
    (d.modifyRecord id change).record? other = d.record? other := by
  rw [record?_modifyRecord, if_neg h]

theorem content?_modifyRecord_ne (h : other ≠ id) (change : Record L → Record L) :
    (d.modifyRecord id change).content? other = d.content? other := by
  unfold content?
  rw [record?_modifyRecord_ne h]

theorem contentAt_modifyRecord_ne (h : other ≠ id) (change : Record L → Record L) :
    (d.modifyRecord id change).contentAt other = d.contentAt other := by
  unfold contentAt
  rw [getElem?_records_modifyRecord, if_neg h]

/-- Two changes of one record are one change. -/
theorem modifyRecord_modifyRecord (change change' : Record L → Record L) :
    (d.modifyRecord id change).modifyRecord id change' =
      d.modifyRecord id fun r => change' (change r) := by
  unfold modifyRecord
  congr 1
  refine Array.ext_getElem? fun i => ?_
  simp only [Array.getElem?_modify]
  split
  · rw [Option.map_map]
    rfl
  · rfl

theorem modifyRecord_congr {change change' : Record L → Record L} {r : Record L}
    (hr : d.records[id.index]? = some r) (h : change r = change' r) :
    d.modifyRecord id change = d.modifyRecord id change' := by
  unfold modifyRecord
  congr 1
  refine Array.ext_getElem? fun i => ?_
  simp only [Array.getElem?_modify]
  split
  · next hi =>
    subst hi
    simp [hr, h]
  · rfl

theorem modifyRecord_eq_self {change : Record L → Record L} {r : Record L}
    (hr : d.records[id.index]? = some r) (h : change r = r) : d.modifyRecord id change = d := by
  have hsame : d.modifyRecord id change = d.modifyRecord id fun r => r := modifyRecord_congr hr h
  rw [hsame]
  unfold modifyRecord
  congr 1
  refine Array.ext_getElem? fun i => ?_
  rw [Array.getElem?_modify]
  split <;> simp

/-! ### Putting something else into a node

Every write comes to this: other content, and listeners added behind those that are there.
-/

/-- Let a node hold `content` and have the listeners `new` besides those it has. -/
def put (d : Document L) (id : NodeId) (content : Content) (new : List (Registration L)) :
    Document L :=
  d.modifyRecord id fun r => { r with content, listeners := r.listeners ++ new }

@[simp] theorem forest_put (new : List (Registration L)) :
    (d.put id content new).forest = d.forest := rfl

@[simp] theorem contains_put (new : List (Registration L)) :
    (d.put id content new).contains other = d.contains other := rfl

theorem setContent_eq_put : d.setContent id content = d.put id content [] := by
  unfold setContent put
  simp

theorem put_put (content' : Content) (new new' : List (Registration L)) :
    (d.put id content new).put id content' new' = d.put id content' (new ++ new') := by
  unfold put
  rw [modifyRecord_modifyRecord]
  simp

theorem record?_put_ne (h : other ≠ id) (new : List (Registration L)) :
    (d.put id content new).record? other = d.record? other :=
  record?_modifyRecord_ne h _

theorem content?_put_ne (h : other ≠ id) (new : List (Registration L)) :
    (d.put id content new).content? other = d.content? other :=
  content?_modifyRecord_ne h _

theorem record?_put_self {r : Record L} (h : d.record? id = some r)
    (new : List (Registration L)) :
    (d.put id content new).record? id =
      some { r with content, listeners := r.listeners ++ new } := by
  unfold put
  rw [record?_modifyRecord, if_pos rfl, h]
  rfl

theorem content?_put_self {old : Content} (h : d.content? id = some old) (content : Content)
    (new : List (Registration L)) : (d.put id content new).content? id = some content := by
  obtain ⟨r, hr, -⟩ := Option.map_eq_some_iff.1 h
  unfold content?
  rw [record?_put_self hr]
  rfl

/-- Putting into a node what it holds already changes nothing. -/
theorem put_eq_self (h : d.content? id = some content) : d.put id content [] = d := by
  obtain ⟨-, r, hr, rfl⟩ := content?_eq_some_iff.1 h
  exact modifyRecord_eq_self hr (by simp)

/-! ### The operations on one node -/

theorem element_of_content? (h : d.content? id = some (.element e)) : d.element id = .ok e := by
  simp [element, h]

theorem modifyElement_of_element (h : d.content? id = some (.element e))
    (change : Element → Element) :
    d.modifyElement id change = .ok (d.put id (.element (change e)) []) := by
  simp [modifyElement, element_of_content? h, Except.map, setContent_eq_put]

theorem addListener_of_content? (h : d.content? id = some content) (kind : String)
    (listener : L) :
    d.addListener id kind listener = .ok (d.put id content [⟨kind, listener⟩]) := by
  obtain ⟨-, r, hr, hcontent⟩ := content?_eq_some_iff.1 h
  simp only [addListener, get_of_content? h, Except.map]
  congr 1
  exact modifyRecord_congr hr (by simp [hcontent])

theorem setText_of_text {old s : String} (h : d.content? id = some (.text old)) :
    d.setText id s = .ok (d.put id (.text s) []) := by
  simp [setText, h, setContent_eq_put]

end Document

end LiveMarkup
