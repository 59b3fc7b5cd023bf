/-
Writing at a few nodes.

A write asks what one node holds.  It is refused because of that, or it changes the record of
that node, and neither the answer nor the change depends on anything else (`LocalAt`).  So
writing parts goes the same way in documents that are the same at the nodes of the parts, and
what is known of all other nodes stays as it is.

It follows that writes at different nodes can be made in either order.
-/
import LiveMarkup.Proofs.Part.Likeness
import Mathlib.Data.Set.Basic

namespace LiveMarkup

variable {L H : Type} {S : Set NodeId} {id : NodeId}

namespace Document

variable {d d' d'' : Document L}

/-! ### Documents that are the same at some nodes -/

/-- The documents are the same, but for what is known of nodes that are not in `S`. -/
structure SameOn (S : Set NodeId) (d d' : Document L) : Prop where
  forest : d'.forest = d.forest
  vacant : d'.vacant = d.vacant
  size : d'.records.size = d.records.size
  record : ∀ id ∈ S, d'.records[id.index]? = d.records[id.index]?

theorem SameOn.refl (S : Set NodeId) (d : Document L) : d.SameOn S d where
  forest := rfl
  vacant := rfl
  size := rfl
  record _ _ := rfl

theorem SameOn.symm (h : d.SameOn S d') : d'.SameOn S d where
  forest := h.forest.symm
  vacant := h.vacant.symm
  size := h.size.symm
  record id hid := (h.record id hid).symm

theorem SameOn.trans (h : d.SameOn S d') (h' : d'.SameOn S d'') : d.SameOn S d'' where
  forest := h'.forest.trans h.forest
  vacant := h'.vacant.trans h.vacant
  size := h'.size.trans h.size
  record id hid := (h'.record id hid).trans (h.record id hid)

/-- Documents that are the same at every node are the same. -/
theorem SameOn.eq (h : ∀ id, ∃ S, id ∈ S ∧ d.SameOn S d') : d' = d := by
  obtain ⟨S, -, hsame⟩ := h ⟨0⟩
  have hrecords : d'.records = d.records := by
    refine Array.ext_getElem? fun i => ?_
    obtain ⟨S, hi, hsame⟩ := h ⟨i⟩
    exact hsame.record ⟨i⟩ hi
  have hforest := hsame.forest
  have hvacant := hsame.vacant
  cases d
  cases d'
  simp only at hforest hvacant hrecords
  rw [hforest, hvacant, hrecords]

theorem SameOn.content? (h : d.SameOn S d') (hid : id ∈ S) : d'.content? id = d.content? id := by
  have hlive : d'.contains id = d.contains id := by
    unfold contains
    rw [h.forest]
  unfold Document.content? record?
  rw [hlive, h.record id hid]

/-- Both records of a node are changed. -/
theorem SameOn.modifyRecord (h : d.SameOn S d') (id : NodeId) (change : Record L → Record L) :
    (d.modifyRecord id change).SameOn S (d'.modifyRecord id change) where
  forest := h.forest
  vacant := h.vacant
  size := by
    rw [size_records_modifyRecord, size_records_modifyRecord, h.size]
  record other hother := by
    rw [getElem?_records_modifyRecord, getElem?_records_modifyRecord, h.record other hother]

/-- One record is changed, of a node outside. -/
theorem SameOn.modifyRecord_right (h : d.SameOn S d') (hid : id ∉ S)
    (change : Record L → Record L) : d.SameOn S (d'.modifyRecord id change) where
  forest := h.forest
  vacant := h.vacant
  size := (size_records_modifyRecord change).trans h.size
  record other hother := by
    have hne : other ≠ id := fun hc => hid (hc ▸ hother)
    rw [getElem?_records_modifyRecord, if_neg hne]
    exact h.record other hother

/-! ### One write -/

/-- What the operation does is decided by what the node `id` holds, and if it is not refused it
changes the record of this node. -/
def LocalAt (id : NodeId) (op : Document L → Except DocumentError (Document L)) : Prop :=
  ∀ d d' : Document L, d'.content? id = d.content? id →
    (∃ e, op d = .error e ∧ op d' = .error e) ∨
      ∃ change, op d = .ok (d.modifyRecord id change) ∧ op d' = .ok (d'.modifyRecord id change)

theorem localAt_setText (id : NodeId) (s : String) :
    LocalAt id fun d : Document L => d.setText id s := by
  intro d d' h
  unfold setText
  beta_reduce
  rw [h]
  cases d.content? id with
  | none => exact Or.inl ⟨_, rfl, rfl⟩
  | some content =>
    cases content with
    | text | comment => exact Or.inr ⟨_, rfl, rfl⟩
    | fragment | element | shadowRoot => exact Or.inl ⟨_, rfl, rfl⟩

theorem localAt_modifyElement (id : NodeId) (change : Element → Element) :
    LocalAt id fun d : Document L => d.modifyElement id change := by
  intro d d' h
  unfold modifyElement element
  beta_reduce
  rw [h]
  cases d.content? id with
  | none => exact Or.inl ⟨_, rfl, rfl⟩
  | some content =>
    cases content with
    | element e => exact Or.inr ⟨_, rfl, rfl⟩
    | fragment | text | comment | shadowRoot => exact Or.inl ⟨_, rfl, rfl⟩

theorem localAt_addListener (id : NodeId) (kind : String) (listener : L) :
    LocalAt id fun d => d.addListener id kind listener := by
  intro d d' h
  unfold addListener get
  beta_reduce
  rw [h]
  cases d.content? id with
  | none => exact Or.inl ⟨_, rfl, rfl⟩
  | some content => exact Or.inr ⟨_, rfl, rfl⟩

variable {op : Document L → Except DocumentError (Document L)}

/-- Documents that are the same at the node stay so. -/
theorem LocalAt.alike (hop : LocalAt id op) (h : d.SameOn S d') (hid : id ∈ S) :
    (Attempt.ofExcept d (op d)).Alike (SameOn S) (.ofExcept d' (op d')) := by
  rcases hop d d' (h.content? hid) with ⟨e, he, he'⟩ | ⟨change, hd, hd'⟩
  · rw [he, he']
    exact ⟨rfl, h⟩
  · rw [hd, hd']
    exact ⟨rfl, h.modifyRecord id change⟩

/-- A document that it makes is the same at all other nodes. -/
theorem LocalAt.sameOn (hop : LocalAt id op) (h : d.SameOn S d') (hid : id ∉ S)
    (hd : op d' = .ok d'') : d.SameOn S d'' := by
  rcases hop d' d' rfl with ⟨e, he, -⟩ | ⟨change, hchange, -⟩
  · rw [he] at hd
    cases hd
  · rw [hchange] at hd
    cases hd
    exact h.modifyRecord_right hid change

/-- **Writing parts changes nothing at any other node.** -/
theorem keptByWriting_sameOn {parts : List Part} (hparts : ∀ p ∈ parts, p.node ∉ S)
    (values : List (Value H)) (d₀ : Document L) : KeptByWriting values parts (d₀.SameOn S) where
  setText hp h hd := (localAt_setText _ _).sameOn h (hparts _ hp) hd
  setAttribute hp _ h hd := (localAt_modifyElement _ _).sameOn h (hparts _ hp) hd
  removeAttribute hp _ h hd := (localAt_modifyElement _ _).sameOn h (hparts _ hp) hd
  setProperty hp _ _ h hd := (localAt_modifyElement _ _).sameOn h (hparts _ hp) hd
  addListener hp h hd := (localAt_addListener _ _ _).sameOn h (hparts _ hp) hd

end Document

open Document

variable {d d' : Document L}

/-! ### Several writes -/

namespace AttributePart

theorem alike_write_of_sameOn (h : d.SameOn S d') (hid : id ∈ S) (name : String) (b : Binding)
    (s : String) : (write id name b s d).Alike (SameOn S) (write id name b s d') := by
  unfold write
  split
  · exact ((localAt_modifyElement id _).alike h hid).andThen fun _ _ h₁ =>
      (localAt_modifyElement id _).alike h₁ hid
  · exact (localAt_modifyElement id _).alike h hid

theorem alike_convert_of_sameOn (h : d.SameOn S d') (hid : id ∈ S) (name : String)
    (listener : L) : (convert id name listener d).Alike (SameOn S) (convert id name listener d') :=
  ((localAt_addListener id _ listener).alike h hid).andThen fun _ _ h₁ =>
    (localAt_modifyElement id _).alike h₁ hid

end AttributePart

namespace Part

theorem alike_update_of_sameOn (context : Context L H) (values : List (Value H))
    (h : d.SameOn S d') {p : Part} (hp : p.node ∈ S) :
    (p.update context values d).Alike (Along (SameOn S)) (p.update context values d') := by
  cases p with
  | content p =>
    exact ((localAt_setText p.node (p.render values)).alike h hp).map fun _ _ hsame => ⟨rfl, hsame⟩
  | attributes p =>
    have hsteps : ∀ name b, (name, b) ∈ p.bindings.entries → ∀ d d' : Document L, d.SameOn S d' →
        AttributePart.Steps (SameOn S) context p.element values values name b d d' := by
      intro name b _ d d' h
      cases hresolve : b.resolve values with
      | text s => exact .text hresolve hresolve (AttributePart.alike_write_of_sameOn h hp name b s)
      | event handler =>
        exact .event hresolve hresolve (AttributePart.alike_convert_of_sameOn h hp name _)
    have hwritten := AttributePart.along_updateBindings h p.element hsteps
    exact ⟨hwritten.stopped,
      congrArg (fun bound => attributes { p with bindings := ⟨bound⟩ }) hwritten.state.1,
      hwritten.state.2⟩

/-- **Writing parts goes the same way wherever their nodes are the same.** -/
theorem alike_updateChosen_of_sameOn (context : Context L H) (values : List (Value H))
    (h : d.SameOn S d') {parts : List Part} (hparts : ∀ p ∈ parts, p.node ∈ S)
    (chosen : Nat → Bool) (position : Nat) :
    (updateChosen context values chosen position parts d).Alike (Along (SameOn S))
      (updateChosen context values chosen position parts d') :=
  along_updateChosen h (fun p hp _ _ h => alike_update_of_sameOn context values h (hparts p hp))
    chosen position

end Part

end LiveMarkup
