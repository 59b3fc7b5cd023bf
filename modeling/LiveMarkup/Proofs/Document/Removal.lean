/-
Removed nodes.

Removing a node takes its tree out of the forest and does nothing else, so whoever is not in
that tree is where it was and holds what it held (`Removed`).  What was removed is gone for
good: a name is given once, so whatever comes later, the names of removed nodes name nothing.

That settles everything that can be asked of such a name.  All readers and all operations look
the node up first, and so they find nothing, or are refused and change nothing (`Dead`).
-/
import LiveMarkup.Document.Event
import LiveMarkup.Proofs.Document.Kinship

namespace LiveMarkup

namespace Document

variable {L : Type} {d d' d'' : Document L} {id x p : NodeId}

/-! ### What a removal leaves -/

/-- `d'` is `d` without the node `id` and all below it. -/
structure Removed (d : Document L) (id : NodeId) (d' : Document L) : Prop where
  /-- The nodes to go are live. -/
  live : ∀ x ∈ d.descendants id, d.contains x = true
  /-- These go, and no others. -/
  contains_iff : ∀ x, d'.contains x = true ↔ d.contains x = true ∧ x ∉ d.descendants id
  /-- The others hold what they held, and have the listeners they had. -/
  record : ∀ x ∉ d.descendants id, d'.record? x = d.record? x
  parent : ∀ x ∉ d.descendants id, d'.parent? x = d.parent? x
  /-- One list of children loses one entry. -/
  children : ∀ x ∉ d.descendants id, d'.children x = (d.children x).erase id

theorem mem_descendants_iff {kids : Forest NodeId} (h : d.forest.below? id = some kids) :
    x ∈ d.descendants id ↔ x = id ∨ x ∈ kids.labels := by
  simp [descendants, below, h]

theorem contains_of_mem_descendants (hid : d.contains id = true) (hx : x ∈ d.descendants id) :
    d.contains x = true := by
  obtain ⟨kids, hkids⟩ := Forest.exists_below? (contains_iff.1 hid)
  rcases (mem_descendants_iff hkids).1 hx with rfl | hx
  · exact hid
  · exact contains_iff.2 (Forest.mem_labels_of_below? hkids hx)

theorem contains_remove_iff (hd : d.forest.Distinct) (h : d.remove id = .ok d') :
    d'.contains x = true ↔ d.contains x = true ∧ x ∉ d.descendants id := by
  obtain ⟨hid, hforest, -⟩ := exists_of_remove h
  obtain ⟨kids, hkids⟩ := Forest.exists_below? (contains_iff.1 hid)
  rw [contains_iff, contains_iff, hforest, Forest.mem_labels_prune hd hkids,
    mem_descendants_iff hkids, not_or]

theorem record?_remove (hd : d.forest.Distinct) (h : d.remove id = .ok d')
    (hx : x ∉ d.descendants id) : d'.record? x = d.record? x := by
  have hlive : d'.contains x = d.contains x := by
    rw [Bool.eq_iff_iff, contains_remove_iff hd h]
    exact and_iff_left hx
  unfold record?
  rw [hlive, (exists_of_remove h).2.2]

theorem children_remove (hd : d.forest.Distinct) (h : d.remove id = .ok d')
    (hx : x ∉ d.descendants id) : d'.children x = (d.children x).erase id := by
  have hlive := contains_remove_iff (x := x) hd h
  rw [contains_iff, contains_iff, and_iff_left hx] at hlive
  have hforest := (exists_of_remove h).2.1
  unfold children
  by_cases hmem : x ∈ d'.forest.labels
  · have hpruned := hforest ▸ hmem
    rw [hforest, Forest.below?_prune hd hpruned]
    cases d.forest.below? x with
    | none => rfl
    | some kids => exact Forest.roots_prune id kids
  · rw [Forest.below?_eq_none_iff.2 hmem, Forest.below?_eq_none_iff.2 fun hc => hmem (hlive.2 hc)]
    rfl

/-- Who goes had no child that stays. -/
theorem mem_descendants_of_mem_children (hd : d.forest.Distinct) (hp : p ∈ d.descendants id)
    (hx : x ∈ d.children p) : x ∈ d.descendants id := by
  obtain ⟨inner, hinner, hroot⟩ := mem_children_iff.1 hx
  have hlabel := Forest.mem_labels_of_mem_roots hroot
  cases hkids : d.forest.below? id with
  | none =>
    obtain rfl : p = id := by simpa [descendants, below, hkids] using hp
    rw [hkids] at hinner
    cases hinner
  | some kids =>
    rw [mem_descendants_iff hkids] at hp ⊢
    refine Or.inr ?_
    rcases hp with rfl | hp
    · rw [hkids, Option.some.injEq] at hinner
      exact hinner ▸ hlabel
    · rw [Forest.below?_of_below? hd hkids hp] at hinner
      exact Forest.mem_labels_of_below? hinner hlabel

theorem parent?_remove (hd : d.forest.Distinct) (h : d.remove id = .ok d')
    (hx : x ∉ d.descendants id) : d'.parent? x = d.parent? x := by
  have hforest := (exists_of_remove h).2.1
  have hd' : d'.forest.Distinct := hforest ▸ hd.prune id
  have hne : x ≠ id := fun hc => hx (hc ▸ List.mem_cons_self)
  rw [Option.ext_iff]
  intro p
  rw [parent?_eq_some_iff hd', parent?_eq_some_iff hd]
  by_cases hp : p ∈ d.descendants id
  · refine iff_of_false (fun hc => ?_) fun hc => hx (mem_descendants_of_mem_children hd hp hc)
    have hlive := contains_iff.2 (mem_children_iff.1 hc).mem_labels.1
    exact ((contains_remove_iff hd h).1 hlive).2 hp
  · rw [children_remove hd h hp, List.mem_erase_of_ne hne]

/-- **Removing a node takes its tree out and leaves all else as it is.** -/
theorem WellFormed.removed (hd : d.WellFormed) (h : d.remove id = .ok d') : d.Removed id d' where
  live _ hx := contains_of_mem_descendants (exists_of_remove h).1 hx
  contains_iff _ := contains_remove_iff hd.distinct h
  record _ hx := record?_remove hd.distinct h hx
  parent _ hx := parent?_remove hd.distinct h hx
  children _ hx := children_remove hd.distinct h hx

/-! ### What is left of a name -/

/-- The name `x` names no node: nothing is read from it, and no operation takes it, be it for
the node itself, the parent, the child, the host or the target. -/
structure Dead (d : Document L) (x : NodeId) : Prop where
  contains : d.contains x = false
  listenerCount : ∀ kind, d.listenerCount x kind = 0
  parent : d.parent? x = none
  firstChild : d.firstChild? x = none
  lastChild : d.lastChild? x = none
  tag : d.tag? x = none
  text : d.text? x = none
  attributeNamed : ∀ name, d.attribute? x name = none
  propertyNamed : ∀ name, d.property? x name = none
  shadowRoot : d.shadowRoot? x = none
  get : d.get x = .error (.unknownNode x)
  attributes : d.attributes x = .error (.unknownNode x)
  outerHtml : d.outerHtml x = .error (.unknownNode x)
  innerHtml : d.innerHtml x = .error (.unknownNode x)
  setText : ∀ s, d.setText x s = .error (.unknownNode x)
  setAttribute : ∀ name value, d.setAttribute x name value = .error (.unknownNode x)
  removeAttribute : ∀ name, d.removeAttribute x name = .error (.unknownNode x)
  setProperty : ∀ name value, d.setProperty x name value = .error (.unknownNode x)
  addListener : ∀ kind listener, d.addListener x kind listener = .error (.unknownNode x)
  audience : ∀ kind, d.audience ⟨kind, x⟩ = .error (.unknownNode x)
  attachShadow : d.attachShadow x = .error (.unknownNode x)
  remove : d.remove x = .error (.unknownNode x)
  /-- Nothing is appended to it. -/
  parentOf : ∀ child, d.append x child = .stop d (.unknownNode x)
  /-- It is appended to nothing, -/
  childOf : ∀ parent, d.container parent = .ok () → d.append parent x = .stop d (.unknownNode x)
  /-- and the parent is asked first. -/
  parentFirst : ∀ parent e, d.container parent = .error e → d.append parent x = .stop d e

theorem element_of_content?_eq_none (h : d.content? x = none) :
    d.element x = .error (.unknownNode x) := by
  unfold element
  rw [h]

theorem modifyElement_of_content?_eq_none (h : d.content? x = none) (change : Element → Element) :
    d.modifyElement x change = .error (.unknownNode x) := by
  unfold modifyElement
  rw [element_of_content?_eq_none h]
  rfl

/-- **Whatever is not live is dead.** -/
theorem dead_of_not_contains (hx : d.contains x = false) : d.Dead x := by
  have hcontent := content?_of_not_contains hx
  have hrecord : d.record? x = none := by
    unfold record?
    rw [if_neg (by rw [hx]; exact Bool.false_ne_true)]
  have hlabel := contains_eq_false_iff.1 hx
  have hbelow := Forest.below?_eq_none_iff.2 hlabel
  have htrail := Forest.trail?_eq_none_iff.2 hlabel
  have hget : d.get x = .error (.unknownNode x) := by
    unfold get
    rw [hcontent]
  have helement := element_of_content?_eq_none hcontent
  have hmodify := modifyElement_of_content?_eq_none hcontent
  have hcontainer : d.container x = .error (.unknownNode x) := by
    unfold container
    rw [hget]
    rfl
  exact
    { contains := hx
      listenerCount := fun kind => by simp [listenerCount, listenersFor, hrecord]
      parent := by simp [parent?, ancestors, htrail]
      firstChild := by simp [firstChild?, children, hbelow]
      lastChild := by simp [lastChild?, children, hbelow]
      tag := by simp [tag?, element?, hcontent]
      text := by simp [text?, hcontent]
      attributeNamed := fun name => by simp [attribute?, element?, hcontent]
      propertyNamed := fun name => by simp [property?, element?, hcontent]
      shadowRoot := by simp [shadowRoot?, element?, hcontent]
      get := hget
      attributes := by simp [attributes, helement, Except.map]
      outerHtml := by simp [outerHtml, subtree?, hbelow]
      innerHtml := by simp [innerHtml, hbelow]
      setText := fun s => by simp [setText, hcontent]
      setAttribute := fun name value => hmodify _
      removeAttribute := fun name => hmodify _
      setProperty := fun name value => hmodify _
      addListener := fun kind listener => by simp [addListener, hget, Except.map]
      audience := fun kind => by simp [audience, hget, Except.map]
      attachShadow := by simp [attachShadow, helement, Except.map]
      remove := by simp [remove, hget, Except.map]
      parentOf := fun child => append_of_container_error hcontainer child
      childOf := fun parent hparent => by
        simp [append, moved, hparent, hget, Except.bind, Except.map]
      parentFirst := fun parent e hparent => append_of_container_error hparent x }

/-! ### Every later document -/

/-- **Removing a node removes its tree and nothing else, and for good.**  Whatever is done with
the document afterwards, the names of the nodes that went stay dead. -/
theorem dead_of_remove (hd : d.Reachable) (h : d.remove id = .ok d') :
    d.Removed id d' ∧ ∀ d'', d'.Operations d'' → ∀ x ∈ d.descendants id, d''.Dead x := by
  have hremoved := hd.wellFormed.removed h
  refine ⟨hremoved, fun d'' hops x hx => dead_of_not_contains ?_⟩
  have hknown : x.index < d'.records.size := by
    rw [(exists_of_remove h).2.2]
    exact hd.wellFormed.lt_size (hremoved.live x hx)
  have hgone : ¬d'.contains x = true := fun hc => ((hremoved.contains_iff x).1 hc).2 hx
  rw [← Bool.not_eq_true]
  exact fun hc => hgone (((hd.remove h).steady hops).gone x hknown hc)

/-- A list of two items. -/
def sampleList : Document Nat :=
  (({} : Document Nat).parseFragment "<ul><li>one</li><li>two</li></ul>").1

theorem reachable_sampleList : sampleList.Reachable := .parse .empty _

/-- Without its first item it has the second; and the text that was in the first item is dead,
also when there is a new node in its seat. -/
theorem dead_of_remove_sampleList :
    ∃ d', sampleList.remove ⟨2⟩ = .ok d' ∧ d'.children ⟨1⟩ = [⟨4⟩] ∧
      (d'.create (.text "new")).1.seated? ⟨3⟩ = some ⟨6⟩ ∧
      (d'.create (.text "new")).1.Dead ⟨3⟩ := by
  have hgoes : (sampleList.remove ⟨2⟩).toBool = true := by decide +kernel
  have hseat : (sampleList.remove ⟨2⟩).toOption.map (fun d' =>
      (d'.create (.text "new")).1.seated? ⟨3⟩) = some (some ⟨6⟩) := by decide +kernel
  cases hremove : sampleList.remove ⟨2⟩ with
  | error e => rw [hremove] at hgoes; cases hgoes
  | ok d' =>
    rw [hremove] at hseat
    obtain ⟨hremoved, hdead⟩ := dead_of_remove reachable_sampleList hremove
    refine ⟨d', rfl, ?_, Option.some.inj hseat, ?_⟩
    · rw [hremoved.children ⟨1⟩ (by decide +kernel)]
      decide +kernel
    · have hnew : (Content.text "new").Proper := trivial
      exact hdead _ (Operation.create d' hnew).operations ⟨3⟩ (by decide +kernel)

end Document

end LiveMarkup
