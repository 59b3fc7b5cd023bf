/-
Documents as they come to be.

A document starts empty and is changed by the operations on it, each of which may be
tried at any time and on any node.  `Reachable` says just this; it is how the theorems
about templates speak of every document.  An append that is refused half way leaves a
changed document behind, so it counts as well.

`Reachable.wellFormed` is the one induction over the operations.  Everything else goes by
its three facts.
-/
import LiveMarkup.Proofs.Document.Moving

namespace LiveMarkup

namespace Document

variable {L : Type}

/-- Documents that the operations can make of an empty one. -/
inductive Reachable : Document L → Prop
  | empty : Reachable {}
  | create {d : Document L} (h : Reachable d) {content : Content} (hcontent : content.Proper) :
      Reachable (d.create content).1
  | parse {d : Document L} (h : Reachable d) (markup : String) :
      Reachable (d.parseFragment markup).1
  | attachShadow {d d' : Document L} (h : Reachable d) {id root : NodeId}
      (hd : d.attachShadow id = .ok (d', root)) : Reachable d'
  | append {d : Document L} (h : Reachable d) (parent child : NodeId) :
      Reachable (d.append parent child).state
  | remove {d d' : Document L} (h : Reachable d) {id : NodeId} (hd : d.remove id = .ok d') :
      Reachable d'
  | setText {d d' : Document L} (h : Reachable d) {id : NodeId} {s : String}
      (hd : d.setText id s = .ok d') : Reachable d'
  | setAttribute {d d' : Document L} (h : Reachable d) {id : NodeId} {name value : String}
      (hd : d.setAttribute id name value = .ok d') : Reachable d'
  | removeAttribute {d d' : Document L} (h : Reachable d) {id : NodeId} {name : String}
      (hd : d.removeAttribute id name = .ok d') : Reachable d'
  | setProperty {d d' : Document L} (h : Reachable d) {id : NodeId} {name value : String}
      (hd : d.setProperty id name value = .ok d') : Reachable d'
  | addListener {d d' : Document L} (h : Reachable d) {id : NodeId} {kind : String} {listener : L}
      (hd : d.addListener id kind listener = .ok d') : Reachable d'

/-! ### One operation -/

variable {d d' : Document L} {id root : NodeId}

theorem WellFormed.create (h : d.WellFormed) {content : Content} (hcontent : content.Proper) :
    (d.create content).1.WellFormed := by
  refine h.plant fun c hc => ?_
  simp only [Forest.tree, Forest.labels, List.append_nil, List.mem_singleton] at hc
  rwa [hc]

theorem WellFormed.setContent (h : d.WellFormed) {content : Content} (hcontent : content.Proper)
    (id : NodeId) : (d.setContent id content).WellFormed :=
  h.modifyRecord fun _ _ => hcontent

theorem WellFormed.put (h : d.WellFormed) {content : Content} (hcontent : content.Proper)
    (id : NodeId) (new : List (Registration L)) : (d.put id content new).WellFormed :=
  h.modifyRecord fun _ _ => hcontent

theorem element_eq_ok_iff {e : Element} :
    d.element id = .ok e ↔ d.content? id = some (.element e) := by
  unfold element
  split
  · next held hc => rw [hc]; simp
  · next c hne hc =>
    rw [hc]
    simp only [reduceCtorEq, Option.some.injEq, false_iff]
    intro heq
    exact hne e heq
  · next hc => rw [hc]; simp

/-- A shadow root is found, or it is made and named by its host. -/
theorem exists_of_attachShadow (hd : d.attachShadow id = .ok (d', root)) :
    ∃ e, d.content? id = some (.element e) ∧
      (e.shadow = some root ∧ d' = d ∨ e.shadow = none ∧ root = d.nextId ∧
        d' = (d.create .shadowRoot).1.setContent id (.element { e with shadow := some root })) := by
  unfold Document.attachShadow at hd
  cases he : d.element id with
  | error e => rw [he] at hd; cases hd
  | ok e =>
    refine ⟨e, element_eq_ok_iff.1 he, ?_⟩
    rw [he] at hd
    simp only [Except.map, Except.ok.injEq] at hd
    cases hshadow : e.shadow with
    | some old =>
      rw [hshadow] at hd
      cases hd
      exact Or.inl ⟨rfl, rfl⟩
    | none =>
      rw [hshadow] at hd
      cases hd
      exact Or.inr ⟨rfl, rfl, rfl⟩

theorem WellFormed.attachShadow (h : d.WellFormed) (hd : d.attachShadow id = .ok (d', root)) :
    d'.WellFormed := by
  obtain ⟨e, hold, ⟨-, rfl⟩ | ⟨-, -, rfl⟩⟩ := exists_of_attachShadow hd
  · exact h
  · have hproper := h.proper_content? hold
    have hmade : (d.create .shadowRoot).1.WellFormed := h.create trivial
    refine hmade.setContent ?_ id
    exact hproper

theorem WellFormed.modifyElement (h : d.WellFormed) {change : Element → Element}
    (hd : d.modifyElement id change = .ok d')
    (hchange : ∀ e, (Content.element e).Proper → (Content.element (change e)).Proper) :
    d'.WellFormed := by
  unfold Document.modifyElement at hd
  cases he : d.element id with
  | error e => rw [he] at hd; cases hd
  | ok e =>
    rw [he] at hd
    cases hd
    exact h.setContent (hchange e (h.proper_content? (element_eq_ok_iff.1 he))) id

theorem WellFormed.setText (h : d.WellFormed) {s : String} (hd : d.setText id s = .ok d') :
    d'.WellFormed := by
  unfold Document.setText at hd
  have htext : (Content.text s).Proper := trivial
  have hcomment : (Content.comment s).Proper := trivial
  split at hd
  · cases hd
    exact h.setContent htext id
  · cases hd
    exact h.setContent hcomment id
  · cases hd
  · cases hd

theorem WellFormed.addListener (h : d.WellFormed) {kind : String} {listener : L}
    (hd : d.addListener id kind listener = .ok d') : d'.WellFormed := by
  unfold Document.addListener at hd
  cases hget : d.get id with
  | error e => rw [hget] at hd; cases hd
  | ok content =>
    rw [hget] at hd
    cases hd
    exact h.modifyRecord fun _ hr => hr

/-- **What is true of every document.** -/
theorem Reachable.wellFormed (h : d.Reachable) : d.WellFormed := by
  induction h with
  | empty => exact wellFormed_empty
  | create _ hcontent ih => exact ih.create hcontent
  | parse _ markup ih => exact ih.parseFragment markup
  | attachShadow _ hd ih => exact ih.attachShadow hd
  | append _ parent child ih => exact (rearranged_append ih parent child).wellFormed ih
  | remove _ hd ih => exact ih.remove hd
  | setText _ hd ih => exact ih.setText hd
  | setAttribute _ hd ih =>
    exact ih.modifyElement hd fun e he => ⟨he.1.insert _ _, he.2⟩
  | removeAttribute _ hd ih =>
    exact ih.modifyElement hd fun e he => ⟨he.1.erase _, he.2⟩
  | setProperty _ hd ih =>
    exact ih.modifyElement hd fun e he => ⟨he.1, he.2.insert _ _⟩
  | addListener _ hd ih => exact ih.addListener hd

end Document

end LiveMarkup
