/-
What writing keeps in every case.

Writing may stop anywhere, at a node that is gone or of another kind, and what was written
until then stays written.  So what holds whatever happens is what each single write keeps
(`KeptByWriting`).  The forest is one such thing.

Parts write to their own nodes, and of those only what they are bound to, and what they write
is what the values make of their texts.  A property has to stand these writes and no others,
which is all that there is to say about what parts leave alone and what they put in.
-/
import LiveMarkup.Proofs.Part.Writing

namespace LiveMarkup

variable {L H ε : Type}

theorem Binding.eq_text_of_resolve {b : Binding} {values : List (Value H)} {s : String}
    (h : b.resolve values = .text s) : s = b.text values := by
  unfold resolve at h
  split at h
  · cases h
  · exact (Outcome.text.inj h).symm

/-- A property of documents that no write of these parts takes away, with these values. -/
structure KeptByWriting (values : List (Value H)) (parts : List Part) (P : Document L → Prop) :
    Prop where
  setText : ∀ {d d' : Document L} {p : ContentPart}, .content p ∈ parts →
    P d → d.setText p.node (p.render values) = .ok d' → P d'
  setAttribute : ∀ {d d' : Document L} {p : AttributePart} {entry : String × Binding},
    .attributes p ∈ parts → entry ∈ p.bindings.entries →
    P d → d.setAttribute p.element entry.1 (entry.2.text values) = .ok d' → P d'
  removeAttribute : ∀ {d d' : Document L} {p : AttributePart} {entry : String × Binding},
    .attributes p ∈ parts → entry ∈ p.bindings.entries →
    P d → d.removeAttribute p.element entry.1 = .ok d' → P d'
  setProperty : ∀ {d d' : Document L} {p : AttributePart} {entry : String × Binding},
    .attributes p ∈ parts → entry ∈ p.bindings.entries → entry.2.isProperty = true →
    P d → d.setProperty p.element entry.2.cleanName (entry.2.text values) = .ok d' → P d'
  addListener : ∀ {d d' : Document L} {p : AttributePart} {kind : String} {listener : L},
    .attributes p ∈ parts → P d → d.addListener p.element kind listener = .ok d' → P d'

namespace KeptByWriting

variable {P : Document L → Prop} {d : Document L}

theorem ofExcept (h : P d) {r : Except ε (Document L)} (hr : ∀ d', r = .ok d' → P d') :
    P (Attempt.ofExcept d r).state := by
  cases r with
  | error e => exact h
  | ok d' => exact hr d' rfl

theorem andThen {a : Attempt ε (Document L)} (ha : P a.state)
    {next : Document L → Attempt ε (Document L)} (hnext : ∀ d, P d → P (next d).state) :
    P (a.andThen next).state := by
  unfold Attempt.andThen
  split
  · exact hnext _ ha
  · exact ha

variable {values : List (Value H)} {parts : List Part} (hP : KeptByWriting values parts P)

include hP

section Attributes

variable {p : AttributePart} (hp : .attributes p ∈ parts)

include hp

theorem write (h : P d) {entry : String × Binding} (hentry : entry ∈ p.bindings.entries) :
    P (AttributePart.write p.element entry.1 entry.2 (entry.2.text values) d).state := by
  unfold AttributePart.write
  split
  · next hproperty =>
    refine andThen (ofExcept h fun d' hd => hP.setProperty hp hentry hproperty h hd) fun d₁ h₁ => ?_
    exact ofExcept h₁ fun d' hd => hP.removeAttribute hp hentry h₁ hd
  · exact ofExcept h fun d' hd => hP.setAttribute hp hentry h hd

theorem convert (h : P d) {entry : String × Binding} (hentry : entry ∈ p.bindings.entries)
    (listener : L) : P (AttributePart.convert p.element entry.1 listener d).state := by
  unfold AttributePart.convert
  refine andThen (ofExcept h fun d' hd => hP.addListener hp h hd) fun d₁ h₁ => ?_
  exact ofExcept h₁ fun d' hd => hP.removeAttribute hp hentry h₁ hd

theorem updateBindings (h : P d) (context : Context L H) (bindings : List (String × Binding))
    (hbindings : ∀ entry ∈ bindings, entry ∈ p.bindings.entries) :
    P (AttributePart.updateBindings context p.element values bindings d).state.2 := by
  induction bindings generalizing d with
  | nil => exact h
  | cons entry rest ih =>
    obtain ⟨name, b⟩ := entry
    obtain ⟨hentry, hrest⟩ := List.forall_mem_cons.1 hbindings
    unfold AttributePart.updateBindings
    cases hresolve : b.resolve values with
    | text s =>
      obtain rfl := Binding.eq_text_of_resolve hresolve
      have hwritten := hP.write hp h hentry
      simp only
      split
      · exact hwritten
      · exact ih hwritten hrest
    | event handler =>
      have hconverted := hP.convert hp h hentry (context.listener handler)
      simp only
      split
      · exact hconverted
      · exact ih hconverted hrest

end Attributes

theorem updatePart (h : P d) (context : Context L H) {p : Part} (hp : p ∈ parts) :
    P (p.update context values d).state.2 := by
  cases p with
  | content p => exact ofExcept h fun d' hd => hP.setText hp h hd
  | attributes p => exact hP.updateBindings hp h context p.bindings.entries fun _ he => he

/-- **What every write keeps, writing parts keeps, also when it stops.** -/
theorem updateChosen (h : P d) (context : Context L H) (chosen : Nat → Bool) (position : Nat)
    (written : List Part) (hwritten : ∀ p ∈ written, p ∈ parts) :
    P (Part.updateChosen context values chosen position written d).state.2 := by
  induction written generalizing d position with
  | nil => exact h
  | cons p rest ih =>
    obtain ⟨hp, hrest⟩ := List.forall_mem_cons.1 hwritten
    have hhere : P (if chosen position then p.update context values d
        else Attempt.done (p, d)).state.2 := by
      split
      · exact hP.updatePart h context hp
      · exact h
    unfold Part.updateChosen
    simp only
    split
    · exact hhere
    · exact ih hhere _ hrest

end KeptByWriting

/-! ### The forest -/

namespace Document

variable {d d' : Document L} {id : NodeId}

theorem forest_modifyElement {change : Element → Element} (h : d.modifyElement id change = .ok d') :
    d'.forest = d.forest := by
  unfold modifyElement at h
  cases he : d.element id with
  | error e => rw [he] at h; cases h
  | ok e => rw [he] at h; cases h; rfl

theorem forest_setText {s : String} (h : d.setText id s = .ok d') : d'.forest = d.forest := by
  unfold setText at h
  split at h <;> cases h <;> rfl

theorem forest_addListener {kind : String} {listener : L}
    (h : d.addListener id kind listener = .ok d') : d'.forest = d.forest := by
  unfold addListener at h
  cases hget : d.get id with
  | error e => rw [hget] at h; cases h
  | ok content => rw [hget] at h; cases h; rfl

/-- **Writing moves no node.** -/
theorem keptByWriting_forest (values : List (Value H)) (parts : List Part) (f : Forest NodeId) :
    KeptByWriting values parts fun d : Document L => d.forest = f where
  setText _ h hd := (forest_setText hd).trans h
  setAttribute _ _ h hd := (forest_modifyElement hd).trans h
  removeAttribute _ _ h hd := (forest_modifyElement hd).trans h
  setProperty _ _ _ h hd := (forest_modifyElement hd).trans h
  addListener _ h hd := (forest_addListener hd).trans h

end Document

end LiveMarkup
