/-
Documents that values cannot tell apart.

Two documents are alike if they differ only in what parts write: the characters of texts that
have a part, the values of bound attributes and of the properties that go with the bracketed
ones, and which listener stands where a handler was.  Names and their order, and the kinds of
listeners, are the same (`Document.Alike`).

Writing parts with one list of values or with another makes like documents of like ones, and
stops for the same reason if it stops, as long as the same slots hold handlers
(`Part.alike_updateChosen`).  What the values show is never asked; a text that looks like
markup or like a marker is a text.
-/
import LiveMarkup.Proofs.Part.Dependence
import LiveMarkup.Proofs.Part.Footprint
import LiveMarkup.Proofs.Part.Rendering

namespace LiveMarkup

/-! ### Attempts that go alike -/

namespace Attempt

variable {ε ε' σ τ : Type} {R : σ → σ → Prop} {a a' : Attempt ε σ}

/-- Both go through, or both stop for the same reason, and the states reached are related. -/
structure Alike (R : σ → σ → Prop) (a a' : Attempt ε σ) : Prop where
  stopped : a'.stopped = a.stopped
  state : R a.state a'.state

theorem Alike.andThen (h : a.Alike R a') {next next' : σ → Attempt ε σ}
    (hnext : ∀ s s', R s s' → (next s).Alike R (next' s')) :
    (a.andThen next).Alike R (a'.andThen next') := by
  unfold Attempt.andThen
  rw [h.stopped]
  split
  · exact hnext _ _ h.state
  · exact h

theorem Alike.imp (h : a.Alike R a') {R' : σ → σ → Prop} (hR : ∀ s s', R s s' → R' s s') :
    a.Alike R' a' :=
  ⟨h.stopped, hR _ _ h.state⟩

theorem Alike.map (h : a.Alike R a') {R' : τ → τ → Prop} {f f' : σ → τ}
    (hf : ∀ s s', R s s' → R' (f s) (f' s')) : (a.map f).Alike R' (a'.map f') :=
  ⟨h.stopped, hf _ _ h.state⟩

theorem Alike.mapError (h : a.Alike R a') (f : ε → ε') :
    (a.mapError f).Alike R (a'.mapError f) :=
  ⟨congrArg (Option.map f) h.stopped, h.state⟩

end Attempt

variable {L H : Type} {parts : List Part} {id : NodeId}

/-! ### Two runs of writes

Parts are written in two documents.  If each single write keeps the documents related, and they
go the same way, then so do the writes of all parts, and the parts that are left are the same.
-/

section Runs

variable {R : Document L → Document L → Prop} {context : Context L H}
  {values values' : List (Value H)} {d d' : Document L}

/-- The same, along with related documents. -/
def Along {α : Type} (R : Document L → Document L → Prop) (x x' : α × Document L) : Prop :=
  x'.1 = x.1 ∧ R x.2 x'.2

namespace AttributePart

/-- A bound attribute is written in both documents, or becomes a listener in both. -/
inductive Steps (R : Document L → Document L → Prop) (context : Context L H) (element : NodeId)
    (values values' : List (Value H)) (name : String) (b : Binding) (d d' : Document L) : Prop
  | text {s s' : String} (hs : b.resolve values = .text s) (hs' : b.resolve values' = .text s')
    (hwrite : (write element name b s d).Alike R (write element name b s' d'))
  | event {handler handler' : H} (hs : b.resolve values = .event handler)
    (hs' : b.resolve values' = .event handler')
    (hconvert : (convert element name (context.listener handler) d).Alike R
      (convert element name (context.listener handler') d'))

theorem along_updateBindings (h : R d d') (element : NodeId) {bindings : List (String × Binding)}
    (hsteps : ∀ name b, (name, b) ∈ bindings → ∀ d d', R d d' →
      Steps R context element values values' name b d d') :
    (updateBindings context element values bindings d).Alike (Along R)
      (updateBindings context element values' bindings d') := by
  induction bindings generalizing d d' with
  | nil => exact ⟨rfl, rfl, h⟩
  | cons entry rest ih =>
    obtain ⟨name, b⟩ := entry
    have hrest : ∀ name b, (name, b) ∈ rest → ∀ d d', R d d' →
        Steps R context element values values' name b d d' := fun name b hb =>
      hsteps name b (List.mem_cons_of_mem _ hb)
    unfold updateBindings
    cases hsteps name b List.mem_cons_self d d' h with
    | text hs hs' hwrite =>
      have hlater := ih hwrite.state hrest
      rw [hs, hs']
      simp only
      rw [hwrite.stopped]
      split
      · exact ⟨rfl, rfl, hwrite.state⟩
      · exact ⟨hlater.stopped, congrArg ((name, b) :: ·) hlater.state.1, hlater.state.2⟩
    | event hs hs' hconvert =>
      rw [hs, hs']
      simp only
      rw [hconvert.stopped]
      split
      · exact ⟨rfl, rfl, hconvert.state⟩
      · exact ih hconvert.state hrest

end AttributePart

theorem Part.along_updateChosen (h : R d d') {written : List Part}
    (hupdate : ∀ q ∈ written, ∀ d d', R d d' →
      (q.update context values d).Alike (Along R) (q.update context values' d'))
    (chosen : Nat → Bool) (position : Nat) :
    (updateChosen context values chosen position written d).Alike (Along R)
      (updateChosen context values' chosen position written d') := by
  induction written generalizing d d' position with
  | nil => exact ⟨rfl, rfl, h⟩
  | cons q rest ih =>
    obtain ⟨hq, hrest⟩ := List.forall_mem_cons.1 hupdate
    have hhere : (if chosen position then q.update context values d
        else .done (q, d)).Alike (Along R)
          (if chosen position then q.update context values' d' else .done (q, d')) := by
      split
      · exact hq d d' h
      · exact ⟨rfl, rfl, h⟩
    unfold updateChosen
    have hlater := ih hhere.state.2 hrest (position + 1)
    simp only
    rw [hhere.stopped]
    split
    · exact ⟨rfl, congrArg (· :: rest) hhere.state.1, hhere.state.2⟩
    · exact ⟨hlater.stopped, congrArg₂ List.cons hhere.state.1 hlater.state.1, hlater.state.2⟩

end Runs

/-! ### What is alike -/

/-- The elements differ in the values of bound attributes, and of the properties that go with
the bracketed ones.  All names are the same and in the same order. -/
structure Element.Alike (bindings : List (String × Binding)) (e e' : Element) : Prop
    extends e.Within bindings e' where
  attributeNames : e'.attributes.names = e.attributes.names
  propertyNames : e'.properties.names = e.properties.names

/-- Nodes that hold alike are of one kind, and texts differ only where there is a part. -/
def Content.Alike (parts : List Part) (id : NodeId) : Content → Content → Prop
  | .element e, .element e' => e.Alike (Part.bindingsAt parts id) e'
  | .text s, .text s' => s' = s ∨ ∃ p : ContentPart, .content p ∈ parts ∧ p.node = id
  | c, c' => c' = c

/-- The kinds of the listeners are the same, and the listeners too unless attributes are
bound. -/
structure Record.Alike (parts : List Part) (id : NodeId) (r r' : Record L) : Prop where
  content : r.content.Alike parts id r'.content
  seat : r'.seat = r.seat
  kinds : r'.listeners.map Registration.kind = r.listeners.map Registration.kind
  listeners : r'.listeners = r.listeners ∨ ∃ p : AttributePart, .attributes p ∈ parts ∧ p.element = id

/-- The same nodes are in the same places, and what they hold is alike. -/
structure Document.Alike (parts : List Part) (d d' : Document L) : Prop where
  forest : d'.forest = d.forest
  vacant : d'.vacant = d.vacant
  records : ∀ id : NodeId,
    Option.Rel (Record.Alike parts id) d.records[id.index]? d'.records[id.index]?
  /-- The parts are where they can be written. -/
  fits : ∀ p ∈ parts, p.Fits (d.contentAt p.node)

theorem Element.Alike.refl (bindings : List (String × Binding)) (e : Element) :
    e.Alike bindings e :=
  ⟨.refl bindings e, rfl, rfl⟩

theorem Content.Alike.refl (parts : List Part) (id : NodeId) (c : Content) :
    c.Alike parts id c := by
  cases c with
  | element e => exact Element.Alike.refl _ e
  | text s => exact Or.inl rfl
  | fragment | comment | shadowRoot => exact rfl

theorem Content.Alike.cases {c c' : Content} (h : c.Alike parts id c') :
    (∃ e e', c = .element e ∧ c' = .element e' ∧ e.Alike (Part.bindingsAt parts id) e') ∨
      (∃ s s', c = .text s ∧ c' = .text s') ∨ c' = c := by
  cases c with
  | element e =>
    cases c' with
    | element e' => exact Or.inl ⟨e, e', rfl, rfl, h⟩
    | fragment | text | comment | shadowRoot => cases h
  | text s =>
    cases c' with
    | text s' => exact Or.inr (Or.inl ⟨s, s', rfl, rfl⟩)
    | fragment | element | comment | shadowRoot => cases h
  | fragment | comment | shadowRoot => exact Or.inr (Or.inr h)

theorem Record.Alike.refl (parts : List Part) (id : NodeId) (r : Record L) :
    r.Alike parts id r :=
  ⟨.refl parts id r.content, rfl, rfl, Or.inl rfl⟩

/-! ### Writing an element -/

namespace Element

variable {bindings : List (String × Binding)} {e e' : Element} {name : String}

theorem Alike.insertAttribute (h : e.Alike bindings e') (hname : name ∈ bindings.map Prod.fst)
    (s s' : String) :
    Element.Alike bindings { e with attributes := e.attributes.insert name s }
      { e' with attributes := e'.attributes.insert name s' } where
  tag := h.tag
  shadow := h.shadow
  attributes := by
    simp only [OrderedMap.entriesExcept_insert hname]
    exact h.attributes
  properties := h.properties
  attributeNames := by
    simp only [OrderedMap.names_insert, h.attributeNames]
  propertyNames := h.propertyNames

theorem Alike.eraseAttribute (h : e.Alike bindings e') (hname : name ∈ bindings.map Prod.fst) :
    Element.Alike bindings { e with attributes := e.attributes.erase name }
      { e' with attributes := e'.attributes.erase name } where
  tag := h.tag
  shadow := h.shadow
  attributes := by
    simp only [OrderedMap.entriesExcept_erase hname]
    exact h.attributes
  properties := h.properties
  attributeNames := by
    simp only [OrderedMap.names_erase, h.attributeNames]
  propertyNames := h.propertyNames

theorem Alike.insertProperty (h : e.Alike bindings e')
    (hname : name ∈ (bindings.filter fun entry => entry.2.isProperty).map fun entry =>
      entry.2.cleanName) (s s' : String) :
    Element.Alike bindings { e with properties := e.properties.insert name s }
      { e' with properties := e'.properties.insert name s' } where
  tag := h.tag
  shadow := h.shadow
  attributes := h.attributes
  properties := by
    simp only [OrderedMap.entriesExcept_insert hname]
    exact h.properties
  attributeNames := h.attributeNames
  propertyNames := by
    simp only [OrderedMap.names_insert, h.propertyNames]

end Element

theorem Part.Fits.of_element {p : Part} {e : Element} (h : p.Fits (.element e)) (e' : Element) :
    p.Fits (.element e') := by
  cases p with
  | content p => exact h
  | attributes p => exact h

/-! ### Reading like documents -/

theorem exists_of_rel {α : Type} {R : α → α → Prop} {o o' : Option α} (h : Option.Rel R o o') :
    o = none ∧ o' = none ∨ ∃ a a', o = some a ∧ o' = some a' ∧ R a a' := by
  cases h with
  | none => exact Or.inl ⟨rfl, rfl⟩
  | some hlike => exact Or.inr ⟨_, _, rfl, rfl, hlike⟩

namespace Document

variable {d d' : Document L}

theorem Alike.refl (d : Document L) (hfits : ∀ p ∈ parts, p.Fits (d.contentAt p.node)) :
    d.Alike parts d where
  forest := rfl
  vacant := rfl
  records id := by
    cases d.records[id.index]? with
    | none => exact .none
    | some r => exact .some (.refl parts id r)
  fits := hfits

theorem Alike.contains_eq (h : d.Alike parts d') (id : NodeId) :
    d'.contains id = d.contains id := by
  unfold contains
  rw [h.forest]

theorem Alike.content? (h : d.Alike parts d') (id : NodeId) :
    Option.Rel (Content.Alike parts id) (d.content? id) (d'.content? id) := by
  unfold Document.content? record?
  rw [h.contains_eq]
  split
  · obtain ⟨hr, hr'⟩ | ⟨r, r', hr, hr', hlike⟩ := exists_of_rel (h.records id)
    · rw [hr, hr']
      exact .none
    · rw [hr, hr']
      exact .some hlike.content
  · exact .none

/-- A node is an element in both documents, or is refused as one for the same reason. -/
theorem Alike.element (h : d.Alike parts d') (id : NodeId) :
    (∃ e e', d.element id = .ok e ∧ d'.element id = .ok e' ∧
      e.Alike (Part.bindingsAt parts id) e') ∨
    ∃ error, d.element id = .error error ∧ d'.element id = .error error := by
  unfold Document.element
  obtain ⟨hc, hc'⟩ | ⟨c, c', hc, hc', hlike⟩ := exists_of_rel (h.content? id)
  · rw [hc, hc']
    exact Or.inr ⟨_, rfl, rfl⟩
  · rw [hc, hc']
    obtain ⟨e, e', rfl, rfl, hlike⟩ | ⟨s, s', rfl, rfl⟩ | rfl := hlike.cases
    · exact Or.inl ⟨e, e', rfl, rfl, hlike⟩
    · exact Or.inr ⟨_, rfl, rfl⟩
    · cases c' with
      | element e => exact Or.inl ⟨e, e, rfl, rfl, .refl _ e⟩
      | fragment | text | comment | shadowRoot => exact Or.inr ⟨_, rfl, rfl⟩

theorem Alike.get (h : d.Alike parts d') (id : NodeId) :
    (∃ c c', d.content? id = some c ∧ d'.content? id = some c' ∧ d.get id = .ok c ∧
      d'.get id = .ok c' ∧ c.Alike parts id c') ∨
    d.get id = .error (.unknownNode id) ∧ d'.get id = .error (.unknownNode id) := by
  unfold Document.get
  obtain ⟨hc, hc'⟩ | ⟨c, c', hc, hc', hlike⟩ := exists_of_rel (h.content? id)
  · rw [hc, hc']
    exact Or.inr ⟨rfl, rfl⟩
  · rw [hc, hc']
    exact Or.inl ⟨c, c', rfl, rfl, rfl, rfl, hlike⟩

/-! ### One write -/

/-- Records of one node are changed alike. -/
theorem Alike.modifyRecord (h : d.Alike parts d') {change change' : Record L → Record L}
    (hchange : ∀ r r', d.records[id.index]? = some r → r.Alike parts id r' →
      (change r).Alike parts id (change' r'))
    (hfits : ∀ r (p : Part), d.records[id.index]? = some r → p.Fits r.content →
      p.Fits (change r).content) :
    (d.modifyRecord id change).Alike parts (d'.modifyRecord id change') where
  forest := h.forest
  vacant := h.vacant
  records other := by
    rw [getElem?_records_modifyRecord, getElem?_records_modifyRecord]
    by_cases hother : other = id
    · subst hother
      rw [if_pos rfl, if_pos rfl]
      obtain ⟨hr, hr'⟩ | ⟨r, r', hr, hr', hlike⟩ := exists_of_rel (h.records other)
      · rw [hr, hr']
        exact .none
      · rw [hr, hr']
        exact .some (hchange r r' hr hlike)
    · rw [if_neg hother, if_neg hother]
      exact h.records other
  fits p hp := by
    have hold := h.fits p hp
    by_cases hnode : p.node = id
    · unfold contentAt at hold ⊢
      rw [getElem?_records_modifyRecord, if_pos hnode]
      cases hr : d.records[p.node.index]? with
      | none => rw [hr] at hold; exact hold
      | some r =>
        rw [hr] at hold
        exact hfits r p (hnode ▸ hr) hold
    · rwa [contentAt_modifyRecord_ne hnode]

theorem Alike.setContent (h : d.Alike parts d') {old c c' : Content}
    (hold : d.content? id = some old) (hlike : c.Alike parts id c')
    (hfits : ∀ p : Part, p.Fits old → p.Fits c) :
    (d.setContent id c).Alike parts (d'.setContent id c') := by
  obtain ⟨-, held, hheld, rfl⟩ := content?_eq_some_iff.1 hold
  refine h.modifyRecord (fun r r' _ hr => ⟨hlike, hr.seat, hr.kinds, hr.listeners⟩) ?_
  intro r p hr
  rw [hheld, Option.some.injEq] at hr
  exact hr ▸ hfits p

/-- **Elements are changed alike, or refuse it for the same reason.** -/
theorem Alike.modifyElement (h : d.Alike parts d') {change change' : Element → Element}
    (hchange : ∀ e e' : Element, e.Alike (Part.bindingsAt parts id) e' →
      (change e).Alike (Part.bindingsAt parts id) (change' e')) :
    (Attempt.ofExcept d (d.modifyElement id change)).Alike (Document.Alike parts)
      (.ofExcept d' (d'.modifyElement id change')) := by
  unfold Document.modifyElement
  obtain ⟨e, e', he, he', hlike⟩ | ⟨error, he, he'⟩ := h.element id
  · rw [he, he']
    exact ⟨rfl, h.setContent (element_eq_ok_iff.1 he) (hchange e e' hlike)
      fun p hp => hp.of_element _⟩
  · rw [he, he']
    exact ⟨rfl, h⟩

/-- A text that has a part can be written, unless it is gone. -/
theorem Alike.setText (h : d.Alike parts d') {p : ContentPart} (hp : .content p ∈ parts)
    (s s' : String) :
    (Attempt.ofExcept d (d.setText p.node s)).Alike (Document.Alike parts)
      (.ofExcept d' (d'.setText p.node s')) := by
  have hfits := h.fits _ hp
  unfold Document.setText
  obtain ⟨hc, hc'⟩ | ⟨c, c', hc, hc', hlike⟩ := exists_of_rel (h.content? p.node)
  · rw [hc, hc']
    exact ⟨rfl, h⟩
  · change (Part.content p).Fits (d.contentAt p.node) at hfits
    rw [contentAt_of_content? hc] at hfits
    rw [hc, hc']
    cases c with
    | text old =>
      cases c' with
      | text old' =>
        refine ⟨rfl, h.setContent hc (Or.inr ⟨p, hp, rfl⟩) fun q hq => ?_⟩
        cases q with
        | content q => trivial
        | attributes q => exact hq
      | fragment | element | comment | shadowRoot => cases hlike
    | fragment | element | comment | shadowRoot => exact hfits.elim

/-- Listeners of one kind, where attributes are bound. -/
theorem Alike.addListener (h : d.Alike parts d') {p : AttributePart}
    (hp : .attributes p ∈ parts) (kind : String) (listener listener' : L) :
    (Attempt.ofExcept d (d.addListener p.element kind listener)).Alike (Document.Alike parts)
      (.ofExcept d' (d'.addListener p.element kind listener')) := by
  unfold Document.addListener
  obtain ⟨c, c', -, -, hget, hget', -⟩ | ⟨hget, hget'⟩ := h.get p.element
  · rw [hget, hget']
    refine ⟨rfl, h.modifyRecord (fun r r' _ hlike => ?_) fun _ _ _ hfits => hfits⟩
    refine ⟨hlike.content, hlike.seat, ?_, Or.inr ⟨p, hp, rfl⟩⟩
    rw [List.map_append, List.map_append, hlike.kinds]
    rfl
  · rw [hget, hget']
    exact ⟨rfl, h⟩

end Document

/-! ### Writing parts -/

section

variable {d d' : Document L} {values values' : List (Value H)}

/-- The same slots hold handlers. -/
def SameHandlers (values values' : List (Value H)) : Prop :=
  ∀ slot, holdsHandler values' slot = holdsHandler values slot

/-- The same, with like documents. -/
structure Beside {α : Type} (parts : List Part) (x x' : α × Document L) : Prop where
  fst : x'.1 = x.1
  snd : x.2.Alike parts x'.2

/-- An attribute comes to a text in both cases, or to a listener in both. -/
theorem Binding.resolve_of_sameHandlers (h : SameHandlers values values') (b : Binding) :
    (∃ s s', b.resolve values = .text s ∧ b.resolve values' = .text s') ∨
      ∃ handler handler', b.resolve values = .event handler ∧
        b.resolve values' = .event handler' := by
  have hsome : (b.handler? values').isSome = (b.handler? values).isSome := by
    unfold handler?
    rw [Bool.eq_iff_iff, List.findSome?_isSome_iff, List.findSome?_isSome_iff]
    have hslot := h
    unfold SameHandlers holdsHandler at hslot
    simp only [hslot]
  unfold resolve
  cases hhandler : b.handler? values with
  | none =>
    rw [hhandler, Option.isSome_none, Option.isSome_eq_false_iff, Option.isNone_iff_eq_none] at hsome
    rw [hsome]
    exact Or.inl ⟨_, _, rfl, rfl⟩
  | some handler =>
    rw [hhandler, Option.isSome_some] at hsome
    obtain ⟨handler', hhandler'⟩ := Option.isSome_iff_exists.1 hsome
    rw [hhandler']
    exact Or.inr ⟨handler, handler', rfl, rfl⟩

namespace AttributePart

variable {p : AttributePart} {entry : String × Binding}

/-- Bound attributes are written alike, whatever is written. -/
theorem alike_write (h : d.Alike parts d') (hp : .attributes p ∈ parts)
    (hentry : entry ∈ p.bindings.entries) (s s' : String) :
    (write p.element entry.1 entry.2 s d).Alike (Document.Alike parts)
      (write p.element entry.1 entry.2 s' d') := by
  have hbound := Part.mem_bindingsAt hp hentry
  have hname := List.mem_map_of_mem (f := Prod.fst) hbound
  unfold write
  split
  · next hproperty =>
    refine Attempt.Alike.andThen ?_ fun d₁ d₁' h₁ => ?_
    · refine h.modifyElement fun e e' hlike => hlike.insertProperty ?_ s s'
      exact List.mem_map.2 ⟨entry, List.mem_filter.2 ⟨hbound, hproperty⟩, rfl⟩
    · exact h₁.modifyElement fun e e' hlike => hlike.eraseAttribute hname
  · exact h.modifyElement fun e e' hlike => hlike.insertAttribute hname s s'

/-- They become listeners alike, whichever. -/
theorem alike_convert (h : d.Alike parts d') (hp : .attributes p ∈ parts)
    (hentry : entry ∈ p.bindings.entries) (listener listener' : L) :
    (convert p.element entry.1 listener d).Alike (Document.Alike parts)
      (convert p.element entry.1 listener' d') := by
  have hname := List.mem_map_of_mem (f := Prod.fst) (Part.mem_bindingsAt hp hentry)
  refine Attempt.Alike.andThen (h.addListener hp _ listener listener') fun d₁ d₁' h₁ => ?_
  exact h₁.modifyElement fun e e' hlike => hlike.eraseAttribute hname

theorem alike_updateBindings (h : d.Alike parts d') (hp : .attributes p ∈ parts)
    (hhandlers : SameHandlers values values') (context : Context L H)
    (bindings : List (String × Binding)) (hbindings : ∀ entry ∈ bindings, entry ∈ p.bindings.entries) :
    (updateBindings context p.element values bindings d).Alike (Beside parts)
      (updateBindings context p.element values' bindings d') := by
  refine (along_updateBindings h p.element fun name b hb d d' h => ?_).imp
    fun _ _ halong => ⟨halong.1, halong.2⟩
  have hbound := hbindings _ hb
  obtain ⟨s, s', hs, hs'⟩ | ⟨handler, handler', hs, hs'⟩ := b.resolve_of_sameHandlers hhandlers
  · exact .text hs hs' (alike_write h hp hbound s s')
  · exact .event hs hs' (alike_convert h hp hbound _ _)

end AttributePart

namespace Part

theorem alike_update (h : d.Alike parts d') {q : Part} (hq : ∃ p ∈ parts, q.LeftOf p)
    (hhandlers : SameHandlers values values') (context : Context L H) :
    (q.update context values d).Alike (Beside parts) (q.update context values' d') := by
  obtain ⟨p, hp, hleft⟩ := hq
  cases hleft with
  | content p =>
    exact (h.setText hp (p.render values) (p.render values')).map fun _ _ hdocument =>
      ⟨rfl, hdocument⟩
  | @attributes q p helement hbindings =>
    have hwritten := AttributePart.alike_updateBindings h hp hhandlers context q.bindings.entries
      fun entry hentry => hbindings.subset hentry
    rw [← helement] at hwritten
    exact ⟨hwritten.stopped,
      congrArg (fun bound => attributes { q with bindings := ⟨bound⟩ }) hwritten.state.fst,
      hwritten.state.snd⟩

/-- **Writing parts with other values makes like documents of like documents, leaves the same
parts, and stops for the same reason.** -/
theorem alike_updateChosen (h : d.Alike parts d') (hhandlers : SameHandlers values values')
    (context : Context L H) (chosen : Nat → Bool) (position : Nat) (written : List Part)
    (hwritten : ∀ q ∈ written, ∃ p ∈ parts, q.LeftOf p) :
    (updateChosen context values chosen position written d).Alike (Beside parts)
      (updateChosen context values' chosen position written d') := by
  have halong := along_updateChosen h (fun q hq d d' h =>
    (alike_update h (hwritten q hq) hhandlers context).imp
      fun _ _ hbeside => ⟨hbeside.fst, hbeside.snd⟩) chosen position
  exact halong.imp fun _ _ halong => ⟨halong.1, halong.2⟩

end Part

end

end LiveMarkup
