/-
What writing parts may change.

A part is bound to certain things at its node: the characters of a text, or some attributes
and properties of an element.  `Document.Within` says that a document differs from another
in nothing else, and that listeners have only been added where attributes are bound.  It can
be composed, and every single write has it, so writing parts has it however far it gets.

The other entries of an element are said to be the same as a list, so they have kept their
order too.
-/
import LiveMarkup.Proofs.Document.Reachable
import LiveMarkup.Proofs.Part.Keeping
import LiveMarkup.Proofs.Part.Writing

namespace LiveMarkup

variable {L H : Type} {parts : List Part} {id : NodeId}

/-- The attributes that parts are bound to at a node. -/
def Part.bindingsAt (parts : List Part) (id : NodeId) : List (String × Binding) :=
  parts.flatMap fun
    | .attributes p => if p.element = id then p.bindings.entries else []
    | .content _ => []

theorem Part.mem_bindingsAt {p : AttributePart} (hp : .attributes p ∈ parts)
    {entry : String × Binding} (hentry : entry ∈ p.bindings.entries) :
    entry ∈ Part.bindingsAt parts p.element :=
  List.mem_flatMap.2 ⟨_, hp, by simpa using hentry⟩

/-- The element is another only in bound attributes, and in the properties that go with the
bracketed ones. -/
structure Element.Within (bindings : List (String × Binding)) (e e' : Element) : Prop where
  tag : e'.tag = e.tag
  shadow : e'.shadow = e.shadow
  attributes : e'.attributes.entriesExcept (bindings.map Prod.fst) =
    e.attributes.entriesExcept (bindings.map Prod.fst)
  properties :
    e'.properties.entriesExcept
        ((bindings.filter fun entry => entry.2.isProperty).map fun entry => entry.2.cleanName) =
      e.properties.entriesExcept
        ((bindings.filter fun entry => entry.2.isProperty).map fun entry => entry.2.cleanName)

/-- What a node holds is different only in what parts are bound to. -/
def Content.Within (parts : List Part) (id : NodeId) : Content → Content → Prop
  | .element e, .element e' => e.Within (Part.bindingsAt parts id) e'
  | .text s, .text s' => s' = s ∨ ∃ p : ContentPart, .content p ∈ parts ∧ p.node = id
  | c, c' => c' = c

/-- What is known of a node is different only in what parts are bound to, and it has more
listeners only if these are attributes. -/
structure Record.Within (parts : List Part) (id : NodeId) (r r' : Record L) : Prop where
  content : r.content.Within parts id r'.content
  seat : r'.seat = r.seat
  listeners : ∃ new, r'.listeners = r.listeners ++ new ∧
    (new = [] ∨ ∃ p : AttributePart, .attributes p ∈ parts ∧ p.element = id)

/-- The same nodes are in the same places, and each is different only in what parts are bound
to. -/
structure Document.Within (parts : List Part) (d d' : Document L) : Prop where
  forest : d'.forest = d.forest
  vacant : d'.vacant = d.vacant
  size : d'.records.size = d.records.size
  record : ∀ id r, d.record? id = some r →
    ∃ r', d'.record? id = some r' ∧ r.Within parts id r'

/-! ### Composition -/

theorem Element.Within.refl (bindings : List (String × Binding)) (e : Element) :
    e.Within bindings e :=
  ⟨rfl, rfl, rfl, rfl⟩

theorem Element.Within.trans {bindings : List (String × Binding)} {e e' e'' : Element}
    (h : e.Within bindings e') (h' : e'.Within bindings e'') : e.Within bindings e'' :=
  ⟨h'.tag.trans h.tag, h'.shadow.trans h.shadow, h'.attributes.trans h.attributes,
    h'.properties.trans h.properties⟩

namespace Content

theorem Within.refl (parts : List Part) (id : NodeId) (c : Content) : c.Within parts id c := by
  cases c with
  | element e => exact Element.Within.refl _ e
  | text s => exact Or.inl rfl
  | fragment | comment | shadowRoot => exact rfl

theorem Within.trans {c c' c'' : Content} (h : c.Within parts id c')
    (h' : c'.Within parts id c'') : c.Within parts id c'' := by
  cases c with
  | element e =>
    cases c' with
    | element e' =>
      cases c'' with
      | element e'' => exact Element.Within.trans h h'
      | fragment | text | comment | shadowRoot => cases h'
    | fragment | text | comment | shadowRoot => cases h
  | text s =>
    cases c' with
    | text s' =>
      cases c'' with
      | text s'' =>
        rcases h' with rfl | hpart
        · exact h
        · exact Or.inr hpart
      | fragment | element | comment | shadowRoot => cases h'
    | fragment | element | comment | shadowRoot => cases h
  | fragment | comment | shadowRoot =>
    obtain rfl : c' = _ := h
    exact h'

theorem Within.eq_of_comment {c : Content} {s : String} (h : c.Within parts id (.comment s)) :
    c = .comment s := by
  cases c with
  | comment s' => exact Eq.symm h
  | fragment | element | text | shadowRoot => cases h

end Content

theorem Record.Within.refl (parts : List Part) (id : NodeId) (r : Record L) :
    r.Within parts id r :=
  ⟨Content.Within.refl parts id r.content, rfl, [], (List.append_nil _).symm, Or.inl rfl⟩

theorem Record.Within.trans {r r' r'' : Record L} (h : r.Within parts id r')
    (h' : r'.Within parts id r'') : r.Within parts id r'' where
  content := h.content.trans h'.content
  seat := h'.seat.trans h.seat
  listeners := by
    obtain ⟨new, hnew, hwhere⟩ := h.listeners
    obtain ⟨new', hnew', hwhere'⟩ := h'.listeners
    refine ⟨new ++ new', by rw [hnew', hnew, List.append_assoc], ?_⟩
    rcases hwhere with rfl | hpart
    · exact hwhere'
    · exact Or.inr hpart

/-- A change of what a node holds, with its listeners kept. -/
theorem Record.Within.of_content {r : Record L} {c c' : Content} (hold : r.content = c)
    (h : c.Within parts id c') : r.Within parts id { r with content := c' } :=
  ⟨hold ▸ h, rfl, [], (List.append_nil _).symm, Or.inl rfl⟩

namespace Document

variable {d d' d'' : Document L}

theorem Within.refl (parts : List Part) (d : Document L) : d.Within parts d :=
  ⟨rfl, rfl, rfl, fun id r hr => ⟨r, hr, Record.Within.refl parts id r⟩⟩

theorem Within.contains_eq (h : d.Within parts d') (id : NodeId) :
    d'.contains id = d.contains id := by
  unfold contains
  rw [h.forest]

/-! ### One write -/

/-- A write is one more change of one record. -/
theorem Within.modifyRecord (h : d.Within parts d') {change : Record L → Record L}
    (hchange : ∀ r, d'.record? id = some r → r.Within parts id (change r)) :
    d.Within parts (d'.modifyRecord id change) where
  forest := h.forest
  vacant := h.vacant
  size := (size_records_modifyRecord change).trans h.size
  record := by
    intro other r hr
    obtain ⟨r', hr', hwithin⟩ := h.record other r hr
    rw [record?_modifyRecord]
    by_cases hother : other = id
    · subst hother
      rw [if_pos rfl, hr']
      exact ⟨_, rfl, hwithin.trans (hchange r' hr')⟩
    · rw [if_neg hother]
      exact ⟨r', hr', hwithin⟩

theorem Within.setContent {c c' : Content} (h : d.Within parts d') (hold : d'.content? id = some c)
    (hwithin : c.Within parts id c') : d.Within parts (d'.setContent id c') := by
  refine h.modifyRecord fun r hr => Record.Within.of_content ?_ hwithin
  rw [content?, hr] at hold
  exact Option.some.inj hold

theorem Within.modifyElement (h : d.Within parts d') {change : Element → Element}
    (hd : d'.modifyElement id change = .ok d'')
    (hchange : ∀ e : Element, e.Within (Part.bindingsAt parts id) (change e)) :
    d.Within parts d'' := by
  unfold Document.modifyElement at hd
  cases he : d'.element id with
  | error e => rw [he] at hd; cases hd
  | ok e =>
    rw [he] at hd
    cases hd
    exact h.setContent (element_eq_ok_iff.1 he) (hchange e)

/-- A node holds what it held before, but for what parts are bound to. -/
theorem Within.exists_content? (h : d.Within parts d') (hwf : d.WellFormed) {c' : Content}
    (hc' : d'.content? id = some c') :
    ∃ c, d.content? id = some c ∧ c.Within parts id c' := by
  have hlive := contains_of_content? hc'
  rw [h.contains_eq] at hlive
  obtain ⟨r, hr⟩ := hwf.exists_record? hlive
  obtain ⟨r', hr', hwithin⟩ := h.record id r hr
  rw [content?, hr'] at hc'
  obtain rfl := Option.some.inj hc'
  exact ⟨r.content, by rw [content?, hr]; rfl, hwithin.content⟩

/-- A text is written if it was a text to start with. -/
theorem Within.setText (h : d.Within parts d') (hwf : d.WellFormed) {p : ContentPart}
    (hp : .content p ∈ parts)
    (hfits : ∀ c, d.content? p.node = some c → (Part.content p).Fits c) {s : String}
    (hd : d'.setText p.node s = .ok d'') : d.Within parts d'' := by
  unfold Document.setText at hd
  split at hd
  · next hold =>
    cases hd
    exact h.setContent hold (Or.inr ⟨p, hp, rfl⟩)
  · next old hold =>
    -- A comment could be written too, but this node is none.
    obtain ⟨c, hc, hwithin⟩ := h.exists_content? hwf hold
    have hfit := hfits c hc
    rw [hwithin.eq_of_comment] at hfit
    exact hfit.elim
  · cases hd
  · cases hd

theorem Within.addListener (h : d.Within parts d') {p : AttributePart}
    (hp : .attributes p ∈ parts) {kind : String} {listener : L}
    (hd : d'.addListener p.element kind listener = .ok d'') : d.Within parts d'' := by
  unfold Document.addListener at hd
  cases hget : d'.get p.element with
  | error e => rw [hget] at hd; cases hd
  | ok content =>
    rw [hget] at hd
    cases hd
    refine h.modifyRecord fun r _ => ⟨Content.Within.refl _ _ _, rfl, _, rfl, ?_⟩
    exact Or.inr ⟨p, hp, rfl⟩

/-- **Parts write nothing but what they are bound to.** -/
theorem keptByWriting_within (values : List (Value H)) (hwf : d.WellFormed)
    (hfits : ∀ p ∈ parts, ∀ c, d.content? p.node = some c → p.Fits c) :
    KeptByWriting values parts (d.Within parts) where
  setText hp h hd := h.setText hwf hp (hfits _ hp) hd
  setAttribute hp hentry h hd := h.modifyElement hd fun e =>
    ⟨rfl, rfl, OrderedMap.entriesExcept_insert
      (List.mem_map_of_mem (Part.mem_bindingsAt hp hentry)) e.attributes _, rfl⟩
  removeAttribute hp hentry h hd := h.modifyElement hd fun e =>
    ⟨rfl, rfl, OrderedMap.entriesExcept_erase
      (List.mem_map_of_mem (Part.mem_bindingsAt hp hentry)) e.attributes, rfl⟩
  setProperty hp hentry hproperty h hd := h.modifyElement hd fun e =>
    ⟨rfl, rfl, rfl, OrderedMap.entriesExcept_insert (List.mem_map.2
      ⟨_, List.mem_filter.2 ⟨Part.mem_bindingsAt hp hentry, hproperty⟩, rfl⟩) e.properties _⟩
  addListener hp h hd := h.addListener hp hd

end Document

end LiveMarkup
