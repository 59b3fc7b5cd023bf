/-
What is left of the markers.

A slot can stand anywhere in the markup, and the parser puts its marker wherever that is: into a
text, the value of an attribute, a comment, and into the name of a tag or an attribute too.
Rendering fills the markers in texts and values, and what it fills in is not scanned.  So there
is a token in a text or a value afterwards only if the brace of its delimiter came from
elsewhere: from a value, or from the markup, where a reference can spell it (`Unbraced`).

No name is ever written but one that was there.  The tokens in a rendered tree are in the names
that the parser made, and stay in these (`leftover_of_refreshed`).
-/
import LiveMarkup.Proofs.Template.Footprint
import LiveMarkup.Proofs.Template.OwnMarkers

namespace LiveMarkup

open Marker Markup

variable {L H : Type}

/-! ### Filling in texts -/

namespace Marker

variable {s : String}

/-- Without its markers the text has no opening brace. -/
def Unbraced (s : String) : Prop := '\x7b' ∉ (substitute s fun _ => "").toList

instance (s : String) : Decidable (Unbraced s) := inferInstanceAs (Decidable (¬ _))

theorem isMarker_of_not_mem (h : '\x7b' ∉ s.toList) : isMarker s = false := by
  rw [← Bool.not_eq_true, isMarker_iff]
  rintro ⟨before, body, after, heq⟩
  refine h ?_
  rw [heq]
  exact List.mem_append_right _ (List.mem_append_left _ (by decide))

theorem clear_of_not_mem (h : '\x7b' ∉ s.toList) : Clear s :=
  fun hopening => h (hopening.subset (by decide))

theorem Segment.mem_fill {value : Nat → String} {segment : Segment} {c : Char}
    (h : c ∈ segment.fill value) :
    c ∈ segment.fill (fun _ => "") ∨ ∃ index, c ∈ (value index).toList := by
  cases segment with
  | plain text => exact Or.inl h
  | token body =>
    cases hindex : index? body with
    | none =>
      simp only [fill, hindex] at h ⊢
      exact Or.inl h
    | some index =>
      simp only [fill, hindex] at h
      exact Or.inr ⟨index, h⟩

/-- **No token comes of texts without a brace.** -/
theorem Unbraced.isMarker_substitute (h : Unbraced s) {value : Nat → String}
    (hvalue : ∀ index, '\x7b' ∉ (value index).toList) : isMarker (substitute s value) = false := by
  refine isMarker_of_not_mem fun hmem => ?_
  unfold substitute at hmem
  rw [String.toList_ofList] at hmem
  obtain ⟨segment, hsegment, hc⟩ := List.mem_flatMap.1 hmem
  rcases segment.mem_fill hc with hplain | ⟨index, hindex⟩
  · refine h ?_
    unfold substitute
    rw [String.toList_ofList]
    exact List.mem_flatMap.2 ⟨segment, hsegment, hplain⟩
  · exact hvalue index hindex

end Marker

/-- No value is displayed with an opening brace. -/
def Braceless (values : List (Value H)) : Prop := ∀ v ∈ values, '\x7b' ∉ v.display.toList

namespace Braceless

instance (values : List (Value H)) : Decidable (Braceless values) :=
  inferInstanceAs (Decidable (∀ v ∈ values, _))

variable {values : List (Value H)}

theorem shown_content (h : Braceless values) (index : Nat) :
    '\x7b' ∉ (ContentPart.shown values index).toList := by
  unfold ContentPart.shown
  split
  · decide
  · decide
  · next v _ hv => exact h v (List.mem_of_getElem? hv)

theorem shown_binding (h : Braceless values) (index : Nat) :
    '\x7b' ∉ (Binding.shown values index).toList := by
  unfold Binding.shown
  split
  · decide
  · next v hv =>
    unfold Value.displayOrEmpty
    split
    · decide
    · exact h v (List.mem_of_getElem? hv)

end Braceless

/-! ### Filling in nodes -/

namespace Content

/-- The names that a node shows: of its tag and of its attributes. -/
def names : Content → List String
  | .element e => e.tag :: e.attributes.names
  | .fragment | .text _ | .comment _ | .shadowRoot => []

/-- There is no token but in a name, and the names are among these. -/
structure Filled (names : List String) (c : Content) : Prop where
  names : c.names ⊆ names
  texts : ∀ s ∈ c.markedTexts, isMarker s = false

variable {names : List String} {e : Element} {values : List (Value H)}

theorem filled_element_iff : (Content.element e).Filled names ↔
    e.tag ∈ names ∧ ∀ entry ∈ e.attributes.entries, entry.1 ∈ names ∧ isMarker entry.2 = false := by
  constructor
  · rintro ⟨hnames, htexts⟩
    refine ⟨hnames List.mem_cons_self, fun entry hentry => ⟨?_, ?_⟩⟩
    · exact hnames (List.mem_cons_of_mem e.tag (List.mem_map_of_mem hentry))
    · exact htexts entry.2 (List.mem_map_of_mem hentry)
  · rintro ⟨htag, hentries⟩
    refine ⟨List.cons_subset.2 ⟨htag, fun name hname => ?_⟩, ?_⟩
    · obtain ⟨entry, hentry, rfl⟩ := List.mem_map.1 hname
      exact (hentries entry hentry).1
    · exact List.forall_mem_map.2 fun entry hentry => (hentries entry hentry).2

theorem Filled.insert (h : (Content.element e).Filled names) {name value : String}
    (hname : name ∈ names) (hvalue : isMarker value = false) :
    (Content.element { e with attributes := e.attributes.insert name value }).Filled names := by
  rw [filled_element_iff] at h ⊢
  refine ⟨h.1, fun entry hentry => ?_⟩
  rcases OrderedMap.mem_entries_insert hentry with rfl | hentry
  · exact ⟨hname, hvalue⟩
  · exact h.2 entry hentry

theorem Filled.erase (h : (Content.element e).Filled names) (name : String) :
    (Content.element { e with attributes := e.attributes.erase name }).Filled names := by
  rw [filled_element_iff] at h ⊢
  exact ⟨h.1, fun entry hentry => h.2 entry (List.mem_of_mem_filter hentry)⟩

theorem Filled.properties (h : (Content.element e).Filled names) (m : OrderedMap String) :
    (Content.element { e with properties := m }).Filled names :=
  ⟨h.names, h.texts⟩

/-- An attribute that is there afterwards. -/
theorem isMarker_of_fate {first : List (Value H)} {entry entry' : String × String}
    (hunbraced : Unbraced entry.2) (hvalues : Braceless values)
    (h : (Fate.ofAttribute first values entry.1 entry.2).attribute? entry.1 entry.2 =
      some entry') : entry'.1 = entry.1 ∧ isMarker entry'.2 = false := by
  unfold Fate.ofAttribute at h
  split at h
  · split at h
    · cases h
    · simp only at h
      split at h
      · cases h
      · cases h
        exact ⟨rfl, hunbraced.isMarker_substitute hvalues.shown_binding⟩
  · next hbound =>
    -- An attribute that is not bound had no token to start with.
    cases h
    exact ⟨rfl, (Bool.or_eq_false_iff.1 (Bool.not_eq_true _ ▸ hbound)).1⟩

/-- **What the values make of a node.** -/
theorem filled_rendered {c : Content} (hunbraced : ∀ s ∈ c.markedTexts, Unbraced s)
    (first : List (Value H)) (hvalues : Braceless values) :
    (c.rendered first values).Filled c.names := by
  cases c with
  | fragment | comment | shadowRoot => exact ⟨List.nil_subset _, nofun⟩
  | text s =>
    refine ⟨List.nil_subset _, List.forall_mem_singleton.2 ?_⟩
    exact (hunbraced s (List.mem_singleton_self s)).isMarker_substitute hvalues.shown_content
  | element e =>
    refine filled_element_iff.2 ⟨List.mem_cons_self, fun entry' hentry' => ?_⟩
    obtain ⟨entry, hentry, hfate⟩ := List.mem_filterMap.1 hentry'
    obtain ⟨hname, hvalue⟩ := isMarker_of_fate
      (hunbraced _ (List.mem_map_of_mem (f := Prod.snd) hentry)) hvalues hfate
    exact ⟨hname ▸ List.mem_cons_of_mem e.tag (List.mem_map_of_mem hentry), hvalue⟩

end Content

/-! ### Writing parts -/

namespace Part

variable {names : List String} {p q : Part}

/-- The part has texts without a brace of their own, and attributes of these names. -/
def FillsIn (names : List String) : Part → Prop
  | content p => Unbraced p.base
  | attributes p => ∀ entry ∈ p.bindings.entries, entry.1 ∈ names ∧ Unbraced entry.2.base

theorem fillsIn_of? {id : NodeId} {c : Content} (h : of? id c = some p)
    (hunbraced : ∀ s ∈ c.markedTexts, Unbraced s) : p.FillsIn c.names := by
  cases c with
  | fragment | comment | shadowRoot => cases h
  | text s =>
    simp only [of?, Option.ite_none_right_eq_some, Option.some.injEq] at h
    rw [← h.2]
    exact hunbraced s (List.mem_singleton_self s)
  | element e =>
    simp only [of?, Option.ite_none_left_eq_some, Option.some.injEq] at h
    rw [← h.2]
    intro entry hentry
    obtain ⟨held, hheld, rfl⟩ := List.mem_map.1 hentry
    have hattribute := List.mem_of_mem_filter hheld
    exact ⟨List.mem_cons_of_mem _ (List.mem_map_of_mem hattribute),
      hunbraced _ (List.mem_map_of_mem (f := Prod.snd) hattribute)⟩

theorem LeftOf.fillsIn (h : q.LeftOf p) (hp : p.FillsIn names) : q.FillsIn names := by
  cases h with
  | content => exact hp
  | attributes _ hbindings => exact fun entry hentry => hp entry (hbindings.subset hentry)

end Part

namespace Document

variable {names : List String} {id other : NodeId} {d d' : Document L}

/-- If the node is there, there is no token at it but in these names. -/
def FilledAt (names : List String) (id : NodeId) (d : Document L) : Prop :=
  ∀ c, d.content? id = some c → c.Filled names

theorem FilledAt.modifyRecord (h : d.FilledAt names id) {change : Record L → Record L}
    (hchange : other = id → ∀ r, d.record? id = some r → (change r).content.Filled names) :
    (d.modifyRecord other change).FilledAt names id := by
  intro c hc
  by_cases hid : id = other
  · unfold content? at hc
    rw [record?_modifyRecord, if_pos hid, Option.map_map, Option.map_eq_some_iff] at hc
    obtain ⟨r, hr, rfl⟩ := hc
    exact hchange hid.symm r hr
  · rw [content?_modifyRecord_ne hid] at hc
    exact h c hc

theorem FilledAt.setText (h : d.FilledAt names id) {s : String}
    (hs : other = id → isMarker s = false) (hd : d.setText other s = .ok d') :
    d'.FilledAt names id := by
  unfold Document.setText at hd
  split at hd
  · cases hd
    exact h.modifyRecord fun hother _ _ =>
      ⟨List.nil_subset _, List.forall_mem_singleton.2 (hs hother)⟩
  · cases hd
    exact h.modifyRecord fun _ _ _ => ⟨List.nil_subset _, nofun⟩
  · cases hd
  · cases hd

theorem FilledAt.modifyElement (h : d.FilledAt names id) {change : Element → Element}
    (hchange : other = id → ∀ e : Element, (Content.element e).Filled names →
      (Content.element (change e)).Filled names)
    (hd : d.modifyElement other change = .ok d') : d'.FilledAt names id := by
  unfold Document.modifyElement at hd
  cases he : d.element other with
  | error e => rw [he] at hd; cases hd
  | ok e =>
    rw [he] at hd
    cases hd
    refine h.modifyRecord fun hother r _ => hchange hother e (h _ ?_)
    rw [← hother]
    exact element_eq_ok_iff.1 he

theorem FilledAt.addListener (h : d.FilledAt names id) {kind : String} {listener : L}
    (hd : d.addListener other kind listener = .ok d') : d'.FilledAt names id := by
  intro c hc
  exact h c ((content?_addListener hd id).symm.trans hc)

/-- **Parts put no token into the node.** -/
theorem keptByWriting_filledAt {values : List (Value H)} (hvalues : Braceless values)
    {parts : List Part} (hparts : ∀ p ∈ parts, p.node = id → p.FillsIn names) :
    KeptByWriting values parts (FilledAt (L := L) names id) where
  setText hp h hd := h.setText (fun hid =>
    Unbraced.isMarker_substitute (hparts _ hp hid) hvalues.shown_content) hd
  setAttribute hp hentry h hd := h.modifyElement (fun hid _ he =>
    have hfills := hparts _ hp hid _ hentry
    he.insert hfills.1 (hfills.2.isMarker_substitute hvalues.shown_binding)) hd
  removeAttribute _ _ h hd := h.modifyElement (fun _ _ he => he.erase _) hd
  setProperty _ _ _ h hd := h.modifyElement (fun _ _ he => he.properties _) hd
  addListener _ h hd := h.addListener hd

end Document

/-! ### Renders and updates -/

namespace Template

variable {t : Template L H} {d d' : Document L} {context : Context L H} {names : List String}
  {node : NodeId} {values : List (Value H)}

/-- A rendered template and its document later on, as far as one node is concerned: there were
updates in whole or in part, possibly with errors, with values that show no brace, and whatever
else happened left the node as it was, or took it out. -/
inductive Refreshed (node : NodeId) (s : Template L H × Document L) :
    Template L H × Document L → Prop
  | refl : Refreshed node s s
  | update {t : Template L H} {d : Document L} (h : Refreshed node s (t, d))
      {values : List (Value H)} (hvalues : Braceless values) :
      Refreshed node s (t.update d values).state
  | updateSlots {t : Template L H} {d : Document L} (h : Refreshed node s (t, d))
      {values : List (Value H)} (hvalues : Braceless values) (changed : List Nat) :
      Refreshed node s (t.updateSlots d values changed).state
  | elsewhere {t : Template L H} {d d' : Document L} (h : Refreshed node s (t, d))
      (hsame : ∀ c, d'.content? node = some c → d.content? node = some c) : Refreshed node s (t, d')

/-- There is no token at the node but in these names, and the parts put none there. -/
structure FillsIn (names : List String) (node : NodeId) (s : Template L H × Document L) : Prop where
  parts : ∀ p ∈ s.1.parts, p.node = node → p.FillsIn names
  filled : s.2.FilledAt names node

/-- One update. -/
theorem FillsIn.updateWith (h : FillsIn names node (t, d)) (chosen : Registry → Nat → Bool)
    (hvalues : Braceless values) : FillsIn names node (t.updateWith chosen d values).state where
  parts := by
    intro q hq hid
    obtain ⟨p, hp, hleft⟩ := exists_leftOf_of_mem_parts chosen t d values q hq
    exact hleft.fillsIn (h.parts p hp (hleft.node ▸ hid))
  filled := by
    have hkept := Document.keptByWriting_filledAt (L := L) hvalues h.parts
    unfold Template.updateWith
    split
    · next markup tree hstage =>
      exact hkept.updateChosen h.filled tree.context _ 0 tree.parts
        fun p hp => parts_of_stage hstage ▸ hp
    · exact h.filled

/-- Any number of them. -/
theorem FillsIn.refreshed {s s' : Template L H × Document L} (h : FillsIn names node s)
    (hrun : Refreshed node s s') : FillsIn names node s' := by
  induction hrun with
  | refl => exact h
  | update _ hvalues ih => exact ih.updateWith _ hvalues
  | updateSlots _ hvalues changed ih => exact ih.updateWith _ hvalues
  | elsewhere _ hsame ih => exact ⟨ih.parts, fun c hc => ih.filled c (hsame c hc)⟩

section FirstRender

variable {mount : Option NodeId} {s : Template L H × Document L} {t₁ : Template L H}
  {d₁ : Document L} {x : NodeId} {c : Content}

/-- A part that is there after the render is the part of what its node held before. -/
theorem leftOf_of_render (hd : d.WellFormed) (hrender : t.render d context mount = .done s)
    (hmade : t.materialize d = ((t₁, d₁), .ok x)) {q : Part} (hq : q ∈ s.1.parts)
    (hc : d₁.content? q.node = some c) : ∃ p, Part.of? q.node c = some p ∧ q.LeftOf p := by
  obtain ⟨t₁', d₁', x', kids, hmade', -, -, -, -, rfl⟩ := exists_of_render hd hrender
  rw [hmade] at hmade'
  cases hmade'
  obtain ⟨p, hp, rfl⟩ := List.mem_map.1 hq
  rw [Part.node_kept] at hc ⊢
  have hof := (Document.node_mem_of_mem_partsOf hp).2
  rw [Document.contentAt_of_content? hc] at hof
  exact ⟨p, hof, Part.leftOf_kept t₁.values p⟩

/-- What a node of the tree holds after the render, if it is still there. -/
theorem content?_of_render (hd : d.WellFormed) (hrender : t.render d context mount = .done s)
    (hmade : t.materialize d = ((t₁, d₁), .ok x)) (hnode : node ∈ d₁.below x)
    (hc : d₁.content? node = some c) :
    s.2.content? node = none ∨ s.2.content? node = some (c.rendered t.values t.values) := by
  obtain ⟨t₁', d₁', x', kids, hmade', hd₁, hk, -, hstopped, rfl⟩ := exists_of_render hd hrender
  rw [hmade] at hmade'
  cases hmade'
  have hvalues : t₁.values = t.values := by
    have hsame := values_materialize t d
    rwa [hmade] at hsame
  have hkid : node ∈ kids.labels := by
    unfold Document.below at hnode
    rwa [hk] at hnode
  have hbelow : (t₁.written context kids d₁).forest.below? x = some kids := by
    unfold written
    rw [Part.forest_writeAll]
    exact hk
  refine (content?_attach (wellFormed_written context t₁ hd₁ kids) hbelow hstopped).imp
    (fun hgone => hgone node hkid) fun hsame => ?_
  obtain ⟨r, hr, rfl⟩ := Option.map_eq_some_iff.1 hc
  have hwritten := Document.record?_writeAll_partsOf context t₁.values hd₁
    (hd₁.distinct.below? hk).2
    (fun _ h => Document.contains_iff.2 (Forest.mem_labels_of_below? hk h)) hkid hr
  rw [hsame node hkid, ← hvalues]
  exact congrArg (Option.map Record.content) hwritten

/-- The first render fills in what there is. -/
theorem fillsIn_render (hd : d.WellFormed) (hrender : t.render d context mount = .done s)
    (hvalues : Braceless t.values) (hmade : t.materialize d = ((t₁, d₁), .ok x))
    (hnode : node ∈ d₁.below x) (hc : d₁.content? node = some c)
    (hunbraced : ∀ text ∈ c.markedTexts, Unbraced text) : FillsIn c.names node s where
  parts := by
    rintro q hq rfl
    obtain ⟨p, hof, hleft⟩ := leftOf_of_render hd hrender hmade hq hc
    exact hleft.fillsIn (Part.fillsIn_of? hof hunbraced)
  filled := by
    intro c' hc'
    rcases content?_of_render hd hrender hmade hnode hc with hgone | hheld
    · rw [hgone] at hc'
      cases hc'
    · rw [hheld] at hc'
      cases hc'
      exact Content.filled_rendered hunbraced t.values hvalues

end FirstRender

/-! ### Braces of the markup -/

/-- What parsing makes of a template whose strings have no brace: there is none in its texts and
values but those of the markers, if there is none when the markers are veiled. -/
theorem unbraced_of_veiled {z : Char} {strings : List String} (hz : isInert z = true)
    (hbrace : z ≠ '\x7b') (hstrings : ∀ s ∈ strings, '\x7b' ∉ s.toList ∧ z ∉ s.toList)
    (hsize : min strings.length values.length ≤ indexLimit)
    (hquiet : ∀ c ∈ (parse (veiled z strings values)).labels, ∀ s ∈ c.markedTexts,
      '\x7b' ∉ s.toList) :
    ∀ c ∈ (parse (annotate strings values)).labels, ∀ s ∈ c.markedTexts, Unbraced s := by
  have hrest : Clear (String.join (strings.drop values.length)) := by
    refine clear_of_not_mem fun hmem => ?_
    rw [String.toList_join] at hmem
    obtain ⟨s, hs, hc⟩ := List.mem_flatMap.1 hmem
    exact (hstrings s (List.mem_of_mem_drop hs)).1 hc
  have hpairs := pairs_parse_annotate hz hbrace
    (fun s hs => ⟨clear_of_not_mem (hstrings s hs).1, (hstrings s hs).2⟩) hrest hsize
  intro c hc s hs
  obtain ⟨c', hc', halike⟩ := hpairs.flip.exists_mem c hc
  obtain ⟨s', hs', pieces, last, hslots, rfl, rfl⟩ := exists_woven halike s hs
  obtain ⟨hparts, hlast⟩ := not_mem_weave_iff.1 (hquiet c' hc' _ hs')
  have hpieces : ∀ piece ∈ pieces, '\x7b' ∉ piece.1.toList := fun piece hpiece =>
    (hparts piece hpiece).1
  unfold Unbraced
  rw [substitute_weave (fun piece hpiece => clear_of_not_mem (hpieces piece hpiece))
    (fun piece hpiece => Nat.lt_of_lt_of_le (hslots piece hpiece) hsize) (clear_of_not_mem hlast)]
  exact not_mem_weave_iff.2
    ⟨fun piece hpiece => ⟨hpieces piece hpiece, List.not_mem_nil⟩, hlast⟩

/-! ### What is left -/

/-- **Tokens are left in names only.**  After a render that went through and any updates, all with
values that show no brace, a token at a node of the tree is in the name of the tag or of an
attribute, and the parser put it there, unless the texts and values that the parser made of
the node have braces besides those of the markers. -/
theorem leftover_of_refreshed {d : Document L} (hd : d.Reachable) {t : Template L H}
    {context : Context L H} {mount : Option NodeId} {s : Template L H × Document L}
    (hrender : t.render d context mount = .done s) (hvalues : Braceless t.values)
    {t₁ : Template L H} {d₁ : Document L} {x : NodeId}
    (hmade : t.materialize d = ((t₁, d₁), .ok x)) {node : NodeId} (hnode : node ∈ d₁.below x)
    {c : Content} (hc : d₁.content? node = some c)
    (hunbraced : ∀ text ∈ c.markedTexts, Unbraced text)
    {s' : Template L H × Document L} (hrun : Refreshed node s s') {c' : Content}
    (hc' : s'.2.content? node = some c') :
    ∀ text ∈ c'.names ++ c'.markedTexts, isMarker text = true →
      text ∈ c'.names ∧ text ∈ c.names := by
  have hfills := (fillsIn_render hd.wellFormed hrender hvalues hmade hnode hc hunbraced).refreshed
    hrun
  have hfilled := hfills.filled c' hc'
  intro text htext hmarker
  rcases List.mem_append.1 htext with hname | hshown
  · exact ⟨hname, hfilled.names hname⟩
  · rw [hfilled.texts text hshown] at hmarker
    cases hmarker

/-- A greeting with a slot in the value of an attribute, one in the place of an attribute, and one
in its text. -/
def sampleNamed : Template Nat Nat :=
  ofStrings ["<p title=\"", "\" ", ">Hello, ", "</p>"] [.text "Ada", .text "lang", .text "Ada"]

/-- Nothing fills in the name: its marker is the only token that is left. -/
theorem leftover_of_refreshed_sampleNamed :
    ∃ s, sampleNamed.render samplePage ⟨⟨0⟩, id⟩ none = .done s ∧
      ∀ c text, text ∈ c.names ++ c.markedTexts → isMarker text = true →
        ((s.1.updateSlots s.2 [.text "Bob", .null, .int 7] [0, 2]).state.2.content? ⟨2⟩ = some c →
          text = encode 1) ∧
        (s.1.updateSlots s.2 [.text "Bob", .null, .int 7] [0, 2]).state.2.content? ⟨3⟩ ≠
          some c := by
  obtain ⟨s, hs⟩ : ∃ s, s = (sampleNamed.render samplePage ⟨⟨0⟩, id⟩ none).state := ⟨_, rfl⟩
  have hrender : sampleNamed.render samplePage ⟨⟨0⟩, id⟩ none = .done s := by
    rw [hs]
    exact Attempt.eq_done (by decide +kernel)
  have hunmade : sampleNamed.Unmade := unmade_ofStrings _ _
  have hunbraced : ∀ c ∈ (parse sampleNamed.source).labels, ∀ text ∈ c.markedTexts,
      Unbraced text :=
    unbraced_of_veiled (z := '*') rfl (by decide) (by decide) (by decide) (by decide +kernel)
  have hrun : ∀ node, Refreshed node s
      (s.1.updateSlots s.2 [.text "Bob", .null, .int 7] [0, 2]).state := fun node =>
    Refreshed.refl.updateSlots (by decide +kernel) [0, 2]
  refine ⟨s, hrender, fun c text htext hmarker => ⟨fun hc => ?_, fun hc => ?_⟩⟩
  · have hfirst : (samplePage.parseFragment sampleNamed.source).1.content? ⟨2⟩ = some (.element
        { tag := "p", attributes := ⟨[("title", encode 0), (encode 1, "")]⟩ }) := by
      decide +kernel
    obtain ⟨-, hname⟩ := leftover_of_refreshed reachable_samplePage hrender (by decide +kernel)
      (hunmade.materialize_eq samplePage) (by decide +kernel) hfirst
      (hunbraced _ (by decide +kernel)) (hrun ⟨2⟩) hc text htext hmarker
    have hnames : ∀ name ∈ ["p", "title", encode 1], isMarker name = true → name = encode 1 := by
      decide +kernel
    exact hnames text hname hmarker
  · have hfirst : (samplePage.parseFragment sampleNamed.source).1.content? ⟨3⟩ =
        some (.text ("Hello, " ++ encode 2)) := by
      decide +kernel
    obtain ⟨-, hname⟩ := leftover_of_refreshed reachable_samplePage hrender (by decide +kernel)
      (hunmade.materialize_eq samplePage) (by decide +kernel) hfirst
      (hunbraced _ (by decide +kernel)) (hrun ⟨3⟩) hc text htext hmarker
    exact absurd hname List.not_mem_nil

end Template

end LiveMarkup
