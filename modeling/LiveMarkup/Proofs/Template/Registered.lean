/-
What stands in the table of a rendered template.

The table is made once, of the parts that were found, and never looked at a second time to
see whether it still fits.  It fits because nothing that is done to a template afterwards
moves a part or lets it read more: an update that goes through, one that stops half-way and
one that is sparse all leave what they leave in its place (`Tabled.run`), and no other
request gets as far as the parts.  What happens to the document does not matter at all.

What was found is what the tree said when it was rendered.  That is what was parsed, unless
somebody wrote to the fragment before (`Intact`).
-/
import LiveMarkup.Proofs.Template.Lifecycle
import LiveMarkup.Proofs.Template.Silence

namespace LiveMarkup

open Marker (scan)

variable {L H : Type}

/-! ### The slots that texts name -/

/-- A token of the text stands for the slot. -/
def Marker.Names (text : String) (slot : Nat) : Prop :=
  ∃ token ∈ scan text, token.index? = some slot

theorem Marker.mem_replaced_iff {text : String} {slot : Nat} :
    slot ∈ replaced text ↔ Names text slot :=
  List.mem_filterMap

namespace Part

/-- The texts that a part is written from. -/
def bases : Part → List String
  | content p => [p.base]
  | attributes p => p.bindings.entries.map fun entry => entry.2.base

/-- One of these texts names the slot. -/
def Names (p : Part) (slot : Nat) : Prop := ∃ base ∈ p.bases, Marker.Names base slot

theorem Proper.mem_indices_iff {p : Part} (h : p.Proper) {slot : Nat} :
    slot ∈ p.indices ↔ p.Names slot := by
  cases p with
  | content p =>
    have hindices : p.indices = Marker.replaced p.base := h
    simp [indices, Names, bases, hindices, Marker.mem_replaced_iff]
  | attributes p =>
    have hslot : ∀ entry ∈ p.bindings.entries,
        slot ∈ entry.2.indices ↔ Marker.Names entry.2.base slot := fun entry hentry => by
      rw [h.2 entry hentry, Marker.mem_replaced_iff]
    simp only [indices, AttributePart.indices, List.mem_flatMap, Names, bases, List.mem_map,
      exists_exists_and_eq_and]
    exact exists_congr fun entry => and_congr_right fun hentry => hslot entry hentry

end Part

namespace Content

/-- The texts of a node that are kept up to date: what a text says, and the values of the
attributes that are bound. -/
def trackedTexts : Content → List String
  | .text s => [s]
  | .element e =>
    (e.attributes.entries.filter fun entry => Binding.isBound entry.1 entry.2).map Prod.snd
  | .fragment | .comment _ | .shadowRoot => []

/-- One of these texts names the slot. -/
def Names (c : Content) (slot : Nat) : Prop := ∃ text ∈ c.trackedTexts, Marker.Names text slot

/-- Attributes that are not bound name nothing. -/
theorem mem_slotsRead_iff {c : Content} {slot : Nat} : slot ∈ c.slotsRead ↔ c.Names slot := by
  unfold slotsRead Names
  simp only [List.mem_flatMap, Marker.mem_replaced_iff]
  cases c with
  | fragment | comment | shadowRoot | text => rfl
  | element e =>
    simp only [markedTexts, trackedTexts, List.mem_map, List.mem_filter, exists_exists_and_eq_and]
    refine exists_congr fun entry => and_congr_left fun hnames => ?_
    have hbound : Binding.isBound entry.1 entry.2 = true := by
      by_contra hnot
      have hnone := Part.replaced_of_not_isBound (Bool.eq_false_iff.2 hnot)
      rw [← Marker.mem_replaced_iff, hnone] at hnames
      cases hnames
    exact (and_iff_left hbound).symm

end Content

theorem Part.bases_of? {id : NodeId} {c : Content} {p : Part} (h : Part.of? id c = some p) :
    p.bases = c.trackedTexts := by
  cases c with
  | fragment | comment | shadowRoot => cases h
  | text s =>
    simp only [of?, Option.ite_none_right_eq_some, Option.some.injEq] at h
    rw [← h.2]
    rfl
  | element e =>
    simp only [of?, Option.ite_none_left_eq_some, Option.some.injEq] at h
    rw [← h.2]
    simp [bases, Content.trackedTexts, AttributePart.boundEntries, Binding.ofMarked]

namespace Template

/-! ### The parts of a tree -/

/-- These are the parts below `x`: they come in document order, are written from what their
nodes say, and no node that names a slot is without one. -/
structure PartsBelow (d : Document L) (x : NodeId) (found : List Part) : Prop where
  nodup : (d.below x).Nodup
  inOrder : (found.map Part.node).Sublist (d.below x)
  bases : ∀ p ∈ found, p.bases = (d.contentAt p.node).trackedTexts
  complete : ∀ id ∈ d.below x, ∀ slot, (d.contentAt id).Names slot → ∃ p ∈ found, p.node = id

section

variable {d : Document L} {x : NodeId} {kids : Forest NodeId}

theorem below_eq (hk : d.forest.below? x = some kids) : d.below x = kids.labels := by
  unfold Document.below
  rw [hk]
  rfl

theorem partsBelow_partsOf (hd : d.WellFormed) (hk : d.forest.below? x = some kids) :
    PartsBelow d x (d.partsOf kids.labels) where
  nodup := by
    rw [below_eq hk]
    exact (hd.distinct.below? hk).2
  inOrder := by
    rw [below_eq hk]
    exact Document.map_node_partsOf_sublist d kids.labels
  bases p hp := Part.bases_of? (Document.node_mem_of_mem_partsOf hp).2
  complete := by
    rw [below_eq hk]
    intro id hid slot hslot
    cases hpart : Part.of? id (d.contentAt id) with
    | some p => exact ⟨p, Document.mem_partsOf.2 ⟨id, hid, hpart⟩, Part.node_of? hpart⟩
    | none =>
      rw [← Content.mem_slotsRead_iff, Part.slotsRead_of_of?_eq_none hpart] at hslot
      cases hslot

/-- **The slots of the parts are those that the tree names.** -/
theorem PartsBelow.exists_names_iff {found : List Part} (h : PartsBelow d x found) {slot : Nat} :
    (∃ p ∈ found, p.Names slot) ↔ ∃ id ∈ d.below x, (d.contentAt id).Names slot := by
  have hnames : ∀ p ∈ found, (p.Names slot ↔ (d.contentAt p.node).Names slot) := fun p hp => by
    unfold Part.Names Content.Names
    rw [h.bases p hp]
  constructor
  · rintro ⟨p, hp, hslot⟩
    exact ⟨p.node, h.inOrder.subset (List.mem_map_of_mem hp), (hnames p hp).1 hslot⟩
  · rintro ⟨id, hid, hslot⟩
    obtain ⟨p, hp, rfl⟩ := h.complete id hid slot hslot
    exact ⟨p, hp, (hnames p hp).2 hslot⟩

end

/-! ### The table -/

/-- The table of a tree with `slots` slots says which of the parts `found` name which slot,
and the parts of the tree still stand where it says. -/
structure Exact (found : List Part) (slots : Nat) (tree : Rendered L H) : Prop where
  slots_ascending : tree.registry.slots.Pairwise (· < ·)
  mem_slots : ∀ slot, slot ∈ tree.registry.slots ↔ ∃ p ∈ found, p.Names slot
  positions_ascending : ∀ slot, (tree.registry.partsFor slot).Pairwise (· < ·)
  mem_partsFor : ∀ slot position, position ∈ tree.registry.partsFor slot ↔
    ∃ p, found[position]? = some p ∧ p.Names slot
  slot_lt : ∀ slot ∈ tree.registry.slots, slot < slots
  position_lt : ∀ slot, ∀ position ∈ tree.registry.partsFor slot, position < tree.parts.length
  nodes : tree.parts.map Part.node = found.map Part.node
  listed : ∀ position p, tree.parts[position]? = some p →
    ∀ slot ∈ p.indices, position ∈ tree.registry.partsFor slot

variable {found : List Part} {slots : Nat}

/-- Parts that are left of those of which the table was made. -/
theorem exact_of_leftOf (hproper : ∀ p ∈ found, p.Proper)
    (hslots : ∀ p ∈ found, ∀ slot ∈ p.indices, slot < slots) {tree : Rendered L H}
    (hregistry : tree.registry = .ofParts found)
    (hparts : List.Forall₂ Part.LeftOf tree.parts found) : Exact found slots tree := by
  have hlength : tree.parts.length = found.length := hparts.length_eq
  have hfor : ∀ slot position, position ∈ tree.registry.partsFor slot ↔
      ∃ p, found[position]? = some p ∧ slot ∈ p.indices := fun slot position => by
    rw [hregistry]
    exact Registry.mem_partsFor_ofParts found slot position
  have hmem : ∀ slot, slot ∈ tree.registry.slots ↔ ∃ p ∈ found, slot ∈ p.indices := fun slot => by
    rw [hregistry]
    exact Registry.mem_slots_ofParts found slot
  refine ⟨?_, fun slot => ?_, fun slot => ?_, fun slot position => ?_, fun slot hslot => ?_,
    fun slot position hposition => ?_, ?_, fun position q hq slot hslot => ?_⟩
  · rw [hregistry]
    exact Registry.pairwise_slots_ofParts found
  · rw [hmem]
    exact exists_congr fun p => and_congr_right fun hp => (hproper p hp).mem_indices_iff
  · rw [hregistry]
    exact Registry.pairwise_partsFor_ofParts found slot
  · rw [hfor]
    exact exists_congr fun p => and_congr_right fun hp =>
      (hproper p (List.mem_of_getElem? hp)).mem_indices_iff
  · obtain ⟨p, hp, hindex⟩ := (hmem slot).1 hslot
    exact hslots p hp slot hindex
  · obtain ⟨p, hp, -⟩ := (hfor slot position).1 hposition
    rw [hlength]
    exact (List.getElem?_eq_some_iff.1 hp).1
  · have hnodes : List.Forall₂ (fun q p => Part.node q = Part.node p) tree.parts found :=
      hparts.imp fun q p hleft => hleft.node
    rw [← List.forall₂_eq_eq_eq, List.forall₂_map_left_iff, List.forall₂_map_right_iff]
    exact hnodes
  · obtain ⟨hlt, rfl⟩ := List.getElem?_eq_some_iff.1 hq
    have hlt' : position < found.length := hlength ▸ hlt
    have hleft : tree.parts[position].LeftOf found[position] := hparts.get hlt hlt'
    exact (hfor slot position).2
      ⟨found[position], List.getElem?_eq_getElem hlt', hleft.indices_subset hslot⟩

/-! ### The table stays -/

/-- A rendered template with the table of the parts `found`, and with what is left of these,
each in its place. -/
structure Tabled (found : List Part) (slots : Nat) (t : Template L H) : Prop where
  slots_eq : t.slots = slots
  rendered : ∃ markup tree, t.stage = .rendered markup tree ∧
    tree.registry = .ofParts found ∧ List.Forall₂ Part.LeftOf tree.parts found

theorem Tabled.isRendered {t : Template L H} (h : Tabled found slots t) : t.isRendered = true := by
  obtain ⟨markup, tree, hstage, -⟩ := h.rendered
  unfold Template.isRendered rendered?
  rw [hstage]
  rfl

theorem Tabled.updateWith {t : Template L H} (h : Tabled found slots t)
    (chosen : Registry → Nat → Bool) (d : Document L) (values : List (Value H)) :
    Tabled found slots (t.updateWith chosen d values).state.1 := by
  obtain ⟨markup, tree, hstage, hregistry, hparts⟩ := h.rendered
  have hleft := Part.forall₂_leftOf_updateChosen tree.context values (chosen tree.registry) 0
    tree.parts d
  rw [updateWith_eq hstage]
  exact ⟨h.slots_eq, markup, _, rfl, hregistry, Part.forall₂_leftOf_trans hparts hleft⟩

/-- **No request moves a part**, whether it goes through or not. -/
theorem Tabled.run {t : Template L H} (h : Tabled found slots t) (d : Document L)
    (r : Request L H) : Tabled found slots (r.run (t, d)).state.1 := by
  cases r with
  | compile =>
    obtain ⟨markup, tree, hstage, -⟩ := h.rendered
    have hmarkup : t.markup? = some markup := congrArg Stage.markup? hstage
    show Tabled found slots t.compile.1
    rw [compile_eq_of_markup? hmarkup]
    exact h
  | materialize | render =>
    rw [Request.run_of_isRendered h.isRendered rfl]
    exact h
  | update values => exact h.updateWith _ d values
  | updateSlots values changed => exact h.updateWith _ d values
  | elsewhere change => exact h

theorem Tabled.after {t : Template L H} (h : Tabled found slots t) (d : Document L)
    (requests : List (Request L H)) : Tabled found slots (after (t, d) requests).1 := by
  induction requests generalizing t d with
  | nil => exact h
  | cons r rest ih => exact ih (h.run d r) (r.run (t, d)).state.2

/-- **The table is exact, and it stays so.**  A render that goes through finds the parts of its
fragment in document order.  From then on, whatever is asked of the template or done to the
document, its table lists in ascending order the slots that these parts named, and under each
of them in ascending order the positions of the parts that named it; the slots are slots of the
template, the parts stand at these positions and are parts of the same nodes, and what they
still read is listed.  If nobody touched the fragment between parsing and rendering, these are
the slots that the markup names. -/
theorem exact_of_render {d : Document L} (hd : d.Reachable) {t : Template L H}
    {context : Context L H} {mount : Option NodeId} {s : Template L H × Document L}
    (hrender : t.render d context mount = .done s) :
    ∃ t₁ d₁ x found, t.materialize d = ((t₁, d₁), .ok x) ∧ t.discovered d = .ok found ∧
      PartsBelow d₁ x found ∧
      ∀ requests : List (Request L H), ∃ tree, (after s requests).1.rendered? = some tree ∧
        Exact found (after s requests).1.slots tree ∧
        (∀ slot, slot ∈ tree.registry.slots ↔
          ∃ id ∈ d₁.below x, (d₁.contentAt id).Names slot) ∧
        (t.Intact d → ∀ slot, slot ∈ tree.registry.slots ↔
          ∃ c ∈ (Markup.parse t.source).labels, c.Names slot) := by
  obtain ⟨t₁, d₁, x, kids, hmade, hd₁, hk, hmarkers, -, rfl⟩ :=
    exists_of_render hd.wellFormed hrender
  have hfound : t.discovered d = .ok (d₁.partsOf kids.labels) := by
    unfold discovered
    rw [hmade]
    exact (Document.discover_eq_ok_iff hd₁ hk t₁.slots _).2 ⟨hmarkers, rfl⟩
  have hbelow := partsBelow_partsOf hd₁ hk
  have hslots : ∀ p ∈ d₁.partsOf kids.labels, ∀ slot ∈ p.indices, slot < t₁.slots := by
    intro p hp slot hslot
    obtain ⟨id, hid, hpart⟩ := Document.mem_partsOf.1 hp
    rw [Part.indices_of? hpart] at hslot
    exact (Content.markersBelow_iff.1 (hmarkers id hid)).2 slot hslot
  have htabled : Tabled (d₁.partsOf kids.labels) t₁.slots
      (t₁.mounted context (mount.getD context.host) (d₁.partsOf kids.labels)) :=
    ⟨rfl, _, _, rfl, rfl, Part.forall₂_leftOf_kept t₁.values _⟩
  refine ⟨t₁, d₁, x, _, hmade, hfound, hbelow, fun requests => ?_⟩
  have hafter := htabled.after
    (attach (mount.getD context.host) x (t₁.written context kids d₁)).state requests
  obtain ⟨markup, tree, hstage, hregistry, hparts⟩ := hafter.rendered
  have hexact : Exact (d₁.partsOf kids.labels) t₁.slots tree :=
    exact_of_leftOf (ready_partsOf hd₁ hk).proper hslots hregistry hparts
  have hnamed : ∀ slot, slot ∈ tree.registry.slots ↔
      ∃ id ∈ d₁.below x, (d₁.contentAt id).Names slot := fun slot =>
    (hexact.mem_slots slot).trans hbelow.exists_names_iff
  refine ⟨tree, congrArg Stage.rendered? hstage, hafter.slots_eq.symm ▸ hexact, hnamed,
    fun hintact slot => ?_⟩
  have hparsed := hintact.map_contentAt hd.wellFormed hmade hk
  rw [hnamed, below_eq hk, ← hparsed, Forest.labels_map]
  simp only [List.mem_map, exists_exists_and_eq_and]

/-- A greeting that names its second slot first, and once more in the text. -/
def sampleCrossed : Template Nat Nat :=
  ofStrings ["<p title=\"---!\x7b1\x7d!---\" @click=\"", "\">Hello, ", "</p>"]
    [.null, .text "Ada"]

/-- The attribute becomes a listener and reads no slot any longer, and it stays in the table. -/
theorem exact_of_render_sampleCrossed :
    ∃ s tree found, sampleCrossed.render samplePage ⟨⟨0⟩, id⟩ none = .done s ∧
      (after s [.update [.handler 8, .text "Bob"]]).1.rendered? = some tree ∧
      tree.parts.map Part.indices = [[1], [1]] ∧ tree.registry.slots = [0, 1] ∧
      [0, 1].map tree.registry.partsFor = [[0], [0, 1]] ∧
      Exact found (after s [.update [.handler 8, .text "Bob"]]).1.slots tree ∧
      ∀ slot, slot ∈ tree.registry.slots ↔
        ∃ c ∈ (Markup.parse sampleCrossed.source).labels, c.Names slot := by
  obtain ⟨s, hs⟩ : ∃ s, s = (sampleCrossed.render samplePage ⟨⟨0⟩, id⟩ none).state := ⟨_, rfl⟩
  have hrender : sampleCrossed.render samplePage ⟨⟨0⟩, id⟩ none = .done s := by
    rw [hs]
    exact Attempt.eq_done (by decide +kernel)
  obtain ⟨_, _, _, found, -, -, -, hall⟩ := exact_of_render reachable_samplePage hrender
  obtain ⟨tree, htree, hexact, -, hnamed⟩ := hall [.update [.handler 8, .text "Bob"]]
  have hread : (after s [.update [.handler 8, .text "Bob"]]).1.rendered?.map (fun tree =>
      (tree.parts.map Part.indices, tree.registry.slots, [0, 1].map tree.registry.partsFor)) =
        some ([[1], [1]], [0, 1], [[0], [0, 1]]) := by
    rw [hs]
    decide +kernel
  rw [htree, Option.map_some, Option.some.injEq, Prod.mk.injEq, Prod.mk.injEq] at hread
  obtain ⟨hparts, hslots, hpositions⟩ := hread
  exact ⟨s, tree, found, hrender, htree, hparts, hslots, hpositions, hexact,
    hnamed (intact_ofStrings _ _ _)⟩

/-- A paragraph with a name. -/
def sampleReworded : Template Nat Nat := ofStrings ["<p>", "</p>"] [.text "Ada"]

/-- A fragment is anybody's until it is rendered, and what is overwritten by then is not in the
table. -/
theorem slots_of_reworded :
    ∃ d s tree, (sampleReworded.materialize samplePage).1.2.setText ⟨3⟩ "Bob" = .ok d ∧
      (sampleReworded.materialize samplePage).1.1.render d ⟨⟨0⟩, id⟩ none = .done s ∧
      s.1.rendered? = some tree ∧ tree.registry.slots = [] ∧
      ∃ c ∈ (Markup.parse sampleReworded.source).labels, c.Names 0 := by
  have hrun : ((sampleReworded.materialize samplePage).1.2.setText ⟨3⟩ "Bob").toOption.map (fun d =>
      let rendered := (sampleReworded.materialize samplePage).1.1.render d ⟨⟨0⟩, id⟩ none
      (rendered.stopped, rendered.state.1.rendered?.map fun tree => tree.registry.slots)) =
        some (none, some []) := by
    decide +kernel
  obtain ⟨d, hd, hrendered⟩ := Option.map_eq_some_iff.1 hrun
  obtain ⟨hstopped, htree⟩ := Prod.mk.inj hrendered
  obtain ⟨tree, htree, hslots⟩ := Option.map_eq_some_iff.1 htree
  have hset : (sampleReworded.materialize samplePage).1.2.setText ⟨3⟩ "Bob" = .ok d := by
    cases hset : (sampleReworded.materialize samplePage).1.2.setText ⟨3⟩ "Bob" with
    | error e => rw [hset] at hd; cases hd
    | ok d' => rw [hset] at hd; cases hd; rfl
  have hread : 0 ∈ (Markup.parse sampleReworded.source).labels.flatMap Content.slotsRead := by
    decide +kernel
  obtain ⟨c, hc, hslot⟩ := List.mem_flatMap.1 hread
  exact ⟨d, _, tree, hset, Attempt.eq_done hstopped, htree, hslots, c, hc,
    Content.mem_slotsRead_iff.1 hslot⟩

end Template

end LiveMarkup
