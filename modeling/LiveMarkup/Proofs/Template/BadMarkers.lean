/-
Markers that cannot be used.

A render that meets a bad marker has made a fragment by then, and takes it out again.  What
is left is the document as it was and the compiled template, so that the next attempt
starts where this one did and parses the same markup.  It cannot fare any better: why
discovery stops depends on what the markup says and on nothing else
(`discover_parsed_eq_error_iff`).

Where the tree was to go plays no part in it, because nothing is moved before all parts are
found.
-/
import LiveMarkup.Proofs.Template.FirstRender
import LiveMarkup.Proofs.Template.Reachable

namespace LiveMarkup

variable {L H : Type}

/-- The first thing that is wrong with the markers of a markup, in document order. -/
def Markup.fault? (markup : String) (slots : Nat) : Option TemplateError :=
  (Markup.parse markup).labels.findSome? (Content.fault? slots)

/-- There is nothing wrong exactly when every token names a slot that is there. -/
theorem Markup.fault?_eq_none_iff {markup : String} {slots : Nat} :
    Markup.fault? markup slots = none ↔
      ∀ c ∈ (Markup.parse markup).labels, c.MarkersBelow slots := by
  unfold Markup.fault?
  rw [List.findSome?_eq_none_iff]
  exact forall₂_congr fun c _ => Content.fault?_eq_none_iff

/-- There is something wrong exactly when some token names no slot that is there. -/
theorem Markup.exists_fault?_iff {markup : String} {slots : Nat} :
    (∃ e, Markup.fault? markup slots = some e) ↔
      ∃ c ∈ (Markup.parse markup).labels, ∃ s ∈ c.markedTexts, ∃ found ∈ Marker.scan s,
        found.index? = none ∨ ∃ index, found.index? = some index ∧ slots ≤ index := by
  have htoken : ∀ found : Marker.Found,
      (¬ ∃ index, found.index? = some index ∧ index < slots) ↔
        found.index? = none ∨ ∃ index, found.index? = some index ∧ slots ≤ index := by
    intro found
    cases found.index? <;> simp
  rw [← Option.ne_none_iff_exists', ne_eq, Markup.fault?_eq_none_iff]
  unfold Content.MarkersBelow
  simp only [not_forall, htoken, exists_prop]

theorem Markup.isBadMarker_of_fault? {markup : String} {slots : Nat} {e : TemplateError}
    (h : Markup.fault? markup slots = some e) : e.isBadMarker = true := by
  obtain ⟨c, -, hfault⟩ := List.exists_of_findSome?_eq_some h
  exact Content.isBadMarker_of_fault? hfault

namespace Document

variable {d d' : Document L}

/-- Parsed markup stops discovery by its own first fault, wherever its nodes are. -/
theorem discover_parsed_eq_error_iff (hd : d.WellFormed) (markup : String) (slots : Nat)
    (e : TemplateError) :
    Part.discover (d.parseFragment markup).1 d.nextId slots = .error e ↔
      Markup.fault? markup slots = some e := by
  have hcontents := congrArg Forest.labels (map_contentAt_parsed d markup)
  rw [Forest.labels_map] at hcontents
  rw [discover_eq (hd.parseFragment markup) (below?_nextId_parseFragment hd markup),
    Part.discoverIn_map_eq_error_iff, hcontents]
  exact Iff.rfl

/-- Trees that were planted and taken out again have left nothing behind. -/
theorem WellFormed.record?_of_uprooted (hd : d.WellFormed) {trees : Forest Content}
    (hforest : d'.forest = d.forest) (hrecords : d'.records = (d.plant trees).records)
    (id : NodeId) : d'.record? id = d.record? id := by
  have hcontains : d'.contains id = d.contains id := by
    unfold contains
    rw [hforest]
  unfold record?
  rw [hcontains]
  by_cases hid : d.contains id = true
  · rw [if_pos hid, if_pos hid, hrecords, getElem?_records_plant_of_lt (hd.lt_size hid)]
  · rw [if_neg hid, if_neg hid]

end Document

namespace Template

variable {d : Document L} {t : Template L H} {e : TemplateError}

/-! ### Templates without a tree -/

/-- A template that was neither made into a fragment nor rendered. -/
def Unbuilt (t : Template L H) : Prop :=
  t.stage = .uncompiled ∨ ∃ markup, t.stage = .compiled markup

theorem Unbuilt.isRendered (ht : t.Unbuilt) : t.isRendered = false := by
  unfold Template.isRendered rendered?
  rcases ht with h | ⟨markup, h⟩ <;> rw [h] <;> rfl

theorem Unbuilt.materialize_eq (ht : t.Unbuilt) (d : Document L) :
    t.materialize d =
      (({ t with stage := .materialized t.compile.2 d.nextId },
        (d.parseFragment t.compile.2).1), .ok d.nextId) := by
  unfold materialize compile markup?
  rcases ht with h | ⟨markup, h⟩ <;> simp only [h, Stage.markup?] <;> rfl

/-! ### Stopping at a marker -/

/-- **A fault in the markup is what the render stops with**, and all that is left of the
attempt is that the template is compiled. -/
theorem render_of_fault (hd : d.WellFormed) (ht : t.Unbuilt)
    (hfault : Markup.fault? t.compile.2 t.slots = some e) (context : Context L H)
    (mount : Option NodeId) :
    ∃ d', t.render d context mount = .stop ({ t with stage := .compiled t.compile.2 }, d') e ∧
      d'.forest = d.forest ∧ ∀ id, d'.record? id = d.record? id := by
  have hx := Document.hasFragment_parseFragment hd t.compile.2
  have hfound := (Document.discover_parsed_eq_error_iff hd t.compile.2 t.slots e).2 hfault
  have hremove := Document.remove_of_content? hx.content hx.below
  have hrender : t.render d context mount =
      discard { t with stage := .materialized t.compile.2 d.nextId } t.compile.2 d.nextId
        (d.parseFragment t.compile.2).1 e := by
    unfold render
    rw [if_neg (by rw [ht.isRendered]; exact Bool.false_ne_true), ht.materialize_eq d]
    simp only [bind, hfound, Attempt.stopped_stop, Attempt.state_stop]
    rfl
  unfold discard at hrender
  rw [hremove] at hrender
  exact ⟨_, hrender, Document.prune_parseFragment hd t.compile.2,
    hd.record?_of_uprooted (Document.prune_parseFragment hd t.compile.2) rfl⟩

/-- Where all markers are usable it is the document that stops a render. -/
theorem exists_document_of_fragment {t₁ : Template L H} {d₁ : Document L} {x : NodeId}
    {kids : Forest NodeId} (hrendered : t.isRendered = false)
    (hmade : t.materialize d = ((t₁, d₁), .ok x)) (hd₁ : d₁.WellFormed)
    (hk : d₁.forest.below? x = some kids)
    (hmarkers : ∀ id ∈ kids.labels, (d₁.contentAt id).MarkersBelow t₁.slots)
    {context : Context L H} {mount : Option NodeId}
    (hstop : (t.render d context mount).stopped = some e) : ∃ e', e = .document e' := by
  rw [render_of_fragment context mount hrendered hmade hd₁ hk hmarkers] at hstop
  split at hstop
  · cases hstop
    exact ⟨_, rfl⟩
  · cases hstop

/-- Without a fault it is the document that stops a render. -/
theorem exists_document_of_no_fault (hd : d.WellFormed) (ht : t.Unbuilt)
    (hfault : Markup.fault? t.compile.2 t.slots = none) {context : Context L H}
    {mount : Option NodeId} (hstop : (t.render d context mount).stopped = some e) :
    ∃ e', e = .document e' := by
  refine exists_document_of_fragment ht.isRendered (ht.materialize_eq d)
    (hd.parseFragment t.compile.2) (Document.below?_nextId_parseFragment hd t.compile.2)
    (fun id hid => ?_) hstop
  refine Markup.fault?_eq_none_iff.1 hfault _ ?_
  rw [← Document.map_contentAt_parsed d t.compile.2, Forest.labels_map]
  exact List.mem_map_of_mem hid

/-- **A render stops at a marker exactly when there is a fault in the markup**, the first one
being the reason. -/
theorem stopped_at_marker_iff (hd : d.WellFormed) (ht : t.Unbuilt) (context : Context L H)
    (mount : Option NodeId) :
    ((t.render d context mount).stopped = some e ∧ e.isBadMarker = true) ↔
      Markup.fault? t.compile.2 t.slots = some e := by
  cases hfault : Markup.fault? t.compile.2 t.slots with
  | none =>
    refine ⟨fun ⟨hstop, hbad⟩ => ?_, nofun⟩
    obtain ⟨e', rfl⟩ := exists_document_of_no_fault hd ht hfault hstop
    cases hbad
  | some e' =>
    obtain ⟨d', hrender, -⟩ := render_of_fault hd ht hfault context mount
    rw [hrender]
    refine ⟨fun h => h.1, fun h => ⟨h, ?_⟩⟩
    cases h
    exact Markup.isBadMarker_of_fault? hfault

/-- **Bad markers are found exactly, and cost nothing.**  A render stops at a marker if and
only if some text or attribute value of the parsed markup has a token whose body is no index,
or is the index of no slot.  Then the template is compiled, the document is as it was, and
every further attempt stops for the same reason. -/
theorem render_stopped_at_marker {d : Document L} (hd : d.Reachable) {t : Template L H}
    (ht : t.Unbuilt) (context : Context L H) (mount : Option NodeId) :
    ((∃ e, (t.render d context mount).stopped = some e ∧ e.isBadMarker = true) ↔
      ∃ c ∈ (Markup.parse t.compile.2).labels, ∃ s ∈ c.markedTexts, ∃ found ∈ Marker.scan s,
        found.index? = none ∨ ∃ index, found.index? = some index ∧ t.slots ≤ index) ∧
    ∀ e, (t.render d context mount).stopped = some e → e.isBadMarker = true →
      ∃ t' d', t.render d context mount = .stop (t', d') e ∧
        t' = { t with stage := .compiled t.compile.2 } ∧
        d'.forest = d.forest ∧ (∀ id, d'.record? id = d.record? id) ∧
        ∀ (context' : Context L H) (mount' : Option NodeId),
          (t'.render d' context' mount').stopped = some e := by
  have hwf := hd.wellFormed
  refine ⟨?_, fun e hstop hbad => ?_⟩
  · rw [← Markup.exists_fault?_iff]
    exact exists_congr fun e => stopped_at_marker_iff hwf ht context mount
  · have hfault := (stopped_at_marker_iff hwf ht context mount).1 ⟨hstop, hbad⟩
    obtain ⟨d', hrender, hforest, hrecord⟩ := render_of_fault hwf ht hfault context mount
    have hwf' : d'.WellFormed := by
      have hreached := hd.render t context mount
      rw [hrender] at hreached
      exact hreached.wellFormed
    -- What is left of the attempt is a template with the same markup.
    have hunbuilt : ({ t with stage := .compiled t.compile.2 } : Template L H).Unbuilt :=
      Or.inr ⟨_, rfl⟩
    refine ⟨_, d', hrender, rfl, hforest, hrecord, fun context' mount' => ?_⟩
    exact ((stopped_at_marker_iff hwf' hunbuilt context' mount').2 hfault).1

/-- A greeting with a marker for a slot that it does not have, in an attribute. -/
def sampleMisnumbered : Template Nat Nat :=
  ofStrings ["<p title=\"---!\x7b7\x7d!---\">", "</p>"] [.text "Ada"]

/-- The attribute is noticed, below whatever node the greeting goes, and it can be tried again
as often as one likes. -/
theorem render_stopped_at_marker_sampleMisnumbered :
    ∃ t' d', sampleMisnumbered.render samplePage ⟨⟨0⟩, id⟩ none =
        .stop (t', d') (.slotOutOfRange 7 1) ∧
      t'.markup? = some "<p title=\"---!\x7b7\x7d!---\">---!\x7b0\x7d!---</p>" ∧
      d'.forest = samplePage.forest ∧
      ∀ mount, (t'.render d' ⟨⟨0⟩, id⟩ mount).stopped = some (.slotOutOfRange 7 1) := by
  have hunbuilt : sampleMisnumbered.Unbuilt := Or.inl rfl
  have hstopped : (sampleMisnumbered.render samplePage ⟨⟨0⟩, id⟩ none).stopped =
      some (.slotOutOfRange 7 1) := by decide +kernel
  obtain ⟨t', d', hrender, hcompiled, hforest, -, hagain⟩ :=
    (render_stopped_at_marker reachable_samplePage hunbuilt ⟨⟨0⟩, id⟩ none).2 _ hstopped rfl
  refine ⟨t', d', hrender, ?_, hforest, fun mount => hagain ⟨⟨0⟩, id⟩ mount⟩
  rw [hcompiled]
  decide +kernel

end Template

end LiveMarkup
