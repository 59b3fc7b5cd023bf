/-
A render that fails on its mount point.

When a marker is bad, rendering takes the fragment out again and goes back to the compiled
markup.  When the mount point is bad it does neither.  By then the parts were written and
their listeners added, and all of this stays: the template remains materialized, with
a fragment that holds written nodes (`render_stopped_at_mount`).

This cannot be repaired by rendering once more.  The markers are gone from the texts that
were written over them, so a later render finds parts only where a value looked like a
marker, and none at all where no value did.  Such a tree is complete at first sight, but
no update reaches it.
-/
import LiveMarkup.Proofs.Template.FirstRender
import LiveMarkup.Proofs.Template.Reachable

namespace LiveMarkup

variable {L H : Type}

/-! ### What is left of the markers -/

/-- A bracketed name does not survive: it becomes a property or a listener. -/
theorem Fate.not_isPropertyBinding_of_attribute? {first values : List (Value H)}
    {name value : String} {entry : String × String}
    (h : (ofAttribute first values name value).attribute? name value = some entry) :
    entry.1 = name ∧ Marker.isPropertyBinding name = false := by
  cases hbound : Binding.isBound name value with
  | false =>
    rw [ofAttribute_of_not_isBound hbound] at h
    cases h
    exact ⟨rfl, (Bool.or_eq_false_iff.1 hbound).2⟩
  | true =>
    cases hhandler : handlerIn? first value with
    | some handler =>
      rw [ofAttribute_of_handler hbound hhandler] at h
      cases h
    | none =>
      rw [ofAttribute_of_silent hbound hhandler] at h
      cases hproperty : Marker.isPropertyBinding name with
      | true => simp [hproperty, attribute?] at h
      | false =>
        simp only [hproperty, Bool.false_eq_true, if_false, attribute?, Option.some.injEq] at h
        exact ⟨h ▸ rfl, rfl⟩

/-- **A node that was written has a part again only if a marker is in what was written.** -/
theorem Part.of?_rendered_eq_none {first values : List (Value H)} {c : Content}
    (h : ∀ s ∈ (c.rendered first values).markedTexts, Marker.isMarker s = false) (id : NodeId) :
    Part.of? id (c.rendered first values) = none := by
  cases c with
  | fragment | comment | shadowRoot => rfl
  | text s =>
    have hmarker := h _ (List.mem_singleton_self _)
    simp only [Content.rendered, Part.of?, hmarker, Bool.false_eq_true, if_false]
  | element e =>
    have hunbound : AttributePart.boundEntries (e.rendered first values).attributes.entries = [] := by
      unfold AttributePart.boundEntries
      rw [List.map_eq_nil_iff, List.filter_eq_nil_iff]
      intro entry hentry
      obtain ⟨old, -, hold⟩ := List.mem_filterMap.1 hentry
      obtain ⟨hname, hproperty⟩ := Fate.not_isPropertyBinding_of_attribute? hold
      have hmarker : Marker.isMarker entry.2 = false := h _ (List.mem_map_of_mem hentry)
      unfold Binding.isBound
      rw [hmarker, hname, hproperty]
      exact Bool.false_ne_true
    simp only [Content.rendered, Part.of?, hunbound]
    rfl

theorem Content.markersBelow_of_no_marker {c : Content}
    (h : ∀ s ∈ c.markedTexts, Marker.isMarker s = false) (slots : Nat) :
    c.MarkersBelow slots := by
  intro s hs found hfound
  have hscan : Marker.scan s = [] := by simpa [Marker.isMarker] using h s hs
  rw [hscan] at hfound
  exact absurd hfound List.not_mem_nil

namespace Template

variable {d d₁ d₂ : Document L} {t t₁ : Template L H} {x : NodeId} {kids : Forest NodeId}

/-! ### Where a render can stop -/

/-- An attach that fails because of the target has moved nothing. -/
theorem attach_of_unusable_target {mount target : NodeId} {e : DocumentError} (hd : d.WellFormed)
    (hx : d.HasFragment x kids) (hstop : (attach mount x d).stopped = some e)
    (hcause : e = .unknownNode target ∨ e = .notElement target) :
    attach mount x d = .stop d e := by
  cases hcontainer : d.container (d.mountPoint mount) with
  | error e' =>
    have hattach := attach_of_container_error hcontainer x
    rw [hattach] at hstop ⊢
    cases hstop
    rfl
  | ok u =>
    have hlive := Document.mem_labels_of_container hcontainer
    have hsame := Document.rearranged_placeAll hd hlive kids.roots
    have hattach := attach_of_append (Document.append_fragment hcontainer hx.content hx.below)
    rw [hattach] at hstop
    unfold Attempt.andThen at hstop
    split at hstop
    · -- The fragment is still there, so it can be removed.
      have hcontent : (Document.placeAll (d.mountPoint mount) kids.roots d).state.content? x =
          some .fragment := by
        unfold Document.content?
        rw [hsame.record?_eq x]
        exact hx.content
      have hxlive := Document.contains_iff.1 (Document.contains_of_content? hcontent)
      obtain ⟨left, hleft⟩ := Forest.exists_below? hxlive
      change (Attempt.ofExcept _ (Document.remove _ x)).stopped = some e at hstop
      rw [Document.remove_of_content? hcontent hleft] at hstop
      cases hstop
    · rcases Document.stopped_placeAll hstop with rfl | rfl
      · rcases hcause with h | h <;> cases h
      · rcases hcause with h | h <;> cases h

theorem discard_ne_document (t : Template L H) (markup : String) (hx : d.HasFragment x kids)
    {e : TemplateError} (he : ∀ e', e ≠ .document e') (e' : DocumentError) :
    (t.discard markup x d e).stopped ≠ some (.document e') := by
  unfold discard Document.remove
  rw [Document.get_of_content? hx.content]
  intro h
  exact he e' (Option.some.inj h)

/-- **A document error that is about the target comes after the parts were written**, and
then nothing is undone. -/
theorem render_of_unusable_target {context : Context L H} {mount : Option NodeId}
    {target : NodeId} {e : DocumentError} (hrendered : t.isRendered = false)
    (hmade : t.materialize d = ((t₁, d₁), .ok x)) (hd₁ : d₁.WellFormed)
    (hx : d₁.HasFragment x kids)
    (hstop : (t.render d context mount).stopped = some (.document e))
    (hcause : e = .unknownNode target ∨ e = .notElement target) :
    t.render d context mount = .stop (t₁, t₁.written context kids d₁) (.document e) := by
  by_cases hmarkers : ∀ id ∈ kids.labels, (d₁.contentAt id).MarkersBelow t₁.slots
  · rw [render_of_fragment context mount hrendered hmade hd₁ hx.below hmarkers] at hstop ⊢
    cases hattach : (attach (mount.getD context.host) x (t₁.written context kids d₁)).stopped with
    | none => rw [hattach] at hstop; cases hstop
    | some e' =>
      rw [hattach] at hstop
      cases hstop
      rw [attach_of_unusable_target (wellFormed_written context t₁ hd₁ kids)
        (hasFragment_written context t₁ hd₁ hx) hattach hcause]
      rfl
  · -- A bad marker is no document error, and the fragment can be taken out.
    obtain ⟨e', hrender, hnot⟩ :=
      render_of_bad_marker context mount hrendered hmade hd₁ hx.below hmarkers
    rw [hrender] at hstop
    exact absurd hstop (discard_ne_document t₁ _ hx hnot e)

/-! ### What a failed render leaves behind -/

/-- The fragment of a new template of the document `d`, with its parts written, in the
document `d'`. -/
structure Stranded (context : Context L H) (t : Template L H) (d d' : Document L) : Prop where
  fragment : d'.HasFragment d.nextId (d.parsed t.source)
  held : (d.parsed t.source).map d'.held? = (Markup.parse t.source).map fun c =>
    some (c.rendered t.values t.values, c.listeners context t.values)

theorem stranded_written (context : Context L H) (t : Template L H) (hd : d.WellFormed) :
    Stranded context t d
      (t.written context (d.parsed t.source) (d.parseFragment t.source).1) where
  fragment := hasFragment_written context t (hd.parseFragment t.source)
    (Document.hasFragment_parseFragment hd t.source)
  held := by
    have hmap := Document.map_held?_writeAll context t.values (hd.parseFragment t.source)
      (Document.below?_nextId_parseFragment hd t.source)
    have hheld := Document.map_held?_parseFragment hd t.source
    have hcompose := congrArg (Forest.map fun held : Option (Content × List (Registration L)) =>
      held.map fun h => (h.1.rendered t.values t.values, h.2 ++ h.1.listeners context t.values))
      hheld
    rw [Forest.map_map, Forest.map_map] at hcompose
    exact hmap.trans hcompose

/-- What the nodes of a stranded fragment hold, one by one. -/
theorem Stranded.exists_contentAt {context : Context L H} (h : Stranded context t d d₂)
    {id : NodeId} (hid : id ∈ (d.parsed t.source).labels) :
    ∃ c ∈ (Markup.parse t.source).labels, d₂.contentAt id = c.rendered t.values t.values := by
  obtain ⟨c, hc, hheld⟩ := Forest.exists_mem_of_map_eq h.held hid
  exact ⟨c, hc, Document.contentAt_of_held? hheld⟩

/-- Rendering a stranded fragment, as far as its markers can still be used. -/
theorem render_stranded {context : Context L H} (hd₂ : d₂.WellFormed)
    (h : Stranded context t d d₂) (context₂ : Context L H) (mount : Option NodeId)
    (hmarkers : ∀ c ∈ (Markup.parse t.source).labels,
      (c.rendered t.values t.values).MarkersBelow t.slots) {c : Content}
    (htarget : d₂.content? (d₂.mountPoint (mount.getD context₂.host)) = some c)
    (hc : c.isContainer = true)
    (hout : d₂.mountPoint (mount.getD context₂.host) ∉
      (Forest.tree d.nextId (d.parsed t.source)).labels) :
    (t.drafted d).render d₂ context₂ mount =
      .done ((t.drafted d).mounted context₂ (mount.getD context₂.host)
          (d₂.partsOf (d.parsed t.source).labels),
        (t.drafted d).placed context₂ d.nextId (d.parsed t.source)
          (d₂.mountPoint (mount.getD context₂.host)) d₂) := by
  refine render_of_fragment_of_target context₂ mount rfl rfl hd₂ h.fragment ?_ htarget hc hout
  intro id hid
  obtain ⟨c, hmem, hcontent⟩ := h.exists_contentAt hid
  rw [hcontent]
  exact hmarkers c hmem

/-- **A render that fails on its mount point is not undone.**  The template has left its
compiled stage, and the document has one tree more than before, with everything in it
written and all listeners added.  If no value looked like a marker, a later render finds no
part in this tree: it shows the values of the first attempt, with the listeners of the
first attempt, and no update will change it. -/
theorem render_stopped_at_mount {d : Document L} (hd : d.Reachable) {t : Template L H}
    (ht : t.Unmade) {context : Context L H} {mount : Option NodeId} {target : NodeId}
    {e : DocumentError}
    (hstop : (t.render d context mount).stopped = some (.document e))
    (hcause : e = .unknownNode target ∨ e = .notElement target) :
    ∃ (t' : Template L H) (d' : Document L),
      t.render d context mount = .stop (t', d') (.document e) ∧
      t' = { t with stage := .materialized t.source d.nextId } ∧
      d.contains d.nextId = false ∧
      d'.forest = d.forest ++ .tree d.nextId (d.parsed t.source) ∧
      (∀ id, d.contains id = true → d'.record? id = d.record? id) ∧
      Stranded context t d d' ∧
      ∀ (d₂ : Document L) (context₂ : Context L H) (mount₂ : Option NodeId) (c : Content),
        d₂.Reachable → Stranded context t d d₂ →
        d₂.content? (d₂.mountPoint (mount₂.getD context₂.host)) = some c →
        c.isContainer = true →
        d₂.mountPoint (mount₂.getD context₂.host) ∉
          (Forest.tree d.nextId (d.parsed t.source)).labels →
        (∀ c ∈ (Markup.parse t.source).labels,
          ∀ s ∈ (c.rendered t.values t.values).markedTexts, Marker.isMarker s = false) →
        ∃ (t₂ : Template L H) (d₃ : Document L),
          t'.render d₂ context₂ mount₂ = .done (t₂, d₃) ∧ t₂.parts = [] ∧
          t₂.rendered?.map Rendered.registry = some {} ∧
          (d.parsed t.source).map d₃.held? = (Markup.parse t.source).map fun c =>
            some (c.rendered t.values t.values, c.listeners context t.values) := by
  have hwf := hd.wellFormed
  have hx := Document.hasFragment_parseFragment hwf t.source
  have hrender := render_of_unusable_target ht.isRendered (ht.materialize_eq d)
    (hwf.parseFragment t.source) hx hstop hcause
  refine ⟨t.drafted d, _, hrender, rfl, ?_, ?_, ?_, stranded_written context t hwf, ?_⟩
  · exact Document.contains_eq_false_iff.2 (Document.nextId_not_mem hwf)
  · show ((t.drafted d).written context _ _).forest = _
    unfold written
    rw [Part.forest_writeAll]
    rfl
  · intro id hid
    have hnot : id ∉ (d.parsed t.source).labels := by
      intro hc
      rw [Document.contains_of_mem_parsed hwf hc] at hid
      cases hid
    unfold written
    rw [Document.record?_writeAll_partsOf_of_not_mem context _ hnot]
    exact hwf.record?_plant hid _
  · intro d₂ context₂ mount₂ c hd₂ hstranded htarget hc hout hplain
    have hwf₂ := hd₂.wellFormed
    have hparts : d₂.partsOf (d.parsed t.source).labels = [] := by
      unfold Document.partsOf
      rw [List.filterMap_eq_nil_iff]
      intro id hid
      obtain ⟨c, hmem, hcontent⟩ := hstranded.exists_contentAt hid
      rw [hcontent]
      exact Part.of?_rendered_eq_none (hplain c hmem) id
    have hagain := render_stranded hwf₂ hstranded context₂ mount₂
      (fun c hmem => Content.markersBelow_of_no_marker (hplain c hmem) t.slots) htarget hc hout
    rw [hparts] at hagain
    refine ⟨_, _, hagain, rfl, rfl, ?_⟩
    have hlive : d₂.mountPoint (mount₂.getD context₂.host) ∈ (d₂.forest.prune d.nextId).labels := by
      rw [Forest.mem_labels_prune hwf₂.distinct hstranded.fragment.below]
      simp only [Forest.tree, Forest.labels, List.append_nil, List.mem_cons, not_or] at hout
      exact ⟨Document.contains_iff.1 (Document.contains_of_content? htarget), hout⟩
    have hheld : (d.parsed t.source).map d₂.held? = ((Markup.parse t.source).map fun c =>
        (c.rendered t.values t.values, c.listeners context t.values)).map some := by
      rw [hstranded.held, Forest.map_map]
      rfl
    have hplaced := map_held?_placed context₂ (t.drafted d) hwf₂ hstranded.fragment hlive hheld
    rw [hplaced, Forest.map_map]
    refine Forest.map_congr fun c hmem => ?_
    have hproper := (Markup.fresh_parse t.source c hmem).proper.rendered t.values t.values
    have hnone := Part.of?_rendered_eq_none (hplain c hmem) ⟨0⟩
    show some ((c.rendered t.values t.values).rendered t.values t.values,
      c.listeners context t.values ++ (c.rendered t.values t.values).listeners context₂ t.values) = _
    rw [Part.rendered_of_none hproper hnone, Part.listeners_of_none hnone, List.append_nil]

/-- A page with an element and, beside it, a notice. -/
def noticePage : Document Nat := (samplePage.create (.text "notice")).1

theorem reachable_noticePage : noticePage.Reachable := reachable_samplePage.create trivial

/-- A greeting that was first sent to the notice shows up where it is sent next, but has no
part there. -/
theorem render_stopped_at_mount_noticePage :
    ∃ (t' t₂ : Template Nat Nat) (d' d₃ : Document Nat),
      sampleGreeting.render noticePage ⟨⟨0⟩, id⟩ (some ⟨1⟩) =
        .stop (t', d') (.document (.notElement ⟨1⟩)) ∧
      t'.stage.name = "materialized" ∧
      t'.render d' ⟨⟨0⟩, id⟩ none = .done (t₂, d₃) ∧ t₂.parts = [] := by
  have hstop : (sampleGreeting.render noticePage ⟨⟨0⟩, id⟩ (some ⟨1⟩)).stopped =
      some (.document (.notElement ⟨1⟩)) := by decide +kernel
  obtain ⟨t', d', hrender, rfl, -, -, -, hstranded, hretry⟩ :=
    render_stopped_at_mount reachable_noticePage unmade_sampleGreeting hstop (Or.inr rfl)
  have hd' : d' = (sampleGreeting.render noticePage ⟨⟨0⟩, id⟩ (some ⟨1⟩)).state.2 := by
    rw [hrender]
    rfl
  have hreachable : d'.Reachable := by
    rw [hd']
    exact reachable_noticePage.render sampleGreeting _ _
  have htarget : d'.content? (d'.mountPoint ⟨0⟩) = some (.element { tag := "div" }) := by
    rw [hd']
    decide +kernel
  have hout : d'.mountPoint ⟨0⟩ ∉
      (Forest.tree noticePage.nextId (noticePage.parsed sampleGreeting.source)).labels := by
    rw [hd']
    decide +kernel
  have hplain : ∀ c ∈ (Markup.parse sampleGreeting.source).labels,
      ∀ s ∈ (c.rendered sampleGreeting.values sampleGreeting.values).markedTexts,
        Marker.isMarker s = false := by decide +kernel
  obtain ⟨t₂, d₃, hagain, hparts, -, -⟩ :=
    hretry d' ⟨⟨0⟩, id⟩ none _ hreachable hstranded htarget rfl hout hplain
  exact ⟨_, t₂, d', d₃, hrender, rfl, hagain, hparts⟩

end Template

end LiveMarkup
