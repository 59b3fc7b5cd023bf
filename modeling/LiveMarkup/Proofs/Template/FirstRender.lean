/-
The first render.

Rendering parses, binds, moves and tidies up, and the document goes through several states
in which the new tree is half finished and in the wrong place.  What comes out in the end
is easy to say: the old document with new trees behind the children of the target
(`Gains`), and these are the trees of the parsed markup, with each node as the values make
it.  That is `render_eq_map`.

Nothing on the way depends on how the fragment came about, so the steps are first put
together for any fragment that is there (`render_of_fragment`).  A template that has made
none yet makes it at the end of the document, from where it is moved without a trace
(`prune_parseFragment`).
-/
import LiveMarkup.Proofs.Template.Binding

namespace LiveMarkup

variable {L H : Type}

namespace Document

variable {d d' : Document L} {id target mount : NodeId} {new : Forest NodeId}

/-- The node that a tree under `mount` is put below: the shadow root of `mount`, where there
is one. -/
def mountPoint (d : Document L) (mount : NodeId) : NodeId := (d.shadowRoot? mount).getD mount

/-- Nothing changed but that new trees came in after the children of `target`. -/
structure Gains (d d' : Document L) (target : NodeId) (new : Forest NodeId) : Prop where
  fresh : ∀ id ∈ new.labels, d.contains id = false
  forest : d'.forest = d.forest.graft target new
  kept : ∀ id, d.contains id = true → d'.record? id = d.record? id

theorem Gains.children_target (h : Gains d d' target new) (hd : d.WellFormed)
    (htarget : d.contains target = true) :
    d'.children target = d.children target ++ new.roots := by
  have hlive := contains_iff.1 htarget
  obtain ⟨below, hbelow⟩ := Forest.exists_below? hlive
  have hnew : target ∉ new.labels := by
    intro hc
    rw [h.fresh target hc] at htarget
    cases htarget
  have hafter : d'.forest.below? target = some (below ++ new) := by
    rw [h.forest, Forest.below?_graft hd.distinct hlive hnew, hbelow, Option.map_some, if_pos rfl]
  rw [children_of_below? hafter, children_of_below? hbelow, Forest.roots_append]

theorem Gains.children_other (h : Gains d d' target new) (hd : d.WellFormed)
    (hid : d.contains id = true) (hne : id ≠ target) : d'.children id = d.children id := by
  have hlive := contains_iff.1 hid
  obtain ⟨below, hbelow⟩ := Forest.exists_below? hlive
  have hnew : id ∉ new.labels := by
    intro hc
    rw [h.fresh id hc] at hid
    cases hid
  have hafter : d'.forest.below? id = some (below.graft target new) := by
    rw [h.forest, Forest.below?_graft hd.distinct hlive hnew, hbelow, Option.map_some, if_neg hne]
  rw [children_of_below? hafter, children_of_below? hbelow, Forest.roots_graft]

/-! ### Fragments of markup -/

/-- Parsed nodes hold what the markup says, and have no listeners. -/
theorem map_held?_parseFragment (hd : d.WellFormed) (markup : String) :
    (d.parsed markup).map (d.parseFragment markup).1.held? =
      (Markup.parse markup).map fun c => some (c, []) := by
  have hbelow := below?_nextId_parseFragment hd markup
  have hheld : ∀ id ∈ (d.parsed markup).labels, (d.parseFragment markup).1.held? id =
      some ((d.parseFragment markup).1.contentAt id, []) := by
    intro id hid
    have hlive : (d.parseFragment markup).1.contains id = true :=
      contains_iff.2 (Forest.mem_labels_of_below? hbelow hid)
    obtain ⟨r, hr⟩ := (hd.parseFragment markup).exists_record? hlive
    have hlisteners : r.listeners = [] :=
      listeners_of_mem_sprouts (mem_sprouts_of_mem_parsed hid) (record?_eq_some_iff.1 hr).2
    have hcontent : (d.parseFragment markup).1.contentAt id = r.content :=
      contentAt_of_content? (by rw [content?, hr]; rfl)
    unfold held?
    rw [hr, hcontent, Option.map_some, hlisteners]
  rw [Forest.map_congr hheld, ← map_contentAt_parsed d markup, Forest.map_map]
  rfl

/-- A shadow root is looked up in a live node. -/
theorem contains_of_mountPoint (hlive : d.contains (d.mountPoint mount) = true) :
    d.contains mount = true := by
  by_contra hc
  have hnone := content?_of_not_contains (Bool.not_eq_true _ ▸ hc)
  have htarget : d.mountPoint mount = mount := by
    unfold mountPoint shadowRoot? element?
    rw [hnone]
    rfl
  rw [htarget] at hlive
  exact hc hlive

/-- A target that was live is the same after parsing. -/
theorem mountPoint_parseFragment (hd : d.WellFormed) (markup : String)
    (hlive : d.contains (d.mountPoint mount) = true) :
    (d.parseFragment markup).1.mountPoint mount = d.mountPoint mount := by
  have hmount := contains_of_mountPoint hlive
  have hrecord : (d.parseFragment markup).1.record? mount = d.record? mount :=
    hd.record?_plant hmount _
  unfold mountPoint shadowRoot? element? content?
  rw [hrecord]

/-! ### Moving a fragment to its target -/

/-- Writing a tree does not change where trees under `mount` go. -/
theorem mountPoint_writeAll (context : Context L H) (values : List (Value H)) (hd : d.WellFormed)
    {nodes : List NodeId} (hnodup : nodes.Nodup) (hlive : ∀ id ∈ nodes, d.contains id = true)
    (mount : NodeId) :
    (Part.writeAll context values (d.partsOf nodes) d).mountPoint mount = d.mountPoint mount := by
  have hshadow : (Part.writeAll context values (d.partsOf nodes) d).shadowRoot? mount =
      d.shadowRoot? mount := by
    unfold shadowRoot? element? content?
    by_cases hmem : mount ∈ nodes
    · obtain ⟨r, hr⟩ := hd.exists_record? (hlive mount hmem)
      rw [record?_writeAll_partsOf context values hd hnodup hlive hmem hr, hr]
      cases hc : r.content <;> simp [hc, Content.rendered, Content.element?, Element.rendered]
    · rw [record?_writeAll_partsOf_of_not_mem context values hmem]
  unfold mountPoint
  rw [hshadow]

end Document

namespace Template

variable {d d₁ : Document L} {t t₁ : Template L H} {x : NodeId} {kids : Forest NodeId}

/-- A tree is moved, and then what is left of it goes away. -/
theorem attach_of_append {mount : NodeId} {nodes : List NodeId}
    (h : d.append (d.mountPoint mount) x = Document.placeAll (d.mountPoint mount) nodes d) :
    attach mount x d = (Document.placeAll (d.mountPoint mount) nodes d).andThen fun d =>
      .ofExcept d (d.remove x) := by
  rw [← h]
  rfl

/-- **A fragment whose target is outside goes there as a whole, and is gone itself.** -/
theorem attach_eq {mount : NodeId} {c : Content} (hd : d.WellFormed) (hx : d.HasFragment x kids)
    (htarget : d.content? (d.mountPoint mount) = some c) (hc : c.isContainer = true)
    (hout : d.mountPoint mount ∉ (Forest.tree x kids).labels) :
    attach mount x d = .done { d with
      forest := (d.forest.prune x).graft (d.mountPoint mount) kids
      vacant := d.vacant ++ [d.seat x] } := by
  have hlive : d.mountPoint mount ∈ d.forest.labels :=
    Document.contains_iff.1 (Document.contains_of_content? htarget)
  simp only [Forest.tree, Forest.labels, List.append_nil, List.mem_cons, not_or] at hout
  obtain ⟨f, hplaced, hempty, hprune⟩ :=
    Document.placeAll_children hd.distinct hx.below hlive hout.1 hout.2
  have hcontent : Document.content? { d with forest := f } x = some .fragment := by
    obtain ⟨-, r, hr, hrcontent⟩ := Document.content?_eq_some_iff.1 hx.content
    refine Document.content?_eq_some_iff.2 ⟨?_, r, hr, hrcontent⟩
    rw [Document.contains_iff]
    exact Forest.mem_labels_of_below?_eq_some hempty
  have hcontainer := Document.container_of_content? htarget hc
  rw [attach_of_append (Document.append_fragment hcontainer hx.content hx.below), hplaced,
    Attempt.done_andThen, Document.remove_of_content? hcontent hempty, Attempt.ofExcept_ok]
  congr 2

/-- Nothing moves when the target takes no children or is gone. -/
theorem attach_of_container_error {mount : NodeId} {e : DocumentError}
    (h : d.container (d.mountPoint mount) = .error e) (x : NodeId) :
    attach mount x d = .stop d e := by
  unfold attach
  show (d.append (d.mountPoint mount) x).andThen _ = _
  rw [Document.append_of_container_error h]
  rfl

/-! ### Rendering a fragment -/

section Fragment

variable (context : Context L H) (t : Template L H)

/-- The document with the trees `kids` written. -/
def written (kids : Forest NodeId) (d : Document L) : Document L :=
  Part.writeAll context t.values (d.partsOf kids.labels) d

/-- The document with the trees `kids` written and moved from the fragment `x` to `target`. -/
def placed (x : NodeId) (kids : Forest NodeId) (target : NodeId) (d : Document L) :
    Document L :=
  { t.written context kids d with
    forest := (d.forest.prune x).graft target kids
    vacant := (t.written context kids d).vacant ++ [(t.written context kids d).seat x] }

/-- What a template becomes when its tree is moved to where it belongs. -/
def mounted (mount : NodeId) (parts : List Part) : Template L H :=
  let tree := { parts := parts.map (Part.kept t.values), registry := .ofParts parts, mount, context }
  { t with stage := .rendered t.compile.2 tree }

variable (hd : d.WellFormed) (hx : d.HasFragment x kids)

include hd

theorem wellFormed_written (kids : Forest NodeId) : (t.written context kids d).WellFormed :=
  hd.writeAll context t.values _

include hx

theorem nodup_labels_fragment : x ∉ kids.labels ∧ kids.labels.Nodup :=
  hd.distinct.below? hx.below

theorem hasFragment_written : (t.written context kids d).HasFragment x kids where
  content := by
    unfold written Document.content?
    rw [Document.record?_writeAll_partsOf_of_not_mem context t.values
      (nodup_labels_fragment hd hx).1]
    exact hx.content
  below := by
    unfold written
    rw [Part.forest_writeAll]
    exact hx.below

theorem mountPoint_written (mount : NodeId) :
    (t.written context kids d).mountPoint mount = d.mountPoint mount :=
  Document.mountPoint_writeAll context t.values hd (nodup_labels_fragment hd hx).2
    (fun _ hid => hx.live hid) mount

/-- On the way from the fragment to the target no record changes. -/
theorem record?_placed {target id : NodeId} (htarget : target ∈ (d.forest.prune x).labels)
    (hid : id ∈ (d.forest.prune x).labels ∨ id ∈ kids.labels) :
    (t.placed context x kids target d).record? id = (t.written context kids d).record? id := by
  have hbefore : (t.written context kids d).contains id = true := by
    unfold written
    rw [Part.contains_writeAll, Document.contains_iff]
    rcases hid with hid | hid
    · exact (Forest.labels_prune_sublist x d.forest).subset hid
    · exact Forest.mem_labels_of_below? hx.below hid
  have hafter : (t.placed context x kids target d).contains id = true :=
    Document.contains_iff.2 ((Forest.mem_labels_graft (hd.distinct.prune x) htarget).2 hid)
  have hrecords : (t.placed context x kids target d).records = (t.written context kids d).records := by
    simp only [placed]
  unfold Document.record?
  rw [if_pos hbefore, if_pos hafter, hrecords]

/-- Nodes outside the fragment hold what they held. -/
theorem record?_placed_of_mem_prune {target id : NodeId}
    (htarget : target ∈ (d.forest.prune x).labels) (hid : id ∈ (d.forest.prune x).labels) :
    (t.placed context x kids target d).record? id = d.record? id := by
  have hnot := ((Forest.mem_labels_prune hd.distinct hx.below).1 hid).2.2
  rw [record?_placed context t hd hx htarget (Or.inl hid)]
  exact Document.record?_writeAll_partsOf_of_not_mem context t.values hnot

/-- **The nodes of the fragment hold what the map makes of what they held.** -/
theorem map_held?_placed {target : NodeId} (htarget : target ∈ (d.forest.prune x).labels)
    {contents : Forest (Content × List (Registration L))}
    (hheld : kids.map d.held? = contents.map some) :
    kids.map (t.placed context x kids target d).held? = contents.map fun h =>
      some (h.1.rendered t.values t.values, h.2 ++ h.1.listeners context t.values) := by
  have hsame : kids.map (t.placed context x kids target d).held? =
      kids.map (t.written context kids d).held? :=
    Forest.map_congr fun id hid =>
      Document.held?_of_record? (record?_placed context t hd hx htarget (Or.inr hid))
  have hmap := Document.map_held?_writeAll context t.values hd hx.below
  have hcompose := congrArg (Forest.map fun held : Option (Content × List (Registration L)) =>
    held.map fun h => (h.1.rendered t.values t.values, h.2 ++ h.1.listeners context t.values)) hheld
  rw [Forest.map_map, Forest.map_map] at hcompose
  exact hsame.trans (hmap.trans hcompose)

end Fragment

/-- Rendering a fragment whose markers are all usable: all that can go wrong is the move. -/
theorem render_of_fragment (context : Context L H) (mount : Option NodeId)
    (hrendered : t.isRendered = false) (hmade : t.materialize d = ((t₁, d₁), .ok x))
    (hd₁ : d₁.WellFormed) (hk : d₁.forest.below? x = some kids)
    (hmarkers : ∀ id ∈ kids.labels, (d₁.contentAt id).MarkersBelow t₁.slots) :
    t.render d context mount =
      match (attach (mount.getD context.host) x (t₁.written context kids d₁)).stopped with
      | some e =>
        .stop (t₁, (attach (mount.getD context.host) x (t₁.written context kids d₁)).state)
          (.document e)
      | none =>
        .done (t₁.mounted context (mount.getD context.host) (d₁.partsOf kids.labels),
          (attach (mount.getD context.host) x (t₁.written context kids d₁)).state) := by
  unfold render
  rw [if_neg (by rw [hrendered]; exact Bool.false_ne_true), hmade]
  simp only [bind_eq context t₁ hd₁ hk hmarkers, Attempt.stopped_done, Attempt.state_done]
  unfold written
  generalize attach (mount.getD context.host) x _ = attached
  cases attached.stopped <;> rfl

/-- A bad marker: the fragment is thrown away. -/
theorem render_of_bad_marker (context : Context L H) (mount : Option NodeId)
    (hrendered : t.isRendered = false) (hmade : t.materialize d = ((t₁, d₁), .ok x))
    (hd₁ : d₁.WellFormed) (hk : d₁.forest.below? x = some kids)
    (hbad : ¬ ∀ id ∈ kids.labels, (d₁.contentAt id).MarkersBelow t₁.slots) :
    ∃ e, t.render d context mount = t₁.discard t₁.compile.2 x d₁ e ∧ ∀ e', e ≠ .document e' := by
  obtain ⟨e, he, hnot⟩ := bind_of_bad_marker context t₁ hd₁ hk hbad
  refine ⟨e, ?_, hnot⟩
  unfold render
  rw [if_neg (by rw [hrendered]; exact Bool.false_ne_true), hmade]
  simp only [he, Attempt.stopped_stop, Attempt.state_stop]

/-- A fragment whose markers and whose target are usable is rendered. -/
theorem render_of_fragment_of_target (context : Context L H) (mount : Option NodeId)
    (hrendered : t.isRendered = false) (hmade : t.materialize d = ((t₁, d₁), .ok x))
    (hd₁ : d₁.WellFormed) (hx : d₁.HasFragment x kids)
    (hmarkers : ∀ id ∈ kids.labels, (d₁.contentAt id).MarkersBelow t₁.slots) {c : Content}
    (htarget : d₁.content? (d₁.mountPoint (mount.getD context.host)) = some c)
    (hc : c.isContainer = true)
    (hout : d₁.mountPoint (mount.getD context.host) ∉ (Forest.tree x kids).labels) :
    t.render d context mount =
      .done (t₁.mounted context (mount.getD context.host) (d₁.partsOf kids.labels),
        t₁.placed context x kids (d₁.mountPoint (mount.getD context.host)) d₁) := by
  have hpoint := mountPoint_written context t₁ hd₁ hx (mount.getD context.host)
  have hwritten : (t₁.written context kids d₁).content?
      ((t₁.written context kids d₁).mountPoint (mount.getD context.host)) = some c := by
    have hnot : d₁.mountPoint (mount.getD context.host) ∉ kids.labels := by
      intro hmem
      exact hout (by simp [Forest.tree, Forest.labels, hmem])
    rw [hpoint]
    unfold written Document.content?
    rw [Document.record?_writeAll_partsOf_of_not_mem context t₁.values hnot]
    exact htarget
  have hattach := attach_eq (wellFormed_written context t₁ hd₁ kids)
    (hasFragment_written context t₁ hd₁ hx) hwritten hc (by rw [hpoint]; exact hout)
  have hforest : (t₁.written context kids d₁).forest = d₁.forest := Part.forest_writeAll ..
  rw [render_of_fragment context mount hrendered hmade hd₁ hx.below hmarkers, hattach, hpoint, hforest]
  rfl

/-! ### Rendering a new template -/

/-- A template that was neither rendered nor made into a fragment. -/
structure Unmade (t : Template L H) : Prop where
  slots : t.slots = t.values.length
  stage : t.stage = .uncompiled ∨ t.stage = .compiled (annotate t.strings t.values)

theorem unmade_ofStrings (strings : List String) (values : List (Value H)) :
    (ofStrings strings values : Template L H).Unmade :=
  ⟨rfl, Or.inl rfl⟩

theorem Unmade.compiled (ht : t.Unmade) : t.compile.1.Unmade := by
  unfold Template.compile markup?
  rcases ht.stage with h | h
  · simp only [h, Stage.markup?]
    exact ⟨ht.slots, Or.inr rfl⟩
  · simp only [h, Stage.markup?]
    exact ht

/-- The markup of a template that is not compiled yet. -/
def source (t : Template L H) : String := annotate t.strings t.values

/-- A new template once it has a fragment in `d`. -/
def drafted (t : Template L H) (d : Document L) : Template L H :=
  { t with stage := .materialized t.source d.nextId }

theorem Unmade.isRendered (ht : t.Unmade) : t.isRendered = false := by
  unfold Template.isRendered rendered?
  rcases ht.stage with h | h <;> rw [h] <;> rfl

theorem Unmade.materialize_eq (ht : t.Unmade) (d : Document L) :
    t.materialize d = ((t.drafted d, (d.parseFragment t.source).1), .ok d.nextId) := by
  unfold materialize compile markup?
  rcases ht.stage with h | h <;> simp only [h, Stage.markup?] <;> rfl

theorem markersBelow_parsed
    (hmarkers : ∀ c ∈ (Markup.parse t.source).labels, c.MarkersBelow t.slots) (d : Document L) :
    ∀ id ∈ (d.parsed t.source).labels,
      ((d.parseFragment t.source).1.contentAt id).MarkersBelow t.slots := by
  intro id hid
  refine hmarkers _ ?_
  rw [← Document.map_contentAt_parsed d t.source, Forest.labels_map]
  exact List.mem_map_of_mem hid

/-- The document after the first render of a new template. -/
def delivered (context : Context L H) (t : Template L H) (target : NodeId) (d : Document L) :
    Document L :=
  t.placed context d.nextId (d.parsed t.source) target (d.parseFragment t.source).1

/-- The template after its first render. -/
def settled (context : Context L H) (t : Template L H) (mount : NodeId) (d : Document L) :
    Template L H :=
  (t.drafted d).mounted context mount
    ((d.parseFragment t.source).1.partsOf (d.parsed t.source).labels)

theorem gains_delivered (context : Context L H) (t : Template L H) (hd : d.WellFormed)
    {target : NodeId} (htarget : target ∈ d.forest.labels) :
    d.Gains (t.delivered context target d) target (d.parsed t.source) where
  fresh _ hid := Document.contains_of_mem_parsed hd hid
  forest := by
    show ((d.parseFragment t.source).1.forest.prune d.nextId).graft target _ = _
    rw [Document.prune_parseFragment hd]
  kept id hid := by
    have hprune := Document.prune_parseFragment hd t.source
    have hplaced := record?_placed_of_mem_prune context t (hd.parseFragment t.source)
      (Document.hasFragment_parseFragment hd t.source) (hprune ▸ htarget)
      (hprune ▸ Document.contains_iff.1 hid)
    exact hplaced.trans (hd.record?_plant hid _)

theorem map_held?_delivered (context : Context L H) (t : Template L H) (hd : d.WellFormed)
    {target : NodeId} (htarget : target ∈ d.forest.labels) :
    (d.parsed t.source).map (t.delivered context target d).held? =
      (Markup.parse t.source).map fun c =>
        some (c.rendered t.values t.values, c.listeners context t.values) := by
  have hheld : (d.parsed t.source).map (d.parseFragment t.source).1.held? =
      ((Markup.parse t.source).map fun c => (c, [])).map some := by
    rw [Document.map_held?_parseFragment hd, Forest.map_map]
    rfl
  have hplaced := map_held?_placed context t (hd.parseFragment t.source)
    (Document.hasFragment_parseFragment hd t.source)
    (Document.prune_parseFragment hd t.source ▸ htarget) hheld
  rw [Forest.map_map] at hplaced
  exact hplaced

/-- The exact outcome of the first render of a new template. -/
theorem render_of_unmade (hd : d.WellFormed) (ht : t.Unmade) (context : Context L H)
    (mount : Option NodeId)
    (hmarkers : ∀ c ∈ (Markup.parse t.source).labels, c.MarkersBelow t.slots) {c : Content}
    (htarget : d.content? (d.mountPoint (mount.getD context.host)) = some c)
    (hc : c.isContainer = true) :
    t.render d context mount =
      .done (t.settled context (mount.getD context.host) d,
        t.delivered context (d.mountPoint (mount.getD context.host)) d) := by
  have hlive := Document.contains_of_content? htarget
  have hpoint := Document.mountPoint_parseFragment hd t.source hlive
  have hparsed : (d.parseFragment t.source).1.content?
      ((d.parseFragment t.source).1.mountPoint (mount.getD context.host)) = some c := by
    rw [hpoint]
    unfold Document.content?
    rw [show (d.parseFragment t.source).1.record? _ = _ from hd.record?_plant hlive _]
    exact htarget
  have hout : (d.parseFragment t.source).1.mountPoint (mount.getD context.host) ∉
      (Forest.tree d.nextId (d.parsed t.source)).labels := by
    have hnot : d.mountPoint (mount.getD context.host) ∉
        (d.sprouts (.tree .fragment (Markup.parse t.source))).labels :=
      hd.not_mem_sprouts (Document.contains_iff.1 hlive)
    rw [hpoint]
    exact hnot
  rw [render_of_fragment_of_target context mount ht.isRendered (ht.materialize_eq d)
    (hd.parseFragment t.source) (Document.hasFragment_parseFragment hd t.source)
    (markersBelow_parsed hmarkers d) hparsed hc hout, hpoint]
  rfl

/-- A first render below a live target goes through only if all markers are usable, and then
the outcome is the one above. -/
theorem render_of_unmade_eq_done {d : Document L} (hd : d.WellFormed) {t : Template L H}
    (ht : t.Unmade) {context : Context L H} {mount : Option NodeId}
    (hlive : d.contains (d.mountPoint (mount.getD context.host)) = true)
    {s : Template L H × Document L} (hrender : t.render d context mount = .done s) :
    (∀ c ∈ (Markup.parse t.source).labels, c.MarkersBelow t.slots) ∧
      s = (t.settled context (mount.getD context.host) d,
        t.delivered context (d.mountPoint (mount.getD context.host)) d) := by
  have hx := Document.hasFragment_parseFragment hd t.source
  have hwf := hd.parseFragment t.source
  by_cases hmarkers : ∀ c ∈ (Markup.parse t.source).labels, c.MarkersBelow t.slots
  · refine ⟨hmarkers, ?_⟩
    obtain ⟨c, htarget⟩ := hd.exists_content? hlive
    cases hc : c.isContainer with
    | true =>
      have hdone := render_of_unmade hd ht context mount hmarkers htarget hc
      rw [hrender] at hdone
      exact congrArg Attempt.state hdone
    | false =>
      -- The target takes no children, which the move would have noticed.
      have hpoint : ((t.drafted d).written context (d.parsed t.source)
          (d.parseFragment t.source).1).mountPoint (mount.getD context.host) =
          d.mountPoint (mount.getD context.host) := by
        rw [mountPoint_written context _ hwf hx, Document.mountPoint_parseFragment hd _ hlive]
      have hnot : d.mountPoint (mount.getD context.host) ∉ (d.parsed t.source).labels := by
        intro hmem
        rw [Document.contains_of_mem_parsed hd hmem] at hlive
        cases hlive
      have hcontent : ((t.drafted d).written context (d.parsed t.source)
          (d.parseFragment t.source).1).content? (d.mountPoint (mount.getD context.host)) =
          some c := by
        unfold written Document.content?
        rw [Document.record?_writeAll_partsOf_of_not_mem context _ hnot]
        rw [show (d.parseFragment t.source).1.record? _ = _ from hd.record?_plant hlive _]
        exact htarget
      have hattach := attach_of_container_error
        (hpoint.symm ▸ Document.container_of_not_container hcontent hc) d.nextId
      rw [render_of_fragment context mount ht.isRendered (ht.materialize_eq d) hwf hx.below
        (markersBelow_parsed hmarkers d), hattach] at hrender
      exact absurd (congrArg Attempt.stopped hrender) nofun
  · have hbad : ¬ ∀ id ∈ (d.parsed t.source).labels,
        ((d.parseFragment t.source).1.contentAt id).MarkersBelow t.slots := by
      intro hall
      refine hmarkers fun c hc => ?_
      rw [← Document.map_contentAt_parsed d t.source, Forest.labels_map] at hc
      obtain ⟨id, hid, rfl⟩ := List.mem_map.1 hc
      exact hall id hid
    obtain ⟨e, hdiscard, -⟩ :=
      render_of_bad_marker context mount ht.isRendered (ht.materialize_eq d) hwf hx.below hbad
    rw [hrender] at hdiscard
    unfold discard at hdiscard
    simp only at hdiscard
    split at hdiscard <;> exact absurd (congrArg Attempt.stopped hdiscard) nofun

/-- **The first render is a map over the parsed markup.**  The old document is as it was,
but for the new nodes behind the children of the target.  They are the nodes of the
markup; each holds, and listens to, what the values make of it. -/
theorem render_eq_map {d : Document L} (hd : d.Reachable) {t : Template L H} (ht : t.Unmade)
    (context : Context L H) (mount : Option NodeId)
    (hmarkers : ∀ c ∈ (Markup.parse t.source).labels, c.MarkersBelow t.slots) {c : Content}
    (htarget : d.content? (d.mountPoint (mount.getD context.host)) = some c)
    (hc : c.isContainer = true) :
    ∃ (t' : Template L H) (d' : Document L) (new : Forest NodeId),
      t.render d context mount = .done (t', d') ∧ t'.isRendered = true ∧
      d.Gains d' (d.mountPoint (mount.getD context.host)) new ∧
      d'.children (d.mountPoint (mount.getD context.host)) =
        d.children (d.mountPoint (mount.getD context.host)) ++ new.roots ∧
      (∀ id, d.contains id = true → id ≠ d.mountPoint (mount.getD context.host) →
        d'.children id = d.children id) ∧
      new.map d'.held? = (Markup.parse t.source).map fun c =>
        some (c.rendered t.values t.values, c.listeners context t.values) := by
  have hwf := hd.wellFormed
  have hlive := Document.contains_of_content? htarget
  have hgains := gains_delivered context t hwf (Document.contains_iff.1 hlive)
  exact ⟨_, _, d.parsed t.source, render_of_unmade hwf ht context mount hmarkers htarget hc, rfl,
    hgains, hgains.children_target hwf hlive, fun id hid hne => hgains.children_other hwf hid hne,
    map_held?_delivered context t hwf (Document.contains_iff.1 hlive)⟩

/-- A page with a single empty element. -/
def samplePage : Document Nat := (({} : Document Nat).create (.element { tag := "div" })).1

theorem reachable_samplePage : samplePage.Reachable :=
  .create .empty ⟨OrderedMap.distinct_empty, OrderedMap.distinct_empty⟩

/-- A greeting that can be clicked on. -/
def sampleGreeting : Template Nat Nat :=
  ofStrings ["<p @click=\"", "\">Hello, ", "</p>"] [.handler 7, .text "Ada"]

theorem unmade_sampleGreeting : sampleGreeting.Unmade := unmade_ofStrings _ _

/-- The greeting on the page: the click is a listener, and the name is in the text. -/
theorem render_eq_map_sampleGreeting :
    ∃ (t' : Template Nat Nat) (d' : Document Nat) (new : Forest NodeId),
      sampleGreeting.render samplePage ⟨⟨0⟩, id⟩ none = .done (t', d') ∧
      d'.children ⟨0⟩ = new.roots ∧
      new.map d'.held? = .tree (some (.element { tag := "p" }, [⟨"click", 7⟩]))
        (.tree (some (.text "Hello, Ada", [])) .nil) := by
  have hmarkers : ∀ c ∈ (Markup.parse sampleGreeting.source).labels,
      c.MarkersBelow sampleGreeting.slots := by decide +kernel
  have htarget : samplePage.content? (samplePage.mountPoint ⟨0⟩) =
      some (.element { tag := "div" }) := by decide
  obtain ⟨t', d', new, hrender, -, -, hchildren, -, hheld⟩ :=
    render_eq_map reachable_samplePage unmade_sampleGreeting ⟨⟨0⟩, id⟩ none hmarkers htarget rfl
  refine ⟨t', d', new, hrender, ?_, ?_⟩
  · have hpoint : samplePage.mountPoint ⟨0⟩ = ⟨0⟩ := by decide
    have hempty : samplePage.children ⟨0⟩ = [] := by decide
    have hafter : d'.children (samplePage.mountPoint ⟨0⟩) =
        samplePage.children (samplePage.mountPoint ⟨0⟩) ++ new.roots := hchildren
    rw [hpoint, hempty] at hafter
    exact hafter
  · rw [hheld]
    decide +kernel

end Template

end LiveMarkup
