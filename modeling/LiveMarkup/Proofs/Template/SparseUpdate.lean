/-
Updating only what changed.

A sparse update leaves out the parts that read none of the slots listed as changed.  That is
safe as long as such parts show the values already, and this has to be known of every part
at every time, since any of them may be left out next.  So the invariant is that all parts
are in sync with the values adopted last and stand in the table under the slots they read
(`Synced`).  Both kinds of updates establish it for the new values.

A tree can be rendered into the fragment it comes from, and then goes with the fragment.
No part of it can be written any longer; updates of both kinds adopt the values and do
nothing else.  The invariant allows for that.
-/
import LiveMarkup.Proofs.Part.Keeping
import LiveMarkup.Proofs.Part.Skipping
import LiveMarkup.Proofs.Template.FirstRender

namespace LiveMarkup

variable {L H : Type}

namespace Template

variable {t : Template L H} {d d' : Document L} {markup : String} {tree : Rendered L H}
  {values : List (Value H)}

/-- The parts of a tree are where the table says, and either their nodes are all gone or all of
them are in sync with `values`. -/
structure InSync (slots : Nat) (values : List (Value H)) (tree : Rendered L H)
    (d : Document L) : Prop where
  listed : Part.Listed slots tree.registry tree.parts
  written : (∀ p ∈ tree.parts, d.content? p.node = none) ∨
    Part.Ready tree.parts d ∧ ∀ p ∈ tree.parts, p.Idle values (d.contentAt p.node)

/-- If the template is rendered, its tree is in sync with its values. -/
def Synced (s : Template L H × Document L) : Prop :=
  ∀ markup tree, s.1.stage = .rendered markup tree → InSync s.1.slots s.1.values tree s.2

theorem synced_of_not_rendered (ht : t.isRendered = false) : Synced (t, d) := by
  intro markup tree hstage
  unfold isRendered rendered? at ht
  rw [hstage] at ht
  cases ht

theorem InSync.of_content? {slots : Nat} (h : InSync slots values tree d)
    (hsame : ∀ p ∈ tree.parts, d'.content? p.node = d.content? p.node) :
    InSync slots values tree d' where
  listed := h.listed
  written := by
    rcases h.written with hgone | ⟨hready, hidle⟩
    · exact Or.inl fun p hp => (hsame p hp).trans (hgone p hp)
    · obtain ⟨hready', hat⟩ := hready.of_content? hsame
      refine Or.inr ⟨hready', fun p hp => ?_⟩
      rw [hat p hp]
      exact hidle p hp

theorem parts_of_stage (hstage : t.stage = .rendered markup tree) : t.parts = tree.parts := by
  unfold parts rendered?
  rw [hstage]
  rfl

/-- What others do elsewhere does not matter. -/
theorem Synced.of_content? (h : Synced (t, d))
    (hsame : ∀ p ∈ t.parts, d'.content? p.node = d.content? p.node) : Synced (t, d') := by
  intro markup tree hstage
  rw [parts_of_stage hstage] at hsame
  exact (h markup tree hstage).of_content? hsame

/-! ### One update -/

/-- The template once it has adopted `values` and is left with `parts`. -/
def adopting (t : Template L H) (markup : String) (tree : Rendered L H) (values : List (Value H))
    (parts : List Part) : Template L H :=
  { t with values, previous := some t.values, stage := .rendered markup { tree with parts } }

theorem updateWith_eq (hstage : t.stage = .rendered markup tree) (chosen : Registry → Nat → Bool)
    (d : Document L) (values : List (Value H)) :
    (t.updateWith chosen d values).state =
      (t.adopting markup tree values
        (Part.updateChosen tree.context values (chosen tree.registry) 0 tree.parts d).state.1,
      (Part.updateChosen tree.context values (chosen tree.registry) 0 tree.parts d).state.2) := by
  unfold updateWith adopting
  rw [hstage]
  rfl

theorem state_updateWith_of_gone (hstage : t.stage = .rendered markup tree)
    (hgone : ∀ p ∈ tree.parts, d.content? p.node = none) (chosen : Registry → Nat → Bool)
    (values : List (Value H)) :
    (t.updateWith chosen d values).state = (t.adopting markup tree values tree.parts, d) := by
  rw [updateWith_eq hstage, Part.state_updateChosen_of_gone _ _ _ _ hgone]

theorem state_updateWith_of_ready (hstage : t.stage = .rendered markup tree)
    (hready : Part.Ready tree.parts d) {chosen : Registry → Nat → Bool}
    (hidle : ∀ position p, tree.parts[position]? = some p →
      chosen tree.registry position = false → p.Idle values (d.contentAt p.node)) :
    (t.updateWith chosen d values).state =
      (t.adopting markup tree values (tree.parts.map (Part.kept values)),
        Part.writeAll tree.context values tree.parts d) := by
  have hwritten : Part.updateChosen tree.context values (chosen tree.registry) 0 tree.parts d =
      .done (tree.parts.map (Part.kept values),
        Part.writeAll tree.context values tree.parts d) := by
    refine Part.updateChosen_eq tree.context hready.toApart fun i p hp hnot => ?_
    rw [Nat.zero_add] at hnot
    exact hidle i p hp hnot
  rw [updateWith_eq hstage, hwritten]
  rfl

theorem state_update_of_ready (hstage : t.stage = .rendered markup tree)
    (hready : Part.Ready tree.parts d) (values : List (Value H)) :
    (t.update d values).state =
      (t.adopting markup tree values (tree.parts.map (Part.kept values)),
        Part.writeAll tree.context values tree.parts d) :=
  state_updateWith_of_ready hstage hready fun _ _ _ hnot => Bool.noConfusion hnot

/-- **A sparse update that lists all slots that differ is a full update.** -/
theorem state_updateSlots [BEq H] (h : Synced (t, d)) (values : List (Value H))
    {changed : List Nat}
    (hchanged : ∀ slot < t.slots, (values[slot]? == t.values[slot]?) = false → slot ∈ changed) :
    (t.updateSlots d values changed).state = (t.update d values).state := by
  cases hstage : t.stage with
  | uncompiled | compiled | materialized =>
    unfold updateSlots update updateWith
    rw [hstage]
  | rendered markup tree =>
    obtain ⟨hlisted, hgone | ⟨hready, hidle⟩⟩ := h markup tree hstage
    · unfold updateSlots update
      rw [state_updateWith_of_gone hstage hgone, state_updateWith_of_gone hstage hgone]
    · have hskipped : ∀ position p, tree.parts[position]? = some p →
          tree.registry.concerns changed position = false →
          p.Idle values (d.contentAt p.node) := by
        intro position p hp hnot
        have hmem := List.mem_of_getElem? hp
        refine (hidle p hmem).of_beq (hready.proper p hmem) fun index hindex => ?_
        by_contra hdiffers
        exact hlisted.not_mem_changed hp hnot index hindex
          (hchanged index (hlisted.below p hmem index hindex) (Bool.not_eq_true _ ▸ hdiffers))
      unfold updateSlots
      rw [state_updateWith_of_ready hstage hready hskipped, state_update_of_ready hstage hready]

/-- **A full update brings everything in sync with the new values.** -/
theorem Synced.update (h : Synced (t, d)) (values : List (Value H)) :
    Synced (t.update d values).state := by
  cases hstage : t.stage with
  | uncompiled | compiled | materialized =>
    unfold Template.update updateWith
    rw [hstage]
    exact h
  | rendered markup tree =>
    obtain ⟨hlisted, hgone | ⟨hready, -⟩⟩ := h markup tree hstage
    · unfold Template.update
      rw [state_updateWith_of_gone hstage hgone]
      intro markup' tree' hstage'
      cases hstage'
      exact ⟨hlisted, Or.inl hgone⟩
    · rw [state_update_of_ready hstage hready]
      intro markup' tree' hstage'
      cases hstage'
      exact ⟨hlisted.map_kept values, Or.inr (hready.writeAll tree.context values)⟩

/-! ### The first render -/

variable {x : NodeId} {kids : Forest NodeId} {mount : NodeId}

theorem container_of_attach (hstopped : (attach mount x d).stopped = none) :
    d.container (d.mountPoint mount) = .ok () := by
  cases hcontainer : d.container (d.mountPoint mount) with
  | ok u => rfl
  | error e =>
    rw [attach_of_container_error hcontainer] at hstopped
    cases hstopped

/-- A fragment does not go below one of its own nodes. -/
theorem stopped_attach_of_mem (hd : d.WellFormed) (hx : d.HasFragment x kids)
    (hmem : d.mountPoint mount ∈ kids.labels) : (attach mount x d).stopped ≠ none := by
  intro hstopped
  have hcontainer := container_of_attach hstopped
  obtain ⟨r, hr, below, hbelow, habove⟩ :=
    Forest.exists_root_above (hd.distinct.below? hx.below).2 hmem
  have hancestor : r ∈ d.ancestors (d.mountPoint mount) := by
    unfold Document.ancestors
    cases htrail : d.forest.trail? (d.mountPoint mount) with
    | none =>
      exact absurd (Document.mem_labels_of_container hcontainer)
        (Forest.trail?_eq_none_iff.1 htrail)
    | some trail =>
      rw [Option.getD_some, Forest.mem_trail?_iff hd.distinct htrail]
      refine ⟨below, ?_, habove⟩
      rw [Forest.below?_of_below? hd.distinct hx.below (Forest.mem_labels_of_mem_roots hr), hbelow]
  rw [attach_of_append (Document.append_fragment hcontainer hx.content hx.below)] at hstopped
  exact Document.stopped_placeAll_of_above hr hancestor (Attempt.stopped_of_andThen hstopped)

/-- What is still below a node once it was moved goes away with it. -/
theorem contains_attach_of_below (hd : d.WellFormed) {nodes : List NodeId}
    (happend : d.append (d.mountPoint mount) x = Document.placeAll (d.mountPoint mount) nodes d)
    (hkept : (Document.placeAll (d.mountPoint mount) nodes d).stopped = none →
      ∃ after, (Document.placeAll (d.mountPoint mount) nodes d).state.forest.below? x = some after ∧
        kids.labels ⊆ after.labels)
    (hstopped : (attach mount x d).stopped = none) :
    ∀ id ∈ kids.labels, (attach mount x d).state.contains id = false := by
  intro id hid
  have hcontainer := container_of_attach hstopped
  rw [attach_of_append happend] at hstopped ⊢
  have hnone := Attempt.stopped_of_andThen hstopped
  obtain ⟨after, hbelow, hsubset⟩ := hkept hnone
  have hmoved := (Document.rearranged_placeAll hd
    (Document.mem_labels_of_container hcontainer) nodes).wellFormed hd
  obtain ⟨c, hcontent⟩ := hmoved.exists_content?
    (Document.contains_iff.2 (Forest.mem_labels_of_below?_eq_some hbelow))
  rw [Attempt.eq_done hnone, Attempt.done_andThen, Document.remove_of_content? hcontent hbelow,
    Attempt.ofExcept_ok, Attempt.state_done, Document.contains_eq_false_iff]
  intro hc
  exact ((Forest.mem_labels_prune hmoved.distinct hbelow).1 hc).2.2 (hsubset hid)

/-- A fragment that goes below itself goes away with all that is in it. -/
theorem contains_attach_self (hd : d.WellFormed) (hx : d.HasFragment x kids)
    (hself : d.mountPoint mount = x) (hstopped : (attach mount x d).stopped = none) :
    ∀ id ∈ kids.labels, (attach mount x d).state.contains id = false := by
  have hcontainer : d.container (d.mountPoint mount) = .ok () :=
    hself.symm ▸ Document.container_of_content? hx.content rfl
  have happend := Document.append_fragment hcontainer hx.content hx.below
  refine contains_attach_of_below hd happend (fun hnone => ?_) hstopped
  rw [hself] at hnone ⊢
  obtain ⟨after, hbelow, hperm⟩ := Document.below?_placeAll_self hd hx.below
    (fun _ hr => Forest.mem_labels_of_mem_roots hr) hnone
  exact ⟨after, hbelow, hperm.symm.subset⟩

/-- A node that is no fragment is moved itself, and goes away with all that is below it. -/
theorem contains_attach_of_ne_fragment (hd : d.WellFormed) {c : Content}
    (hcontent : d.content? x = some c) (hc : c ≠ .fragment)
    (hk : d.forest.below? x = some kids) (hstopped : (attach mount x d).stopped = none) :
    ∀ id ∈ kids.labels, (attach mount x d).state.contains id = false := by
  have hcontainer := container_of_attach hstopped
  have happend := Document.append_of_ne_fragment hcontainer hcontent hc
  refine contains_attach_of_below hd happend (fun hnone => ?_) hstopped
  have hplace : (d.place (d.mountPoint mount) x).stopped = none := Attempt.stopped_of_andThen hnone
  have hbelow := Document.below?_place hd (Document.mem_labels_of_container hcontainer) hk hplace
  refine ⟨kids, ?_, List.Subset.refl _⟩
  show ((d.place (d.mountPoint mount) x).andThen _).state.forest.below? x = some kids
  rw [Attempt.eq_done hplace, Attempt.done_andThen]
  exact hbelow

/-- A fragment that goes elsewhere leaves its nodes as they are. -/
theorem content?_attach_of_outside (hd : d.WellFormed) (hx : d.HasFragment x kids)
    (hself : d.mountPoint mount ≠ x) (hmem : d.mountPoint mount ∉ kids.labels)
    (hstopped : (attach mount x d).stopped = none) :
    ∀ id ∈ kids.labels, (attach mount x d).state.content? id = d.content? id := by
  intro id hid
  have hout : d.mountPoint mount ∉ (Forest.tree x kids).labels := by
    simp [Forest.tree, Forest.labels, hself, hmem]
  have hcontainer := container_of_attach hstopped
  obtain ⟨c, htarget, hc⟩ := Document.exists_content?_of_container hcontainer
  have hstays : d.mountPoint mount ∈ (d.forest.prune x).labels :=
    (Forest.mem_labels_prune hd.distinct hx.below).2
      ⟨Document.mem_labels_of_container hcontainer, hself, hmem⟩
  rw [attach_eq hd hx htarget hc hout, Attempt.state_done]
  obtain ⟨c', hcontent⟩ := hd.exists_content? (hx.live hid)
  obtain ⟨-, hrecord⟩ := Document.content?_eq_some_iff.1 hcontent
  rw [hcontent, Document.content?_eq_some_iff]
  refine ⟨Document.contains_iff.2 ?_, hrecord⟩
  exact (Forest.mem_labels_graft (hd.distinct.prune x) hstays).2 (Or.inr hid)

/-- **When a tree was moved, the nodes below it hold what they held, or are all gone.** -/
theorem content?_attach (hd : d.WellFormed) (hk : d.forest.below? x = some kids)
    (hstopped : (attach mount x d).stopped = none) :
    (∀ id ∈ kids.labels, (attach mount x d).state.content? id = none) ∨
      ∀ id ∈ kids.labels, (attach mount x d).state.content? id = d.content? id := by
  have hlive := Document.contains_iff.2 (Forest.mem_labels_of_below?_eq_some hk)
  obtain ⟨c, hcontent⟩ := hd.exists_content? hlive
  by_cases hfragment : c = .fragment
  · subst hfragment
    have hx : d.HasFragment x kids := ⟨hcontent, hk⟩
    by_cases hself : d.mountPoint mount = x
    · exact Or.inl fun id hid =>
        Document.content?_of_not_contains (contains_attach_self hd hx hself hstopped id hid)
    · by_cases hmem : d.mountPoint mount ∈ kids.labels
      · exact absurd hstopped (stopped_attach_of_mem hd hx hmem)
      · exact Or.inr (content?_attach_of_outside hd hx hself hmem hstopped)
  · exact Or.inl fun id hid => Document.content?_of_not_contains
      (contains_attach_of_ne_fragment hd hcontent hfragment hk hstopped id hid)

/-- A fragment that is gone goes nowhere. -/
theorem stopped_attach_of_gone (hx : d.contains x = false) (mount : NodeId) :
    (attach mount x d).stopped ≠ none := by
  have hget : d.get x = .error (.unknownNode x) := by
    simp [Document.get, Document.content?_of_not_contains hx]
  unfold attach Document.append Document.moved
  rw [hget]
  cases d.container ((d.shadowRoot? mount).getD mount) with
  | error e => exact Option.some_ne_none e
  | ok u => exact Option.some_ne_none (DocumentError.unknownNode x)

theorem forest_bind (context : Context L H) (t : Template L H) (x : NodeId) (d : Document L) :
    (bind context t x d).state.2.forest = d.forest := by
  unfold bind
  split
  · rfl
  · exact (Document.keptByWriting_forest t.values _ d.forest).updateChosen rfl context _ _ _
      fun _ hp => hp

theorem isRendered_discard (t : Template L H) (markup : String) (x : NodeId) (d : Document L)
    (e : TemplateError) : (t.discard markup x d e).state.1.isRendered = false := by
  unfold discard
  simp only
  split <;> rfl

/-- A template that is not rendered has its fragment already, or its markup is read into a new
one. -/
theorem materialize_cases (ht : t.isRendered = false) (d : Document L) :
    (∃ markup x, t.stage = .materialized markup x ∧ t.materialize d = ((t, d), .ok x)) ∨
      (∀ markup x, t.stage ≠ .materialized markup x) ∧ ∃ t₁ markup, t₁.isRendered = false ∧
        t.materialize d = ((t₁, (d.parseFragment markup).1), .ok d.nextId) := by
  cases hstage : t.stage with
  | uncompiled =>
    refine Or.inr ⟨by simp, t.drafted d, t.source, rfl, ?_⟩
    unfold materialize compile markup?
    simp only [hstage, Stage.markup?]
    rfl
  | compiled markup =>
    refine Or.inr ⟨by simp, { t with stage := .materialized markup d.nextId }, markup, rfl, ?_⟩
    unfold materialize compile markup?
    simp only [hstage, Stage.markup?]
    rfl
  | materialized markup x =>
    refine Or.inl ⟨markup, x, rfl, ?_⟩
    unfold materialize compile markup?
    simp only [hstage, Stage.markup?]
  | rendered markup tree =>
    unfold isRendered rendered? at ht
    rw [hstage] at ht
    cases ht

/-- Making the fragment of a template that is not rendered goes through. -/
theorem exists_materialize (hd : d.WellFormed) (ht : t.isRendered = false) :
    ∃ t₁ d₁ x, t.materialize d = ((t₁, d₁), .ok x) ∧ t₁.isRendered = false ∧ d₁.WellFormed := by
  rcases materialize_cases ht d with ⟨markup, x, -, hmade⟩ | ⟨-, t₁, markup, ht₁, hmade⟩
  · exact ⟨t, d, x, hmade, ht, hd⟩
  · exact ⟨t₁, _, d.nextId, hmade, ht₁, hd.parseFragment markup⟩

/-- A template whose fragment is gone is not rendered. -/
theorem isRendered_render_of_gone {t₁ : Template L H} {d₁ : Document L} (context : Context L H)
    (mount : Option NodeId) (ht : t.isRendered = false)
    (hmade : t.materialize d = ((t₁, d₁), .ok x)) (ht₁ : t₁.isRendered = false)
    (hx : d₁.contains x = false) :
    (t.render d context mount).state.1.isRendered = false := by
  unfold render
  rw [if_neg (by rw [ht]; exact Bool.false_ne_true), hmade]
  simp only
  split
  · exact isRendered_discard t₁ _ x _ _
  · have hgone : (bind context t₁ x d₁).state.2.contains x = false := by
      unfold Document.contains at hx ⊢
      rw [forest_bind]
      exact hx
    split
    · exact ht₁
    · next hnone => exact absurd hnone (stopped_attach_of_gone hgone _)

theorem ready_partsOf (hd : d.WellFormed) (hk : d.forest.below? x = some kids) :
    Part.Ready (d.partsOf kids.labels) d where
  toApart := Document.apart_partsOf hd (hd.distinct.below? hk).2 fun _ hid =>
    Document.contains_iff.2 (Forest.mem_labels_of_below? hk hid)
  proper _ hp := Part.proper_of? (hd.proper_contentAt _) (Document.node_mem_of_mem_partsOf hp).2
  contents _ _ := hd.proper_contentAt _

theorem listed_partsOf {slots : Nat}
    (hmarkers : ∀ id ∈ kids.labels, (d.contentAt id).MarkersBelow slots) :
    Part.Listed slots (.ofParts (d.partsOf kids.labels)) (d.partsOf kids.labels) := by
  refine Part.listed_ofParts fun p hp index hindex => ?_
  obtain ⟨hid, hpart⟩ := Document.node_mem_of_mem_partsOf hp
  rw [Part.indices_of? hpart] at hindex
  exact (Content.markersBelow_iff.1 (hmarkers _ hid)).2 index hindex

/-- **The first render brings everything in sync with the first values.** -/
theorem synced_render (hd : d.WellFormed) (ht : t.isRendered = false) (context : Context L H)
    (mount : Option NodeId) : Synced (t.render d context mount).state := by
  obtain ⟨t₁, d₁, x, hmade, ht₁, hd₁⟩ := exists_materialize hd ht
  cases hk : d₁.forest.below? x with
  | none =>
    have hgone : d₁.contains x = false := by
      rw [Document.contains_eq_false_iff, ← Forest.isSome_below?, hk]
      exact Bool.false_ne_true
    exact synced_of_not_rendered (isRendered_render_of_gone context mount ht hmade ht₁ hgone)
  | some kids =>
    by_cases hmarkers : ∀ id ∈ kids.labels, (d₁.contentAt id).MarkersBelow t₁.slots
    · rw [render_of_fragment context mount ht hmade hd₁ hk hmarkers]
      split
      · exact synced_of_not_rendered ht₁
      · next hstopped =>
        intro markup tree hstage
        cases hstage
        have hlisted := (listed_partsOf hmarkers).map_kept t₁.values
        obtain ⟨hready, hidle⟩ := (ready_partsOf hd₁ hk).writeAll context t₁.values
        have hnodes : ∀ q ∈ (d₁.partsOf kids.labels).map (Part.kept t₁.values),
            q.node ∈ kids.labels := by
          intro q hq
          obtain ⟨p, hp, rfl⟩ := List.mem_map.1 hq
          rw [Part.node_kept]
          exact (Document.node_mem_of_mem_partsOf hp).1
        have hbelow : (t₁.written context kids d₁).forest.below? x = some kids := by
          unfold written
          rw [Part.forest_writeAll]
          exact hk
        rcases content?_attach (wellFormed_written context t₁ hd₁ kids) hbelow hstopped with
          hgone | hsame
        · exact ⟨hlisted, Or.inl fun q hq => hgone q.node (hnodes q hq)⟩
        · have hsync : InSync t₁.slots t₁.values
              { parts := (d₁.partsOf kids.labels).map (Part.kept t₁.values)
                registry := .ofParts (d₁.partsOf kids.labels)
                mount := mount.getD context.host, context }
              (t₁.written context kids d₁) := ⟨hlisted, Or.inr ⟨hready, hidle⟩⟩
          exact hsync.of_content? fun q hq => hsame q.node (hnodes q hq)
    · obtain ⟨e, hdiscard, -⟩ := render_of_bad_marker context mount ht hmade hd₁ hk hmarkers
      rw [hdiscard]
      exact synced_of_not_rendered (isRendered_discard t₁ _ x d₁ e)

/-! ### Runs -/

/-- A call on a template, or anything else that happens to its document. -/
inductive Call (L H : Type) where
  | update (values : List (Value H))
  | updateSlots (values : List (Value H)) (changed : List Nat)
  | elsewhere (change : Document L → Document L)

/-- What a call makes of a template and its document. -/
def Call.run (s : Template L H × Document L) : Call L H → Template L H × Document L
  | update values => (s.1.update s.2 values).state
  | updateSlots values changed => (s.1.updateSlots s.2 values changed).state
  | elsewhere change => (s.1, change s.2)

/-- The call with a full update in place of a sparse one. -/
def Call.full : Call L H → Call L H
  | updateSlots values _ => update values
  | update values => update values
  | elsewhere change => elsewhere change

/-- A sparse update lists every slot whose value differs from the one before, and nothing else
writes or removes the nodes of the parts. -/
def Call.Allowed [BEq H] (s : Template L H × Document L) : Call L H → Prop
  | update _ => True
  | updateSlots values changed =>
    ∀ slot < s.1.slots, (values[slot]? == s.1.values[slot]?) = false → slot ∈ changed
  | elsewhere change => ∀ p ∈ s.1.parts, (change s.2).content? p.node = s.2.content? p.node

/-- Calls one after the other. -/
def run (s : Template L H × Document L) (calls : List (Call L H)) : Template L H × Document L :=
  calls.foldl Call.run s

/-- Every call is allowed when it is its turn. -/
def AllAllowed [BEq H] : Template L H × Document L → List (Call L H) → Prop
  | _, [] => True
  | s, call :: rest => call.Allowed s ∧ AllAllowed (call.run s) rest

/-- One call: sparse or full comes to the same, and leaves everything in sync. -/
theorem Synced.step [BEq H] {s : Template L H × Document L} (h : Synced s) {call : Call L H}
    (hcall : call.Allowed s) : call.full.run s = call.run s ∧ Synced (call.run s) := by
  cases call with
  | update values => exact ⟨rfl, h.update values⟩
  | updateSlots values changed =>
    have hsame := state_updateSlots h values hcall
    refine ⟨hsame.symm, ?_⟩
    show Synced (s.1.updateSlots s.2 values changed).state
    rw [hsame]
    exact h.update values
  | elsewhere change => exact ⟨rfl, h.of_content? hcall⟩

theorem Synced.run_map_full [BEq H] {s : Template L H × Document L} (h : Synced s)
    {calls : List (Call L H)} (hcalls : AllAllowed s calls) :
    run s (calls.map Call.full) = run s calls := by
  induction calls generalizing s with
  | nil => rfl
  | cons call rest ih =>
    obtain ⟨hcall, hrest⟩ := hcalls
    obtain ⟨hsame, hsynced⟩ := h.step hcall
    show run (call.full.run s) (rest.map Call.full) = run (call.run s) rest
    rw [hsame]
    exact ih hsynced hrest

/-- **Sparse updates that list what changed are full updates.**  After one render, whatever
came of it, and any calls, the template and the document are what they would be if every
sparse update had been a full one. -/
theorem run_render_map_full [BEq H] {d : Document L} (hd : d.Reachable) {t : Template L H}
    (ht : t.isRendered = false) (context : Context L H) (mount : Option NodeId)
    {calls : List (Call L H)} (hcalls : AllAllowed (t.render d context mount).state calls) :
    run (t.render d context mount).state (calls.map Call.full) =
      run (t.render d context mount).state calls :=
  (synced_render hd.wellFormed ht context mount).run_map_full hcalls

/-- The greeting gets another name and then loses it, each time only the name. -/
def sampleCalls : List (Call Nat Nat) :=
  [.updateSlots [.handler 7, .text "Bob"] [1], .updateSlots [.handler 7] [3, 1]]

theorem run_render_map_full_sampleCalls :
    run (sampleGreeting.render samplePage ⟨⟨0⟩, id⟩ none).state
        [.update [.handler 7, .text "Bob"], .update [.handler 7]] =
      run (sampleGreeting.render samplePage ⟨⟨0⟩, id⟩ none).state sampleCalls := by
  have hcalls : AllAllowed (sampleGreeting.render samplePage ⟨⟨0⟩, id⟩ none).state sampleCalls := by
    refine ⟨?_, ?_, trivial⟩
    · show ∀ slot < _, _
      decide +kernel
    · show ∀ slot < _, _
      decide +kernel
  exact run_render_map_full reachable_samplePage rfl ⟨⟨0⟩, id⟩ none hcalls

end Template

end LiveMarkup
