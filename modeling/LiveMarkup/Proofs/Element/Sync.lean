/-
Hosts in step with their attributes.

A component whose template is always the same strings, with values that are read from
bound attributes or never change, needs no memory: what it shows is a function of the
attributes of its host.  Setting an attribute only updates the tree, so the tree has to be
shown to be what connecting another host with these attributes would make, and it is the
tree that was there from the start, node by node (`set_eq_connect`).

Values of attributes are never handlers and never `undefined`.  Hence the places of both are
the same in every rendering, which is what makes updating as good as rendering
(`Source.readAll_places`).  The host itself is no node of its tree, so writing its attributes
leaves the tree alone, and updating the tree leaves the attributes alone.

Where a set is called from does not matter, be it from a listener in the middle of a
dispatch; what others do in the meantime is in the run too.
-/
import LiveMarkup.Element.Host
import LiveMarkup.Proofs.Template.Updating
import LiveMarkup.Session.Widget

namespace LiveMarkup

variable {L H σ : Type}

/-! ### Where values come from -/

/-- Where the value of a slot comes from. -/
inductive Source (H : Type) where
  /-- From a bound attribute of the host. -/
  | bound (name : String)
  /-- From nowhere: it is always this one. -/
  | constant (v : Value H)

namespace Source

variable {c : Component L H σ} {h h' : Host L H} {d d' : Document L}

/-- The value for what the host shows. -/
def read (c : Component L H σ) (h : Host L H) (d : Document L) :
    Source H → Except ElementError (Value H)
  | bound name => h.get c d name
  | constant v => .ok v

theorem read_bound (c : Component L H σ) (h : Host L H) (d : Document L) (name : String) :
    (bound name).read c h d =
      (c.boundNamed name).map fun b => b.coercion.apply (d.attribute? h.node name) := rfl

/-- The values for what the host shows, up to the first that cannot be read. -/
def readAll (c : Component L H σ) (h : Host L H) (d : Document L) :
    List (Source H) → Except ElementError (List (Value H))
  | [] => .ok []
  | source :: rest => (source.read c h d).bind fun v => (readAll c h d rest).map (v :: ·)

/-- Whether the source gives `undefined`. -/
def isUndefined : Source H → Bool
  | bound _ => false
  | constant v => v.isUndefined

/-- Whether the source gives a handler. -/
def isCallable : Source H → Bool
  | bound _ => false
  | constant v => v.isCallable

theorem isUndefined_apply (k : Coercion) (raw : Option String) :
    (k.apply raw : Value H).isUndefined = false := by
  cases k <;> cases raw <;> try rfl
  unfold Coercion.apply Coercion.readNumber
  simp only
  split
  · rfl
  · split <;> rfl

theorem isCallable_apply (k : Coercion) (raw : Option String) :
    (k.apply raw : Value H).isCallable = false := by
  cases k <;> cases raw <;> try rfl
  unfold Coercion.apply Coercion.readNumber
  simp only
  split
  · rfl
  · split <;> rfl

theorem read_places {source : Source H} {v : Value H} (hread : source.read c h d = .ok v) :
    v.isUndefined = source.isUndefined ∧ v.isCallable = source.isCallable := by
  cases source with
  | constant v' =>
    obtain rfl : v' = v := Except.ok.inj hread
    exact ⟨rfl, rfl⟩
  | bound name =>
    rw [read_bound] at hread
    cases hbound : c.boundNamed name with
    | error e => rw [hbound] at hread; cases hread
    | ok b =>
      rw [hbound] at hread
      cases hread
      exact ⟨isUndefined_apply _ _, isCallable_apply _ _⟩

/-- **Handlers and `undefined` are always in the same places.** -/
theorem readAll_places {sources : List (Source H)} {values : List (Value H)}
    (hread : readAll c h d sources = .ok values) :
    values.map Value.isUndefined = sources.map isUndefined ∧
      values.map Value.isCallable = sources.map isCallable := by
  induction sources generalizing values with
  | nil =>
    obtain rfl : [] = values := Except.ok.inj hread
    exact ⟨rfl, rfl⟩
  | cons source rest ih =>
    unfold readAll at hread
    cases hfirst : source.read c h d with
    | error e => rw [hfirst] at hread; cases hread
    | ok v =>
      cases hrest : readAll c h d rest with
      | error e => rw [hfirst, hrest] at hread; cases hread
      | ok others =>
        rw [hfirst, hrest] at hread
        cases hread
        obtain ⟨hundefined, hcallable⟩ := ih hrest
        obtain ⟨hv, hv'⟩ := read_places hfirst
        exact ⟨congrArg₂ List.cons hv hundefined, congrArg₂ List.cons hv' hcallable⟩

theorem holdsHandler_eq (values : List (Value H)) (slot : Nat) :
    holdsHandler values slot = (values.map Value.isCallable)[slot]?.getD false := by
  unfold holdsHandler
  rw [List.getElem?_map]
  cases values[slot]? <;> rfl

/-- Two hosts with the same bound attributes give the same values. -/
theorem readAll_congr
    (hsame : ∀ name ∈ c.observed, d'.attribute? h'.node name = d.attribute? h.node name)
    (sources : List (Source H)) : readAll c h' d' sources = readAll c h d sources := by
  induction sources with
  | nil => rfl
  | cons source rest ih =>
    have hread : source.read c h' d' = source.read c h d := by
      cases source with
      | constant v => rfl
      | bound name =>
        rw [read_bound, read_bound]
        cases hbound : c.boundNamed name with
        | error e => rfl
        | ok b =>
          have hname : name ∈ c.observed := by
            unfold Component.boundNamed at hbound
            split at hbound
            · next b' hfound =>
              refine List.mem_map.2 ⟨b', List.mem_of_find?_eq_some hfound, ?_⟩
              simpa using List.find?_some hfound
            · cases hbound
          rw [hsame name hname]
    unfold readAll
    rw [hread, ih]

/-- Reading does not depend on what the host is busy with. -/
theorem readAll_inUse (c : Component L H σ) (h : Host L H) (d : Document L)
    (sources : List (Source H)) :
    readAll c { h with attachment := .inUse } d sources = readAll c h d sources := by
  refine readAll_congr ?_ sources
  exact fun _ _ => rfl

end Source

/-- Whenever the component renders, it makes a template of these strings, with a value from
each source. -/
def Component.Declares (c : Component L H σ) (strings : List String)
    (sources : List (Source H)) : Prop :=
  ∀ h d s, (c.render h d s).1 = (Source.readAll c h d sources).map (Template.ofStrings strings)

namespace Host

variable {c : Component L H σ} {h : Host L H} {b d d' : Document L} {kids : Forest NodeId}
  {first : List (Value H)} {strings : List String} {sources : List (Source H)}

/-! ### One set -/

/-- A write that went through has changed the host and nothing else. -/
theorem untouched_of_write {name : String} {v : Value H} (hwrite : h.write c d name v = .ok d') :
    d'.forest = d.forest ∧ ∀ id, id ≠ h.node → d'.content? id = d.content? id := by
  unfold Host.write at hwrite
  cases hbound : c.boundNamed name with
  | error e => rw [hbound] at hwrite; cases hwrite
  | ok b =>
    rw [hbound] at hwrite
    obtain ⟨change, hchange⟩ : ∃ change, (d.modifyElement h.node change).mapError
        ElementError.document = .ok d' := by
      simp only [Except.bind] at hwrite
      split at hwrite
      · exact ⟨_, hwrite⟩
      · exact ⟨_, hwrite⟩
    unfold Document.modifyElement at hchange
    cases helement : d.element h.node with
    | error e => rw [helement] at hchange; cases hchange
    | ok e =>
      rw [helement] at hchange
      cases hchange
      exact ⟨rfl, fun id hid => Document.content?_modifyRecord_ne hid _⟩

/-- What a set that went through on a connected host has done. -/
theorem exists_of_set (hc : c.Declares strings sources) {t : Template L H}
    (hattached : h.attachment = .connected t) {s : σ} {name : String} {v : Value H}
    {s' : Host L H × Document L × σ} (hset : h.set c d s name v = .done s') :
    ∃ d₁ values t', h.write c d name v = .ok d₁ ∧
      Source.readAll c h d₁ sources = .ok values ∧
      t.update d₁ values = .done (t', s'.2.1) ∧
      s'.1 = { h with attachment := .connected t' } := by
  unfold Host.set at hset
  cases hwrite : h.write c d name v with
  | error e =>
    rw [hwrite] at hset
    exact absurd (congrArg Attempt.stopped hset) nofun
  | ok d₁ =>
    rw [hwrite, hattached] at hset
    simp only [refresh] at hset
    have hrender := hc { h with attachment := .inUse } d₁ s
    rw [Source.readAll_inUse] at hrender
    cases hvalues : Source.readAll c h d₁ sources with
    | error e =>
      rw [hvalues] at hrender
      split at hset
      · exact absurd (congrArg Attempt.stopped hset) nofun
      · next fresh _ hfresh =>
        rw [hfresh] at hrender
        cases hrender
    | ok values =>
      rw [hvalues] at hrender
      split at hset
      · next hfresh =>
        rw [hfresh] at hrender
        cases hrender
      · next fresh _ hfresh =>
        rw [hfresh] at hrender
        obtain rfl : fresh = Template.ofStrings strings values := Except.ok.inj hrender
        have hstopped : (t.update d₁ values).stopped = none := by
          have hnone := congrArg Attempt.stopped hset
          exact Option.map_eq_none_iff.1 hnone
        have hstate := congrArg Attempt.state hset
        refine ⟨d₁, values, (t.update d₁ values).state.1, rfl, hvalues, ?_, ?_⟩
        · rw [← show _ = s' from hstate]
          exact Attempt.eq_done hstopped
        · rw [← show _ = s' from hstate]
          rfl

/-- What every set keeps: the tree shows what the attributes say, and it is the tree of the
first rendering. -/
structure InStep (c : Component L H σ) (sources : List (Source H)) (b : Document L)
    (kids : Forest NodeId) (first : List (Value H)) (node : NodeId)
    (s : Host L H × Document L × σ) : Prop where
  node : s.1.node = node
  rendered : ∃ t, s.1.attachment = .connected t ∧
    Template.Current b kids first (t, s.2.1) ∧
    Source.readAll c s.1 s.2.1 sources = .ok t.values

/-- Updating writes to nodes of the tree only. -/
theorem record?_writeAll_partsAfter (context : Context L H) (values : List (Value H))
    {id : NodeId} (hid : id ∉ kids.labels) :
    (Part.writeAll context values (b.partsAfter kids first) d).record? id = d.record? id := by
  refine Part.record?_writeAll_of_not_mem context values fun q hq hnode => ?_
  obtain ⟨p, hp, rfl⟩ := Document.mem_partsAfter hq
  rw [Part.node_kept] at hnode
  exact hid (hnode ▸ (Document.node_mem_of_mem_partsOf hp).1)

/-- **One set keeps them in step.** -/
theorem InStep.set (hc : c.Declares strings sources) (hb : b.WellFormed) (hkids : kids.Distinct)
    {node : NodeId} (hnode : node ∉ kids.labels) {slots : Nat}
    (hbelow : ∀ id ∈ kids.labels, (b.contentAt id).MarkersBelow slots)
    (hfirst : first.map Value.isCallable = sources.map Source.isCallable) {s : σ}
    (hstep : InStep c sources b kids first node (h, d, s)) {name : String} {v : Value H}
    {s' : Host L H × Document L × σ} (hset : h.set c d s name v = .done s') :
    InStep c sources b kids first node s' := by
  obtain ⟨hhost, t, hattached, ⟨hrendered, hshows⟩, -⟩ := hstep
  have hhost : h.node = node := hhost
  obtain ⟨d₁, values, t', hwrite, hread, hupdate, hs'⟩ := exists_of_set hc hattached hset
  obtain ⟨hforest, hcontent⟩ := untouched_of_write hwrite
  have hwritten : Template.Current b kids first (t, d₁) := by
    refine ⟨hrendered, fun id hid => ?_, fun r hr => ?_⟩
    · have hne : id ≠ h.node := by
        rintro rfl
        exact hnode (hhost ▸ hid)
      exact (hcontent id hne).trans (hshows.content id hid)
    · show d₁.forest.below? r = _
      rw [hforest]
      exact hshows.below r hr
  have hhandlers : ∀ slot < slots, holdsHandler values slot = true →
      holdsHandler first slot = true := by
    intro slot _ hslot
    rw [Source.holdsHandler_eq, (Source.readAll_places hread).2] at hslot
    rw [Source.holdsHandler_eq, hfirst]
    exact hslot
  obtain ⟨t'', context, hdone, hvalues, hcurrent⟩ :=
    hwritten.exists_update hb hkids hbelow hhandlers
  have hstate : (t', s'.2.1) =
      (t'', Part.writeAll context values (b.partsAfter kids first) d₁) :=
    congrArg Attempt.state (hupdate.symm.trans hdone)
  obtain ⟨rfl, hd'⟩ := Prod.mk.inj hstate
  have hsame : s'.2.1.record? h.node = d₁.record? h.node := by
    have houtside : h.node ∉ kids.labels := hhost ▸ hnode
    rw [hd']
    exact record?_writeAll_partsAfter context values houtside
  refine ⟨by rw [hs']; exact hhost, t', by rw [hs'], ?_, ?_⟩
  · rw [hd']
    exact hcurrent
  · rw [hvalues, ← hread, hs']
    refine Source.readAll_congr (fun name _ => ?_) sources
    unfold Document.attribute? Document.element? Document.content?
    rw [hsame]

/-! ### Connecting -/

/-- What connecting does when it goes through. -/
theorem exists_of_connect (hc : c.Declares strings sources) {s : σ}
    {s' : Host L H × Document L × σ} (hconnect : h.connect c d s = .done s') :
    ∃ values t, Source.readAll c h d sources = .ok values ∧
      (Template.ofStrings strings values).render d h.context none = .done (t, s'.2.1) ∧
      s'.1 = { h with attachment := .connected t } := by
  unfold Host.connect at hconnect
  have hrender := hc { h with attachment := .inUse } d s
  rw [Source.readAll_inUse] at hrender
  split at hconnect
  · exact absurd (congrArg Attempt.stopped hconnect) nofun
  · exact absurd (congrArg Attempt.stopped hconnect) nofun
  · split at hconnect
    · exact absurd (congrArg Attempt.stopped hconnect) nofun
    · next t _ hbuilt =>
      rw [hbuilt] at hrender
      cases hvalues : Source.readAll c h d sources with
      | error e => rw [hvalues] at hrender; cases hrender
      | ok values =>
        rw [hvalues] at hrender
        obtain rfl : t = Template.ofStrings strings values := Except.ok.inj hrender
        simp only at hconnect
        split at hconnect
        · exact absurd (congrArg Attempt.stopped hconnect) nofun
        · next hstopped =>
          have hstate := congrArg Attempt.state hconnect
          refine ⟨values, ((Template.ofStrings strings values).render d h.context none).state.1,
            rfl, ?_, ?_⟩
          · rw [← show _ = s' from hstate]
            exact Attempt.eq_done hstopped
          · rw [← show _ = s' from hstate]
            rfl

/-- Connecting goes through if the template can be rendered. -/
theorem connect_of_render (hc : c.Declares strings sources) (hfresh : h.attachment = .unconnected)
    {values : List (Value H)} (hread : Source.readAll c h d sources = .ok values)
    {s' : Template L H × Document L}
    (hrender : (Template.ofStrings strings values).render d h.context none = .done s') (s : σ) :
    ∃ p, h.connect c d s = .done ({ h with attachment := .connected s'.1 }, s'.2, p) := by
  have hbuild := hc { h with attachment := .inUse } d s
  rw [Source.readAll_inUse, hread] at hbuild
  unfold Host.connect
  rw [hfresh]
  generalize c.render { h with attachment := .inUse } d s = built at hbuild ⊢
  obtain ⟨result, p⟩ := built
  obtain rfl : result = _ := hbuild
  refine ⟨p, ?_⟩
  simp only [Except.map, hrender, Attempt.stopped_done, Attempt.state_done]

/-! ### A whole run -/

/-- Sets on a host that went through, with anything else going on in between that neither
writes the attributes of the host nor touches the trees at `roots`. -/
inductive SetRun (c : Component L H σ) (roots : List NodeId) (s : Host L H × Document L × σ) :
    Host L H × Document L × σ → Prop
  | refl : SetRun c roots s s
  | set {h : Host L H} {d : Document L} {p : σ} (hrun : SetRun c roots s (h, d, p))
      (name : String) (v : Value H) {s' : Host L H × Document L × σ}
      (hset : h.set c d p name v = .done s') : SetRun c roots s s'
  | elsewhere {h : Host L H} {d d' : Document L} {p : σ} (hrun : SetRun c roots s (h, d, p))
      (huntouched : d.Untouched roots d')
      (hattributes : ∀ name, d'.attribute? h.node name = d.attribute? h.node name) (p' : σ) :
      SetRun c roots s (h, d', p')

theorem InStep.run (hc : c.Declares strings sources) (hb : b.WellFormed) (hkids : kids.Distinct)
    {node : NodeId} (hnode : node ∉ kids.labels) {slots : Nat}
    (hbelow : ∀ id ∈ kids.labels, (b.contentAt id).MarkersBelow slots)
    (hfirst : first.map Value.isCallable = sources.map Source.isCallable)
    {s s' : Host L H × Document L × σ} (hstep : InStep c sources b kids first node s)
    (hrun : SetRun c kids.roots s s') : InStep c sources b kids first node s' := by
  induction hrun with
  | refl => exact hstep
  | set _ name v hset ih => exact ih.set hc hb hkids hnode hbelow hfirst hset
  | elsewhere _ huntouched hattributes p' ih =>
    obtain ⟨hhost, t, hattached, ⟨hrendered, hshows⟩, hread⟩ := ih
    refine ⟨hhost, t, hattached, ⟨hrendered, hshows.untouched hkids huntouched⟩, ?_⟩
    rw [← hread]
    exact Source.readAll_congr (fun name _ => hattributes name) sources

/-- A host that was just connected is in step. -/
theorem inStep_connect (hc : c.Declares strings sources) (hd : d.WellFormed)
    (hlive : d.contains (d.mountPoint h.node) = true) {s : σ} {s₁ : Host L H × Document L × σ}
    (hconnect : h.connect c d s = .done s₁) {roots : List NodeId}
    (hroots : s₁.2.1.children (d.mountPoint h.node) = d.children (d.mountPoint h.node) ++ roots) :
    ∃ values : List (Value H),
      values.map Value.isUndefined = sources.map Source.isUndefined ∧
      values.map Value.isCallable = sources.map Source.isCallable ∧
      (∀ content ∈ (Markup.parse (Template.annotate strings values)).labels,
        content.MarkersBelow values.length) ∧
      roots = (d.parsed (Template.annotate strings values)).roots ∧
      InStep c sources (d.parseFragment (Template.annotate strings values)).1
        (d.parsed (Template.annotate strings values)) values h.node s₁ := by
  obtain ⟨values, t₁, hread, hrender, hhost⟩ := exists_of_connect hc hconnect
  have hunmade := Template.unmade_ofStrings (L := L) strings values
  have hpoint : d.contains (d.mountPoint ((none : Option NodeId).getD h.context.host)) = true :=
    hlive
  obtain ⟨hmarkers, htree, hcurrent, -⟩ :=
    Template.current_of_updated hd hunmade hpoint hrender hroots .refl
  obtain ⟨-, hdone⟩ := Template.render_of_unmade_eq_done hd hunmade hpoint hrender
  obtain ⟨ht₁, hd₁⟩ := Prod.mk.inj hdone
  obtain ⟨hundefined, hcallable⟩ := Source.readAll_places hread
  refine ⟨values, hundefined, hcallable, hmarkers, htree, by rw [hhost], t₁, by rw [hhost],
    hcurrent, ?_⟩
  -- The host was there before, so its attributes are as they were.
  have hkept : s₁.2.1.record? h.node = d.record? h.node := by
    rw [hd₁]
    exact (Template.gains_delivered h.context _ hd (Document.contains_iff.1 hlive)).kept _
      (Document.contains_of_mountPoint hlive)
  rw [ht₁]
  refine (Source.readAll_congr (fun name _ => ?_) sources).trans hread
  unfold Document.attribute? Document.element? Document.content?
  rw [hhost, hkept]

/-- A host in step shows what connecting a fresh one makes. -/
theorem InStep.exists_connect (hc : c.Declares strings sources) (hd : d.WellFormed)
    {values : List (Value H)} (hundefined : values.map Value.isUndefined =
      sources.map Source.isUndefined)
    (hcallable : values.map Value.isCallable = sources.map Source.isCallable)
    (hmarkers : ∀ content ∈ (Markup.parse (Template.annotate strings values)).labels,
      content.MarkersBelow values.length)
    {node : NodeId} {sₙ : Host L H × Document L × σ}
    (hstep : InStep c sources (d.parseFragment (Template.annotate strings values)).1
      (d.parsed (Template.annotate strings values)) values node sₙ)
    (hd' : d'.WellFormed) {h' : Host L H} (hfresh : h'.attachment = .unconnected)
    (hsame : ∀ name ∈ c.observed, d'.attribute? h'.node name = sₙ.2.1.attribute? sₙ.1.node name)
    {content : Content} (htarget : d'.content? (d'.mountPoint h'.node) = some content)
    (hcontent : content.isContainer = true) (s' : σ) :
    ∃ (h'' : Host L H) (d'' : Document L) (s'' : σ) (new : List NodeId),
      h'.connect c d' s' = .done (h'', d'', s'') ∧
      d''.children (d'.mountPoint h'.node) = d'.children (d'.mountPoint h'.node) ++ new ∧
      (d.parsed (Template.annotate strings values)).roots.map sₙ.2.1.outline? =
        new.map d''.outline? := by
  obtain ⟨-, tₙ, -, hcurrent, hread⟩ := hstep
  obtain ⟨hundefinedₙ, hcallableₙ⟩ := Source.readAll_places hread
  have hread' : Source.readAll c h' d' sources = .ok tₙ.values :=
    (Source.readAll_congr hsame sources).trans hread
  have hplaces := hundefinedₙ.trans hundefined.symm
  -- The markup is the same, since `undefined` is where it was.
  have hmarkup : Template.annotate strings tₙ.values = Template.annotate strings values :=
    Template.annotateFrom_congr hplaces 0 strings
  have hlength : tₙ.values.length = values.length := by
    have hlengths := congrArg List.length hplaces
    rwa [List.length_map, List.length_map] at hlengths
  have hmarkers' : ∀ content ∈ (Markup.parse (Template.annotate strings tₙ.values)).labels,
      content.MarkersBelow tₙ.values.length := by
    rw [hmarkup, hlength]
    exact hmarkers
  have hlive := Document.contains_iff.1 (Document.contains_of_content? htarget)
  have hrender := Template.render_of_unmade hd' (Template.unmade_ofStrings strings tₙ.values)
    h'.context none hmarkers' htarget hcontent
  obtain ⟨p, hconnect⟩ := connect_of_render hc hfresh hread' hrender s'
  have hgains := Template.gains_delivered h'.context
    (Template.ofStrings strings tₙ.values) hd' hlive
  have hcurrent' := Template.current_settled hd'
    (Template.ofStrings strings tₙ.values) h'.context h'.node hlive
  refine ⟨_, _, p, _, hconnect,
    hgains.children_target hd' (Document.contains_of_content? htarget), ?_⟩
  have hshown : (Markup.parse (Template.annotate strings values)).map
        (Content.rendered values tₙ.values) =
      (Markup.parse (Template.annotate strings tₙ.values)).map
        (Content.rendered tₙ.values tₙ.values) := by
    rw [hmarkup]
    refine Forest.map_congr fun _ _ => Content.rendered_congr (fun slot _ => ?_)
      ⟨fun _ _ => rfl, fun _ _ => rfl⟩
    rw [Source.holdsHandler_eq, Source.holdsHandler_eq, hcallable, hcallableₙ]
  have hlast := hcurrent.outlines hd
  rw [hshown] at hlast
  exact hlast.trans (hcurrent'.outlines hd').symm

/-- **A connected host stays in step with its attributes.**  After connecting and any sets that
went through, the trees that were rendered have the same nodes in the same places as at
first.  They show what connecting any other host with the same bound attributes makes, which
goes through below any node that takes children. -/
theorem set_eq_connect {c : Component L H σ} {strings : List String} {sources : List (Source H)}
    (hc : c.Declares strings sources) {d : Document L} (hd : d.Reachable) {h : Host L H} {s : σ}
    (hlive : d.contains (d.mountPoint h.node) = true) {s₁ : Host L H × Document L × σ}
    (hconnect : h.connect c d s = .done s₁) {roots : List NodeId}
    (hroots : s₁.2.1.children (d.mountPoint h.node) = d.children (d.mountPoint h.node) ++ roots)
    {sₙ : Host L H × Document L × σ} (hrun : SetRun c roots s₁ sₙ) :
    roots.map sₙ.2.1.subtree? = roots.map s₁.2.1.subtree? ∧
    ∀ {d' : Document L}, d'.Reachable → ∀ (h' : Host L H) (s' : σ) {content : Content},
      h'.attachment = .unconnected →
      (∀ name ∈ c.observed, d'.attribute? h'.node name = sₙ.2.1.attribute? sₙ.1.node name) →
      d'.content? (d'.mountPoint h'.node) = some content → content.isContainer = true →
      ∃ (h'' : Host L H) (d'' : Document L) (s'' : σ) (new : List NodeId),
        h'.connect c d' s' = .done (h'', d'', s'') ∧
        d''.children (d'.mountPoint h'.node) = d'.children (d'.mountPoint h'.node) ++ new ∧
        roots.map sₙ.2.1.outline? = new.map d''.outline? := by
  have hwf := hd.wellFormed
  obtain ⟨values, hundefined, hcallable, hmarkers, rfl, hfirst⟩ :=
    inStep_connect hc hwf hlive hconnect hroots
  have houtside : h.node ∉ (d.parsed (Template.annotate strings values)).labels := by
    intro hmem
    have hnode := Document.contains_of_mountPoint hlive
    rw [Document.contains_of_mem_parsed hwf hmem] at hnode
    cases hnode
  have hbelow := Template.markersBelow_parsed (t := Template.ofStrings strings values) hmarkers d
  have hlast := hfirst.run hc (hwf.parseFragment _) (Document.distinct_parsed hwf _) houtside
    hbelow hcallable hrun
  refine ⟨List.map_congr_left fun r hr => ?_, ?_⟩
  · obtain ⟨-, t₁, -, hcurrent₁, -⟩ := hfirst
    obtain ⟨-, tₙ, -, hcurrentₙ, -⟩ := hlast
    unfold Document.subtree?
    rw [hcurrentₙ.shows.below r hr, hcurrent₁.shows.below r hr]
  · intro d' hd' h' s' content hfresh hsame htarget hcontent
    exact hlast.exists_connect hc hwf hundefined hcallable hmarkers hd'.wellFormed hfresh hsame
      htarget hcontent s'

end Host

/-! ### Widgets

The components of a session make their values by recipes.  Those that only read attributes
and give fixed values are of this kind, whatever handlers they mention on the way.
-/

namespace Session

/-- The source that a recipe is, if it is one. -/
def Recipe.source? : Recipe → Option (Source String)
  | bound name => some (.bound name)
  | value v => some (.constant (v.mention []).2)
  | connected | renders | reenter _ _ => none

theorem SlotValue.snd_mention (table : HandlerTable) (v : SlotValue) :
    (v.mention table).2 = (v.mention []).2 := by
  cases v <;> rfl

/-- Recipes that are sources make what the sources give. -/
theorem fst_makeAll (c : Component Listener String Progress) (hc : c.bound = unrendered.bound)
    (h : Host Listener String) (d : Document Listener) (progress : Progress)
    (recipes : List Recipe) (sources : List (Source String))
    (hsources : recipes.map Recipe.source? = sources.map some) :
    (makeAll h d progress recipes).1 = Source.readAll c h d sources := by
  have hget : ∀ name, h.get c d name = h.get unrendered d name := by
    intro name
    unfold Host.get Component.boundNamed
    rw [hc]
  induction recipes generalizing progress sources with
  | nil =>
    obtain rfl : sources = [] := by
      rwa [List.map_nil, eq_comm, List.map_eq_nil_iff] at hsources
    rfl
  | cons recipe rest ih =>
    cases sources with
    | nil => cases hsources
    | cons source others =>
      rw [List.map_cons, List.map_cons, List.cons.injEq] at hsources
      obtain ⟨hsource, hrest⟩ := hsources
      have hmake : (recipe.make h d progress).map Prod.snd = source.read c h d := by
        cases recipe with
        | bound name =>
          obtain rfl : Source.bound name = source := Option.some.inj hsource
          show Except.map Prod.snd ((h.get unrendered d name).map _) = h.get c d name
          rw [hget]
          cases h.get unrendered d name <;> rfl
        | value v =>
          obtain rfl : Source.constant (v.mention []).2 = source := Option.some.inj hsource
          exact congrArg Except.ok (v.snd_mention progress.handlers)
        | connected | renders | reenter => cases hsource
      unfold makeAll Source.readAll
      rw [← hmake]
      cases recipe.make h d progress with
      | error e => rfl
      | ok made =>
        obtain ⟨handlers, v⟩ := made
        simp only [ih _ others hrest]
        rfl

/-- **A widget with such recipes declares what it renders.** -/
theorem Widget.declares (w : Widget) (hlater : w.later = none)
    {sources : List (Source String)} (hsources : w.recipes.map Recipe.source? = sources.map some) :
    w.component.Declares w.strings sources := by
  intro h d progress
  have hrecipes : (if progress.renders + 1 = 1 then w.recipes else w.later.getD w.recipes) =
      w.recipes := by
    rw [hlater]
    exact ite_self _
  have hmade := fst_makeAll w.component rfl h d { progress with renders := progress.renders + 1 }
    w.recipes sources hsources
  show Except.map _ (makeAll h d { progress with renders := progress.renders + 1 }
    (if progress.renders + 1 = 1 then w.recipes else w.later.getD w.recipes)).1 = _
  rw [hrecipes, hmade]

/-- A counter that can be open. -/
def sampleCounter : Widget where
  strings := ["<span data-open=\"", "\">", "</span>"]
  recipes := [.bound "open", .bound "count"]
  later := none

/-- The host of a counter on a page of its own. -/
def sampleHost : Host Listener String × Document Listener :=
  Host.create sampleCounter.component (Listener.bound (.host 0)) {}

theorem reachable_sampleHost : sampleHost.2.Reachable :=
  .create .empty ⟨OrderedMap.distinct_empty, OrderedMap.distinct_empty⟩

/-- The same page with attributes written on the host before it is connected. -/
def sampleWritten : Document Listener :=
  let d := (sampleHost.2.setAttribute ⟨0⟩ "open" "true").toOption.getD sampleHost.2
  (d.setAttribute ⟨0⟩ "count" "2").toOption.getD d

theorem reachable_sampleWritten : sampleWritten.Reachable := by
  have hwrite : ∀ {d : Document Listener} {name value : String}, d.Reachable →
      ((d.setAttribute ⟨0⟩ name value).toOption.getD d).Reachable := by
    intro d name value hd
    cases hset : d.setAttribute ⟨0⟩ name value with
    | error e => exact hd
    | ok d' => exact hd.setAttribute hset
  exact hwrite (hwrite reachable_sampleHost)

/-- The counter is connected. -/
def sampleConnected : Host Listener String × Document Listener × Progress :=
  (sampleHost.1.connect sampleCounter.component sampleHost.2 {}).state

/-- It counts to two. -/
def sampleCounted : Host Listener String × Document Listener × Progress :=
  (sampleConnected.1.set sampleCounter.component sampleConnected.2.1 sampleConnected.2.2
    "count" (.int 2)).state

/-- It is opened. -/
def sampleOpened : Host Listener String × Document Listener × Progress :=
  (sampleCounted.1.set sampleCounter.component sampleCounted.2.1 sampleCounted.2.2
    "open" (.bool true)).state

end Session

/-- The open counter has the nodes it had, and shows what a counter that is connected with these
attributes shows. -/
theorem Host.set_eq_connect_sampleOpened :
    Session.sampleOpened.2.1.subtree? ⟨2⟩ = Session.sampleConnected.2.1.subtree? ⟨2⟩ ∧
    ∃ h'' d'' s'' new,
      Session.sampleHost.1.connect Session.sampleCounter.component Session.sampleWritten {} =
        .done (h'', d'', s'') ∧
      d''.children ⟨0⟩ = new ∧
      [⟨2⟩].map Session.sampleOpened.2.1.outline? = new.map d''.outline? := by
  have hdeclares : Session.sampleCounter.component.Declares Session.sampleCounter.strings
      [.bound "open", .bound "count"] := Session.Widget.declares _ rfl rfl
  have hconnect : Session.sampleHost.1.connect Session.sampleCounter.component
      Session.sampleHost.2 {} = .done Session.sampleConnected :=
    Attempt.eq_done (by decide +kernel)
  have hroots : Session.sampleConnected.2.1.children
      (Session.sampleHost.2.mountPoint Session.sampleHost.1.node) =
        Session.sampleHost.2.children
          (Session.sampleHost.2.mountPoint Session.sampleHost.1.node) ++ [⟨2⟩] := by
    decide +kernel
  have hcounted := Attempt.eq_done (a := Session.sampleConnected.1.set
    Session.sampleCounter.component Session.sampleConnected.2.1 Session.sampleConnected.2.2
      "count" (.int 2)) (by decide +kernel)
  have hopened := Attempt.eq_done (a := Session.sampleCounted.1.set
    Session.sampleCounter.component Session.sampleCounted.2.1 Session.sampleCounted.2.2
      "open" (.bool true)) (by decide +kernel)
  have hrun : SetRun Session.sampleCounter.component [⟨2⟩] Session.sampleConnected
      Session.sampleOpened :=
    (SetRun.refl.set "count" (.int 2) hcounted).set "open" (.bool true) hopened
  obtain ⟨hnodes, hfresh⟩ := set_eq_connect hdeclares Session.reachable_sampleHost
    (by decide +kernel) hconnect hroots hrun
  have hsame : ∀ name ∈ Session.sampleCounter.component.observed,
      Session.sampleWritten.attribute? Session.sampleHost.1.node name =
        Session.sampleOpened.2.1.attribute? Session.sampleOpened.1.node name := by
    decide +kernel
  obtain ⟨content, htarget⟩ := Option.isSome_iff_exists.1
    (show (Session.sampleWritten.content?
      (Session.sampleWritten.mountPoint Session.sampleHost.1.node)).isSome = true by
        decide +kernel)
  have hcontent : content.isContainer = true := by
    have hall : (Session.sampleWritten.content?
        (Session.sampleWritten.mountPoint Session.sampleHost.1.node)).all
          Content.isContainer = true := by decide +kernel
    rw [htarget] at hall
    exact hall
  obtain ⟨h'', d'', s'', new, hagain, hchildren, hshown⟩ :=
    hfresh Session.reachable_sampleWritten Session.sampleHost.1 {} rfl hsame htarget hcontent
  have hempty : Session.sampleWritten.children
      (Session.sampleWritten.mountPoint Session.sampleHost.1.node) = [] := by decide +kernel
  have hpoint : Session.sampleWritten.mountPoint Session.sampleHost.1.node = ⟨0⟩ := by
    decide +kernel
  rw [hempty, List.nil_append, hpoint] at hchildren
  exact ⟨List.cons.inj hnodes |>.1, h'', d'', s'', new, hagain, hchildren, hshown⟩

end LiveMarkup
