/-
Updating and rendering from scratch.

An update writes over what the last one wrote, and neither the texts nor the attributes it
finds say what they were in the markup; the parts remember that.  So what has to be kept
through a run of updates ties three things together: what the markup said, which slots
held a handler at the first render, and the values adopted last (`Shows`).  From these
alone follows what every node holds, whatever was written in between
(`shows_writeAll`), and so a run leaves no trace of its middle.

A template that starts with the last values makes the same tree, if it makes the same
markup and the same listeners.  That is what the conditions of `update_eq_render` say.
-/
import LiveMarkup.Proofs.Template.FirstRender
import Mathlib.Data.List.TakeDrop

namespace LiveMarkup

variable {L H : Type}

namespace Document

variable {b d d' : Document L} {kids : Forest NodeId} {first last values : List (Value H)}

/-- The trees at `roots` are in `d'` as they are in `d`. -/
def Untouched (roots : List NodeId) (d d' : Document L) : Prop :=
  ∀ r ∈ roots, d'.subtree? r = d.subtree? r ∧ ∀ id ∈ d.descendants r, d'.content? id = d.content? id

/-- The nodes of `kids` hold what the values make of what they held in `b`, written first for
`first`, and the trees are in one piece. -/
structure Shows (b : Document L) (kids : Forest NodeId) (first values : List (Value H))
    (d : Document L) : Prop where
  content : ∀ id ∈ kids.labels, d.content? id = some ((b.contentAt id).rendered first values)
  below : ∀ r ∈ kids.roots, d.forest.below? r = kids.below? r

theorem Shows.untouched (h : Shows b kids first values d) (hkids : kids.Distinct)
    (hd' : Untouched kids.roots d d') : Shows b kids first values d' where
  content := by
    intro id hid
    obtain ⟨r, hr, below, hbelow, hmem⟩ := Forest.exists_root_above hkids hid
    have hdescendant : id ∈ d.descendants r := by
      unfold descendants Document.below
      rw [h.below r hr, hbelow, Option.map_some, Option.getD_some]
      exact List.mem_cons.2 hmem
    rw [(hd' r hr).2 id hdescendant]
    exact h.content id hid
  below := by
    intro r hr
    have hsame := (hd' r hr).1
    unfold subtree? at hsame
    rw [← h.below r hr]
    cases hd : d.forest.below? r with
    | none => rw [hd] at hsame; exact Option.map_eq_none_iff.1 hsame
    | some k =>
      rw [hd, Option.map_some, Option.map_eq_some_iff] at hsame
      obtain ⟨k', hk', htree⟩ := hsame
      rw [hk']
      exact congrArg some (Forest.node.inj htree).2.1

/-- **What a tree shows, from its roots down.** -/
theorem Shows.outlines (h : Shows b kids first values d) (hkids : kids.Distinct) :
    kids.roots.map d.outline? =
      (((kids.map b.contentAt).map (Content.rendered first values)).trees).map some := by
  have hat : ∀ id ∈ kids.labels,
      d.contentAt id = (b.contentAt id).rendered first values := fun id hid =>
    contentAt_of_content? (h.content id hid)
  have houtline : ∀ r ∈ kids.roots, d.outline? r =
      ((kids.below? r).map (Forest.tree r)).map
        (Forest.map fun id => (b.contentAt id).rendered first values) := by
    intro r hr
    unfold outline? subtree?
    rw [h.below r hr]
    cases hk : kids.below? r with
    | none => rfl
    | some k =>
      simp only [Option.map_some, Option.some.injEq]
      refine Forest.map_congr fun id hid => hat id ?_
      simp only [Forest.tree, Forest.labels, List.append_nil, List.mem_cons] at hid
      rcases hid with rfl | hid
      · exact Forest.mem_labels_of_mem_roots hr
      · exact Forest.mem_labels_of_below? hk hid
  have hroots := congrArg
    (List.map (Option.map (Forest.map fun id => (b.contentAt id).rendered first values)))
    (Forest.map_below?_roots hkids)
  rw [List.map_map, List.map_map] at hroots
  rw [Forest.map_map, Forest.trees_map, List.map_map, List.map_congr_left houtline]
  exact hroots

/-! ### One update -/

/-- The parts of a tree after its first render. -/
def partsAfter (b : Document L) (kids : Forest NodeId) (first : List (Value H)) : List Part :=
  (b.partsOf kids.labels).map (Part.kept first)

theorem mem_partsAfter {q : Part} (hq : q ∈ b.partsAfter kids first) :
    ∃ p ∈ b.partsOf kids.labels, q = p.kept first := by
  obtain ⟨p, hp, rfl⟩ := List.mem_map.1 hq
  exact ⟨p, hp, rfl⟩

theorem Shows.apart (h : Shows b kids first last d) (hb : b.WellFormed) (hkids : kids.Distinct) :
    Part.Apart (b.partsAfter kids first) d where
  nodup := by
    unfold partsAfter
    rw [List.map_map]
    have hnodes : Part.node ∘ Part.kept first = Part.node := funext fun p => Part.node_kept first p
    rw [hnodes]
    exact hkids.sublist (map_node_partsOf_sublist b kids.labels)
  fits := by
    intro q hq
    obtain ⟨p, hp, rfl⟩ := mem_partsAfter hq
    obtain ⟨hid, hpart⟩ := node_mem_of_mem_partsOf hp
    have hcontent : d.content? (p.kept first).node =
        some ((b.contentAt p.node).rendered first last) := by
      rw [Part.node_kept]
      exact h.content _ hid
    refine ⟨_, hcontent, ?_⟩
    rw [← Part.rewrite_of? (hb.proper_contentAt _) hpart first last]
    exact Part.fits_rewrite first last (Part.fits_of? hpart)

/-- **An update puts the new values in the place of the last ones.**  No slot may come to
hold a handler that held none at first. -/
theorem Shows.writeAll (h : Shows b kids first last d) (hb : b.WellFormed)
    (hkids : kids.Distinct) (context : Context L H)
    (hsilent : ∀ p ∈ b.partsOf kids.labels, (p.kept first).Silent values) :
    Shows b kids first values (Part.writeAll context values (b.partsAfter kids first) d) where
  content := by
    intro id hid
    have hproper := hb.proper_contentAt id
    obtain ⟨hlive, r, hr, hcontent⟩ := content?_eq_some_iff.1 (h.content id hid)
    have hrecord : d.record? id = some r := record?_eq_some_iff.2 ⟨hlive, hr⟩
    unfold content?
    cases hpart : Part.of? id (b.contentAt id) with
    | none =>
      have hnone : ∀ q ∈ b.partsAfter kids first, q.node ≠ id := by
        intro q hq hc
        obtain ⟨p, hp, rfl⟩ := mem_partsAfter hq
        rw [Part.node_kept] at hc
        subst hc
        rw [(node_mem_of_mem_partsOf hp).2] at hpart
        cases hpart
      rw [Part.record?_writeAll_of_not_mem context values hnone, hrecord, Option.map_some,
        hcontent, Part.rendered_of_none hproper hpart, Part.rendered_of_none hproper hpart]
    | some p =>
      have hp : p ∈ b.partsOf kids.labels := mem_partsOf.2 ⟨id, hid, hpart⟩
      have hnode : (p.kept first).node = id := (Part.node_kept first p).trans (Part.node_of? hpart)
      have hwritten := Part.record?_writeAll_of_mem context values (h.apart hb hkids)
        (List.mem_map_of_mem hp) (hnode.symm ▸ hrecord)
      rw [hnode] at hwritten
      rw [hwritten, Option.map_some, hcontent, ← Part.rewrite_of? hproper hpart first last,
        Part.rewrite_rewrite (Part.proper_of? hproper hpart) hproper (hsilent p hp),
        Part.rewrite_of? hproper hpart]
  below := by
    intro r hr
    rw [Part.forest_writeAll]
    exact h.below r hr

end Document

namespace Template

variable {b d d' : Document L} {t t' : Template L H} {kids : Forest NodeId}
  {first values : List (Value H)} {slots : Nat}

/-- A run of updates, with the values that were given last, and with anything else going on in
the document between them that leaves the trees at `roots` alone.  A slot that held no handler
at first is never given one. -/
inductive Updated (roots : List NodeId) (first : List (Value H)) (slots : Nat)
    (s : Template L H × Document L) : List (Value H) → Template L H × Document L → Prop
  | refl : Updated roots first slots s first s
  | update {last : List (Value H)} {t : Template L H} {d : Document L}
      (h : Updated roots first slots s last (t, d)) (values : List (Value H))
      (hhandlers : ∀ slot < slots, holdsHandler values slot = true →
        holdsHandler first slot = true) :
      Updated roots first slots s values (t.update d values).state
  | elsewhere {last : List (Value H)} {t : Template L H} {d d' : Document L}
      (h : Updated roots first slots s last (t, d)) (huntouched : d.Untouched roots d') :
      Updated roots first slots s last (t, d')

/-- What a run of updates keeps: the parts are those of the first render, and the tree shows
the values. -/
structure Current (b : Document L) (kids : Forest NodeId) (first : List (Value H))
    (s : Template L H × Document L) : Prop where
  rendered : ∃ markup tree, s.1.stage = .rendered markup tree ∧
    tree.parts = b.partsAfter kids first
  shows : b.Shows kids first s.1.values s.2

/-- What one update does. -/
theorem Current.exists_update (h : Current b kids first (t, d)) (hb : b.WellFormed)
    (hkids : kids.Distinct) (hbelow : ∀ id ∈ kids.labels, (b.contentAt id).MarkersBelow slots)
    (hhandlers : ∀ slot < slots, holdsHandler values slot = true →
      holdsHandler first slot = true) :
    ∃ (t' : Template L H) (context : Context L H),
      t.update d values = .done (t', Part.writeAll context values (b.partsAfter kids first) d) ∧
      t'.values = values ∧
      Current b kids first (t', Part.writeAll context values (b.partsAfter kids first) d) := by
  obtain ⟨⟨markup, tree, hstage, hparts⟩, hshows⟩ := h
  have hsilent : ∀ p ∈ b.partsOf kids.labels, (p.kept first).Silent values := by
    intro p hp
    obtain ⟨hid, hpart⟩ := Document.node_mem_of_mem_partsOf hp
    refine Part.silent_kept_of_handlers fun index hindex => hhandlers index ?_
    rw [Part.indices_of? hpart] at hindex
    exact (Content.markersBelow_iff.1 (hbelow _ hid)).2 index hindex
  have hkept : (b.partsAfter kids first).map (Part.kept values) = b.partsAfter kids first := by
    refine (List.map_congr_left fun q hq => ?_).trans (List.map_id' _)
    obtain ⟨p, hp, rfl⟩ := Document.mem_partsAfter hq
    exact Part.kept_of_silent (hsilent p hp)
  have hupdate : t.update d values = .done
      ({ t with
          values
          previous := some t.values
          stage := .rendered markup { tree with parts := b.partsAfter kids first } },
        Part.writeAll tree.context values (b.partsAfter kids first) d) := by
    have hall := Part.updateAll_eq tree.context values (hshows.apart hb hkids)
    rw [hkept] at hall
    unfold Template.update updateWith
    rw [hstage]
    simp only [hparts]
    change ((Part.updateAll tree.context values (b.partsAfter kids first) d).mapError
      TemplateError.document).map _ = _
    rw [hall]
    rfl
  exact ⟨_, tree.context, hupdate, rfl, ⟨_, _, rfl, rfl⟩,
    hshows.writeAll hb hkids tree.context hsilent⟩

/-- One update. -/
theorem Current.update (h : Current b kids first (t, d)) (hb : b.WellFormed)
    (hkids : kids.Distinct) (hbelow : ∀ id ∈ kids.labels, (b.contentAt id).MarkersBelow slots)
    (hhandlers : ∀ slot < slots, holdsHandler values slot = true →
      holdsHandler first slot = true) :
    (t.update d values).stopped = none ∧ Current b kids first (t.update d values).state := by
  obtain ⟨t', context, hupdate, -, hcurrent⟩ := h.exists_update hb hkids hbelow hhandlers
  rw [hupdate]
  exact ⟨rfl, hcurrent⟩

/-- A whole run: the tree shows the values that were given last. -/
theorem Current.updated {s s' : Template L H × Document L} (h : Current b kids first s)
    (hfirst : s.1.values = first) (hb : b.WellFormed) (hkids : kids.Distinct)
    (hbelow : ∀ id ∈ kids.labels, (b.contentAt id).MarkersBelow slots)
    {last : List (Value H)} (hrun : Updated kids.roots first slots s last s') :
    Current b kids first s' ∧ s'.1.values = last := by
  induction hrun with
  | refl => exact ⟨h, hfirst⟩
  | update _ values hhandlers ih =>
    obtain ⟨t', context, hupdate, hvalues, hcurrent⟩ :=
      ih.1.exists_update hb hkids hbelow hhandlers
    rw [hupdate]
    exact ⟨hcurrent, hvalues⟩
  | elsewhere _ huntouched ih =>
    exact ⟨⟨ih.1.rendered, ih.1.shows.untouched hkids huntouched⟩, ih.2⟩

/-- The nodes of the first tree hold what the values make of the markup. -/
theorem content?_delivered (hd : d.WellFormed) (t : Template L H) (context : Context L H)
    {target : NodeId} (htarget : target ∈ d.forest.labels) {id : NodeId}
    (hid : id ∈ (d.parsed t.source).labels) :
    (t.delivered context target d).content? id =
      some (((d.parseFragment t.source).1.contentAt id).rendered t.values t.values) := by
  have hwf := hd.parseFragment t.source
  have hx := Document.hasFragment_parseFragment hd t.source
  have hprune := Document.prune_parseFragment hd t.source
  obtain ⟨r, hr⟩ := hwf.exists_record? (hx.live hid)
  have hcontent : (d.parseFragment t.source).1.content? id = some r.content := by
    unfold Document.content?
    rw [hr]
    rfl
  have hwritten := Document.record?_writeAll_partsOf context t.values hwf
    (nodup_labels_fragment hwf hx).2 (fun _ h => hx.live h) hid hr
  have hplaced := record?_placed context t hwf hx (hprune.symm ▸ htarget) (Or.inr hid)
  unfold written at hplaced
  rw [hwritten] at hplaced
  unfold Document.content? delivered
  rw [hplaced, Document.contentAt_of_content? hcontent]
  rfl

/-- The first render is where a run begins. -/
theorem current_settled (hd : d.WellFormed) (t : Template L H) (context : Context L H)
    (mount : NodeId) {target : NodeId} (htarget : target ∈ d.forest.labels) :
    Current (d.parseFragment t.source).1 (d.parsed t.source) t.values
      (t.settled context mount d, t.delivered context target d) where
  rendered := by
    refine ⟨_, _, rfl, ?_⟩
    simp only [Document.partsAfter, drafted]
  shows.content := fun _ hid => content?_delivered hd t context htarget hid
  shows.below := by
    intro r hr
    have hfresh : r ∉ d.forest.labels := by
      rw [← Document.contains_eq_false_iff]
      exact Document.contains_of_mem_parsed hd (Forest.mem_labels_of_mem_roots hr)
    rw [(gains_delivered context t hd htarget).forest]
    exact Forest.below?_graft_of_mem_new hd.distinct htarget hfresh

/-- A run that begins with a first render below a live target. -/
theorem current_of_updated {d : Document L} (hd : d.WellFormed) {t : Template L H} (ht : t.Unmade)
    {context : Context L H} {mount : Option NodeId}
    (hlive : d.contains (d.mountPoint (mount.getD context.host)) = true)
    {t₁ : Template L H} {d₁ : Document L} (hrender : t.render d context mount = .done (t₁, d₁))
    {roots : List NodeId}
    (hroots : d₁.children (d.mountPoint (mount.getD context.host)) =
      d.children (d.mountPoint (mount.getD context.host)) ++ roots)
    {last : List (Value H)} {s : Template L H × Document L}
    (hrun : Updated roots t.values t.slots (t₁, d₁) last s) :
    (∀ c ∈ (Markup.parse t.source).labels, c.MarkersBelow t.slots) ∧
      roots = (d.parsed t.source).roots ∧
      Current (d.parseFragment t.source).1 (d.parsed t.source) t.values s ∧
      s.1.values = last := by
  obtain ⟨hmarkers, hdone⟩ := render_of_unmade_eq_done hd ht hlive hrender
  obtain ⟨rfl, rfl⟩ := Prod.mk.inj hdone
  have htarget := Document.contains_iff.1 hlive
  obtain rfl : (d.parsed t.source).roots = roots := by
    rw [(gains_delivered context t hd htarget).children_target hd hlive] at hroots
    exact List.append_cancel_left hroots
  have hcurrent := current_settled hd t context (mount.getD context.host) htarget
  exact ⟨hmarkers, rfl, hcurrent.updated rfl (hd.parseFragment t.source)
    (Document.distinct_parsed hd t.source) (markersBelow_parsed hmarkers d) hrun⟩

/-- No update in the course of a run stops. -/
theorem stopped_update_of_updated {d : Document L} (hd : d.Reachable) {t : Template L H}
    (ht : t.Unmade) {context : Context L H} {mount : Option NodeId}
    (hlive : d.contains (d.mountPoint (mount.getD context.host)) = true)
    {t₁ : Template L H} {d₁ : Document L} (hrender : t.render d context mount = .done (t₁, d₁))
    {roots : List NodeId}
    (hroots : d₁.children (d.mountPoint (mount.getD context.host)) =
      d.children (d.mountPoint (mount.getD context.host)) ++ roots)
    {last : List (Value H)} {tₙ : Template L H} {dₙ : Document L}
    (hrun : Updated roots t.values t.slots (t₁, d₁) last (tₙ, dₙ)) {values : List (Value H)}
    (hhandlers : ∀ slot < t.slots, holdsHandler values slot = true →
      holdsHandler t.values slot = true) :
    (tₙ.update dₙ values).stopped = none := by
  have hwf := hd.wellFormed
  obtain ⟨hmarkers, -, hcurrent, -⟩ := current_of_updated hwf ht hlive hrender hroots hrun
  exact (hcurrent.update (hwf.parseFragment t.source) (Document.distinct_parsed hwf t.source)
    (markersBelow_parsed hmarkers d) hhandlers).1

/-- What stands in the document in the course of a run. -/
theorem Current.outlines {markup : String} {d₀ : Document L}
    (h : Current (d₀.parseFragment markup).1 (d₀.parsed markup) first (t, d))
    (hd₀ : d₀.WellFormed) :
    (d₀.parsed markup).roots.map d.outline? =
      ((Markup.parse markup).map (Content.rendered first t.values)).trees.map some := by
  have hshown := h.shows.outlines (Document.distinct_parsed hd₀ markup)
  rw [Document.map_contentAt_parsed] at hshown
  exact hshown

/-! ### From scratch -/

/-- Values, cut or padded with null to the number of slots. -/
def fitted (t : Template L H) (values : List (Value H)) : List (Value H) :=
  values.takeD t.slots .null

theorem getElem?_takeD {α : Type} {n i : Nat} (h : i < n) (l : List α) (a : α) :
    (l.takeD n a)[i]? = some (l[i]?.getD a) := by
  induction n generalizing i l with
  | zero => omega
  | succ n ih =>
    cases i with
    | zero => cases l <;> rfl
    | succ i =>
      rw [List.takeD_succ, List.getElem?_cons_succ, ih (Nat.lt_of_succ_lt_succ h)]
      cases l <;> rfl

/-- A missing value shows what null shows: nothing. -/
theorem showAlike_fitted {c : Content} (hc : c.MarkersBelow t.slots) (values : List (Value H)) :
    ShowAlike c.slotsRead values (t.fitted values) where
  texts := by
    intro index hindex
    have hlt := (Content.markersBelow_iff.1 hc).2 index hindex
    unfold ContentPart.shown fitted
    rw [getElem?_takeD hlt]
    cases values[index]? <;> rfl
  attributes := by
    intro index hindex
    have hlt := (Content.markersBelow_iff.1 hc).2 index hindex
    unfold Binding.shown fitted
    rw [getElem?_takeD hlt]
    cases values[index]? <;> rfl

/-- Of the values only the places of `undefined` are in the markup. -/
theorem annotateFrom_congr {values values' : List (Value H)}
    (h : values.map Value.isUndefined = values'.map Value.isUndefined) (index : Nat)
    (strings : List String) :
    annotateFrom index strings values = annotateFrom index strings values' := by
  induction strings generalizing index values values' with
  | nil => rfl
  | cons s rest ih =>
    cases values with
    | nil =>
      cases values' with
      | nil => rfl
      | cons v' rest' => cases h
    | cons v values =>
      cases values' with
      | nil => cases h
      | cons v' values' =>
        rw [List.map_cons, List.map_cons, List.cons.injEq] at h
        unfold annotateFrom mark
        rw [h.1, ih h.2]

/-- **Updating is rendering from scratch.**  After any run of updates the tree is what a new
template with the values that were given last would make, below any node that takes children,
if these hold handlers and `undefined` where the first ones did. -/
theorem update_eq_render {d : Document L} (hd : d.Reachable) {t : Template L H} (ht : t.Unmade)
    {context : Context L H} {mount : Option NodeId}
    (hlive : d.contains (d.mountPoint (mount.getD context.host)) = true)
    {t₁ : Template L H} {d₁ : Document L} (hrender : t.render d context mount = .done (t₁, d₁))
    {roots : List NodeId}
    (hroots : d₁.children (d.mountPoint (mount.getD context.host)) =
      d.children (d.mountPoint (mount.getD context.host)) ++ roots)
    {last : List (Value H)} {tₙ : Template L H} {dₙ : Document L}
    (hrun : Updated roots t.values t.slots (t₁, d₁) last (tₙ, dₙ))
    (hhandlers : ∀ slot, holdsHandler (t.fitted last) slot = holdsHandler t.values slot)
    (hundefined : (t.fitted last).map Value.isUndefined = t.values.map Value.isUndefined)
    {d' : Document L} (hd' : d'.Reachable) (context' : Context L H) (mount' : Option NodeId)
    {c : Content} (htarget : d'.content? (d'.mountPoint (mount'.getD context'.host)) = some c)
    (hc : c.isContainer = true) :
    ∃ (t'' : Template L H) (d'' : Document L) (new : List NodeId),
      (ofStrings t.strings (t.fitted last)).render d' context' mount' = .done (t'', d'') ∧
      d''.children (d'.mountPoint (mount'.getD context'.host)) =
        d'.children (d'.mountPoint (mount'.getD context'.host)) ++ new ∧
      roots.map dₙ.outline? = new.map d''.outline? := by
  obtain ⟨hmarkers, htree, hcurrent, hlast⟩ :=
    current_of_updated hd.wellFormed ht hlive hrender hroots hrun
  -- What the new template makes.
  obtain ⟨u, hu⟩ : ∃ u : Template L H, u = ofStrings t.strings (t.fitted last) := ⟨_, rfl⟩
  have hunmade : u.Unmade := hu ▸ unmade_ofStrings ..
  have hvalues : u.values = t.fitted last := by rw [hu]; rfl
  have hslots : u.slots = t.slots := by rw [hu]; exact List.takeD_length ..
  have hsource : u.source = t.source := by rw [hu]; exact annotateFrom_congr hundefined 0 t.strings
  have hlive' := Document.contains_of_content? htarget
  have hcurrent' := current_settled hd'.wellFormed u context' (mount'.getD context'.host)
    (Document.contains_iff.1 hlive')
  have hgains := gains_delivered context' u hd'.wellFormed (Document.contains_iff.1 hlive')
  rw [← hu, htree]
  refine ⟨_, _, _, render_of_unmade hd'.wellFormed hunmade context' mount' ?_ htarget hc,
    hgains.children_target hd'.wellFormed hlive', ?_⟩
  · rw [hsource, hslots]
    exact hmarkers
  · have hsame : (Markup.parse t.source).map (Content.rendered t.values last) =
        (Markup.parse u.source).map (Content.rendered u.values u.values) := by
      rw [hsource, hvalues]
      refine Forest.map_congr fun c hc => Content.rendered_congr (fun index _ => ?_) ?_
      · exact (hhandlers index).symm
      · exact showAlike_fitted (hmarkers c hc) last
    have hshown := hcurrent.outlines hd.wellFormed
    rw [hlast, hsame] at hshown
    exact hshown.trans (hcurrent'.outlines hd'.wellFormed).symm

/-- The greeting on the page, after two updates: one with a value too few, one with a value
too many. -/
def sampleRun : Template Nat Nat × Document Nat :=
  let s := (sampleGreeting.render samplePage ⟨⟨0⟩, id⟩ none).state
  let s := (s.1.update s.2 [.handler 8]).state
  (s.1.update s.2 [.handler 9, .text "Bob", .null]).state

/-- It is the greeting that would come of the last values alone. -/
theorem update_eq_render_sampleRun :
    ∃ (t'' : Template Nat Nat) (d'' : Document Nat) (new : List NodeId),
      (ofStrings sampleGreeting.strings [.handler 9, .text "Bob"]).render samplePage
        ⟨⟨0⟩, id⟩ none = .done (t'', d'') ∧
      d''.children ⟨0⟩ = new ∧ [⟨2⟩].map sampleRun.2.outline? = new.map d''.outline? := by
  have hrender : sampleGreeting.render samplePage ⟨⟨0⟩, id⟩ none = .done
      (sampleGreeting.render samplePage ⟨⟨0⟩, id⟩ none).state :=
    Attempt.eq_done (by decide +kernel)
  have hroots : (sampleGreeting.render samplePage ⟨⟨0⟩, id⟩ none).state.2.children
      (samplePage.mountPoint ⟨0⟩) = samplePage.children (samplePage.mountPoint ⟨0⟩) ++ [⟨2⟩] := by
    decide +kernel
  have hrun : Updated [⟨2⟩] sampleGreeting.values sampleGreeting.slots
      (sampleGreeting.render samplePage ⟨⟨0⟩, id⟩ none).state [.handler 9, .text "Bob", .null]
      (sampleRun.1, sampleRun.2) :=
    (Updated.refl.update [.handler 8] (by decide)).update [.handler 9, .text "Bob", .null]
      (by decide)
  have htarget : samplePage.content? (samplePage.mountPoint ⟨0⟩) =
      some (.element { tag := "div" }) := by decide
  have hhandlers : ∀ slot, holdsHandler
      (sampleGreeting.fitted [.handler 9, .text "Bob", .null]) slot =
      holdsHandler sampleGreeting.values slot := by
    intro slot
    match slot with
    | 0 | 1 | _ + 2 => rfl
  exact update_eq_render reachable_samplePage unmade_sampleGreeting (by decide) hrender hroots hrun
    hhandlers rfl reachable_samplePage ⟨⟨0⟩, id⟩ none htarget rfl

end Template

end LiveMarkup
