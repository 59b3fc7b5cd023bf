/-
Values do not change what is made of a template.

A template is rendered twice, from the same document: once with some values, once with
others.  Only two things about them matter to the markup and to the bindings: which slots
were undefined at first, and which hold handlers.  If these are the same, the renders stop for
the same reason or make like documents and the same parts (`alike_render`), and so does every
update after that (`Matched.alike_run`).

Everything a value shows goes into the characters of a text or the value of an attribute or
property, and no step of a template reads these again.  So the invariant says only that the
documents are alike and that the templates are in the same stage; it holds of every pair of
runs, failed calls included.
-/
import LiveMarkup.Proofs.Part.Likeness
import LiveMarkup.Proofs.Template.Conversion
import LiveMarkup.Proofs.Template.Lifecycle
import LiveMarkup.Proofs.Template.Updating

namespace LiveMarkup

variable {L H : Type} {parts : List Part}

/-! ### Moving nodes of like documents -/

theorem Content.Alike.isContainer_eq {id : NodeId} {c c' : Content} (h : c.Alike parts id c') :
    c'.isContainer = c.isContainer := by
  obtain ⟨e, e', rfl, rfl, -⟩ | ⟨s, s', rfl, rfl⟩ | rfl := h.cases <;> rfl

theorem Content.Alike.eq_fragment_iff {id : NodeId} {c c' : Content} (h : c.Alike parts id c') :
    c' = .fragment ↔ c = .fragment := by
  obtain ⟨e, e', rfl, rfl, -⟩ | ⟨s, s', rfl, rfl⟩ | rfl := h.cases
  · exact ⟨nofun, nofun⟩
  · exact ⟨nofun, nofun⟩
  · rfl

namespace Document

variable {d d' : Document L}

theorem Alike.withForest (h : d.Alike parts d') (f : Forest NodeId) :
    Document.Alike parts { d with forest := f } { d' with forest := f } :=
  ⟨rfl, h.vacant, h.records, h.fits⟩

theorem Alike.seat (h : d.Alike parts d') (id : NodeId) : d'.seat id = d.seat id := by
  unfold Document.seat
  obtain ⟨hr, hr'⟩ | ⟨r, r', hr, hr', hlike⟩ := exists_of_rel (h.records id)
  · rw [hr, hr']
  · rw [hr, hr']
    exact hlike.seat

theorem Alike.shadowRoot? (h : d.Alike parts d') (id : NodeId) :
    d'.shadowRoot? id = d.shadowRoot? id := by
  unfold Document.shadowRoot? element?
  obtain ⟨hc, hc'⟩ | ⟨c, c', hc, hc', hlike⟩ := exists_of_rel (h.content? id)
  · rw [hc, hc']
  · rw [hc, hc']
    obtain ⟨e, e', rfl, rfl, hlike⟩ | ⟨s, s', rfl, rfl⟩ | rfl := hlike.cases
    · exact hlike.shadow
    · rfl
    · rfl

theorem Alike.place (h : d.Alike parts d') (parent child : NodeId) :
    (d.place parent child).Alike (Document.Alike parts) (d'.place parent child) := by
  have hancestors : d'.ancestors parent = d.ancestors parent := by
    unfold ancestors
    rw [h.forest]
  have hdetach : (d.detach child).Alike parts (d'.detach child) := by
    unfold detach
    rw [h.forest]
    exact h.withForest _
  have htransfer : (d.transfer parent child).Alike parts (d'.transfer parent child) := by
    unfold transfer
    rw [h.forest]
    split
    · exact h
    · exact h.withForest _
  unfold Document.place
  rw [hancestors]
  split
  · exact ⟨rfl, hdetach⟩
  · split
    · exact ⟨rfl, hdetach⟩
    · exact ⟨rfl, htransfer⟩

theorem Alike.placeAll (h : d.Alike parts d') (parent : NodeId) (children : List NodeId) :
    (Document.placeAll parent children d).Alike (Document.Alike parts)
      (Document.placeAll parent children d') := by
  induction children generalizing d d' with
  | nil => exact ⟨rfl, h⟩
  | cons child rest ih => exact (h.place parent child).andThen fun _ _ hplaced => ih hplaced

theorem Alike.container (h : d.Alike parts d') (id : NodeId) :
    d'.container id = d.container id := by
  unfold Document.container
  obtain ⟨c, c', -, -, hget, hget', hlike⟩ | ⟨hget, hget'⟩ := h.get id
  · rw [hget, hget']
    show (if c'.isContainer then _ else _) = (if c.isContainer then _ else _)
    rw [hlike.isContainer_eq]
  · rw [hget, hget']

theorem Alike.moved (h : d.Alike parts d') (child : NodeId) : d'.moved child = d.moved child := by
  have hchildren : d'.children child = d.children child := by
    unfold children
    rw [h.forest]
  unfold Document.moved
  obtain ⟨c, c', -, -, hget, hget', hlike⟩ | ⟨hget, hget'⟩ := h.get child
  · rw [hget, hget', hchildren]
    show Except.ok (if c' = .fragment then _ else _) = .ok (if c = .fragment then _ else _)
    simp only [hlike.eq_fragment_iff]
  · rw [hget, hget']
    rfl

/-- **The same nodes are moved, whatever they show.** -/
theorem Alike.append (h : d.Alike parts d') (parent child : NodeId) :
    (d.append parent child).Alike (Document.Alike parts) (d'.append parent child) := by
  unfold Document.append
  rw [h.container, h.moved]
  split
  · exact ⟨rfl, h⟩
  · exact h.placeAll parent _

theorem Alike.remove (h : d.Alike parts d') (id : NodeId) :
    (∃ d₁ d₁', d.remove id = .ok d₁ ∧ d'.remove id = .ok d₁' ∧ d₁.Alike parts d₁') ∨
      ∃ e, d.remove id = .error e ∧ d'.remove id = .error e := by
  unfold Document.remove
  obtain ⟨c, c', -, -, hget, hget', -⟩ | ⟨hget, hget'⟩ := h.get id
  · rw [hget, hget']
    refine Or.inl ⟨_, _, rfl, rfl, ?_, ?_, h.records, h.fits⟩
    · show d'.forest.prune id = d.forest.prune id
      rw [h.forest]
    · have hseats : d'.seat = d.seat := funext h.seat
      have hleaving : d'.leaving id = d.leaving id := by
        unfold leaving
        rw [h.forest]
      show d'.vacant ++ (d'.leaving id).map d'.seat = d.vacant ++ (d.leaving id).map d.seat
      rw [h.vacant, hleaving, hseats]
  · rw [hget, hget']
    exact Or.inr ⟨_, rfl, rfl⟩

end Document

namespace Template

/-! ### Templates that differ in values -/

/-- Templates that differ only in values, each with a document like that of the other.  They
are in the same stage, so they have the same markup and the same fragment, or else the same
parts with the same bindings, the same table and the same mount. -/
structure Matched (parts : List Part) (s s' : Template L H × Document L) : Prop where
  strings : s'.1.strings = s.1.strings
  slots : s'.1.slots = s.1.slots
  stage : s'.1.stage = s.1.stage
  document : s.2.Alike parts s'.2
  /-- What is still written was among `parts`. -/
  left : ∀ q ∈ s.1.parts, ∃ p ∈ parts, q.LeftOf p

/-- Updates that give handlers to the same slots, and choose the parts in the same way. -/
inductive Request.Alike : Request L H → Request L H → Prop
  | update {values values' : List (Value H)} (h : SameHandlers values values') :
    Alike (.update values) (.update values')
  | updateSlots {values values' : List (Value H)} (h : SameHandlers values values')
    (changed : List Nat) : Alike (.updateSlots values changed) (.updateSlots values' changed)

section

variable {s s' : Template L H × Document L} {values values' : List (Value H)}

theorem Matched.updateWith (h : Matched parts s s') (hhandlers : SameHandlers values values')
    (chosen : Registry → Nat → Bool) :
    (s.1.updateWith chosen s.2 values).Alike (Matched parts)
      (s'.1.updateWith chosen s'.2 values') := by
  unfold Template.updateWith
  rw [h.stage]
  split
  · next markup tree hstage =>
    have hleft := h.left
    rw [parts_of_stage hstage] at hleft
    have hwritten := Part.alike_updateChosen h.document hhandlers tree.context
      (chosen tree.registry) 0 tree.parts hleft
    refine ⟨(hwritten.mapError TemplateError.document).stopped, h.strings, h.slots,
      congrArg (fun parts => Stage.rendered markup { tree with parts }) hwritten.state.fst,
      hwritten.state.snd, fun r hr => ?_⟩
    obtain ⟨q, hq, hrq⟩ :=
      Part.exists_leftOf_of_mem_updateChosen tree.context values _ 0 tree.parts s.2 r hr
    obtain ⟨p, hp, hqp⟩ := hleft q hq
    exact ⟨p, hp, hqp.trans hrq⟩
  · exact ⟨rfl, h⟩

/-- **An update with other values goes the same way.** -/
theorem Matched.alike_run (h : Matched parts s s') {r r' : Request L H} (hr : r.Alike r') :
    (r.run s).Alike (Matched parts) (r'.run s') := by
  cases hr with
  | update hhandlers => exact h.updateWith hhandlers fun _ _ => true
  | updateSlots hhandlers changed =>
    exact h.updateWith hhandlers fun registry => registry.concerns changed

theorem Matched.after (h : Matched parts s s') {requests requests' : List (Request L H)}
    (hrequests : List.Forall₂ Request.Alike requests requests') :
    Matched parts (after s requests) (after s' requests') := by
  induction hrequests generalizing s s' with
  | nil => exact h
  | cons hr _ ih => exact ih (h.alike_run hr).state

end

/-! ### The first render -/

section

variable {t t' : Template L H} {d d' : Document L} {x : NodeId}

theorem alike_bind (hslots : t'.slots = t.slots) (hhandlers : SameHandlers t.values t'.values)
    (context : Context L H) (hparts : parts = (Part.discover d x t.slots).toOption.getD []) :
    (bind context t x d).Alike (Beside parts) (bind context t' x d) ∧
      ∀ q ∈ (bind context t x d).state.1.1, ∃ p ∈ parts, q.LeftOf p := by
  unfold bind
  rw [hslots]
  cases hfound : Part.discover d x t.slots with
  | error e =>
    rw [hfound] at hparts
    subst hparts
    exact ⟨⟨rfl, rfl, .refl d nofun⟩, nofun⟩
  | ok found =>
    rw [hfound] at hparts
    obtain rfl : parts = found := hparts
    have hsame := Document.Alike.refl d (Part.fits_of_discover hfound)
    have hwritten := Part.alike_updateChosen hsame hhandlers context (fun _ => true) 0 parts
      fun p hp => ⟨p, hp, .refl p⟩
    refine ⟨⟨(hwritten.mapError TemplateError.document).stopped, ?_,
      hwritten.state.snd⟩, ?_⟩
    · exact congrArg (fun written => (written, Registry.ofParts parts)) hwritten.state.fst
    · exact Part.exists_leftOf_of_mem_updateChosen context t.values (fun _ => true) 0 parts d

theorem alike_discard (hstrings : t'.strings = t.strings) (hslots : t'.slots = t.slots)
    (h : d.Alike parts d') (markup : String) (x : NodeId) (e : TemplateError) :
    (t.discard markup x d e).Alike (Matched parts) (t'.discard markup x d' e) := by
  unfold Template.discard
  obtain ⟨d₁, d₁', hgone, hgone', h₁⟩ | ⟨error, hgone, hgone'⟩ := h.remove x
  · rw [hgone, hgone']
    exact ⟨rfl, hstrings, hslots, rfl, h₁, nofun⟩
  · rw [hgone, hgone']
    exact ⟨rfl, hstrings, hslots, rfl, h, nofun⟩

theorem alike_attach (h : d.Alike parts d') (mount x : NodeId) :
    (attach mount x d).Alike (Document.Alike parts) (attach mount x d') := by
  unfold Template.attach
  rw [h.shadowRoot?]
  refine (h.append _ x).andThen fun d₁ d₁' h₁ => ?_
  obtain ⟨d₂, d₂', hgone, hgone', h₂⟩ | ⟨e, hgone, hgone'⟩ := h₁.remove x
  · rw [hgone, hgone']
    exact ⟨rfl, h₂⟩
  · rw [hgone, hgone']
    exact ⟨rfl, h₁⟩

theorem compile_of_materialized {markup : String} (hstage : t.stage = .materialized markup x) :
    t.compile = (t, markup) :=
  compile_eq_of_markup? (congrArg Stage.markup? hstage)

/-- What a render does once the fragment is made. -/
theorem alike_render_of_materialize {t₁ t₁' : Template L H} {d₁ : Document L} {markup : String}
    (hrendered : t.isRendered = false) (hrendered' : t'.isRendered = false)
    (hmade : t.materialize d = ((t₁, d₁), .ok x)) (hmade' : t'.materialize d = ((t₁', d₁), .ok x))
    (hstage : t₁.stage = .materialized markup x) (hstage' : t₁'.stage = .materialized markup x)
    (hstrings : t₁'.strings = t₁.strings) (hslots : t₁'.slots = t₁.slots)
    (hhandlers : SameHandlers t₁.values t₁'.values) (context : Context L H)
    (mount : Option NodeId) (hparts : parts = (Part.discover d₁ x t₁.slots).toOption.getD []) :
    (t.render d context mount).Alike (Matched parts) (t'.render d context mount) := by
  obtain ⟨hbound, hleft⟩ := alike_bind hslots hhandlers context hparts
  have hunrendered : t₁.parts = [] := by
    rw [Template.parts, rendered?, hstage]
    rfl
  unfold Template.render
  rw [hrendered, hrendered', hmade, hmade']
  simp only [Bool.false_eq_true, if_false, compile_of_materialized hstage,
    compile_of_materialized hstage']
  -- Taken apart, the two bindings are the same but for the document.
  generalize bind context t₁ x d₁ = bound at hbound hleft ⊢
  generalize bind context t₁' x d₁ = bound' at hbound ⊢
  obtain ⟨⟨written, d₂⟩, stopped⟩ := bound
  obtain ⟨⟨written', d₂'⟩, stopped'⟩ := bound'
  obtain rfl : stopped' = stopped := hbound.stopped
  obtain rfl : written' = written := hbound.state.fst
  have hd₂ : d₂.Alike parts d₂' := hbound.state.snd
  have hattached := alike_attach hd₂ (mount.getD context.host) x
  cases stopped' with
  | some e => exact alike_discard hstrings hslots hd₂ markup x e
  | none =>
    simp only
    rw [hattached.stopped]
    split
    · refine ⟨rfl, hstrings, hslots, hstage'.trans hstage.symm, hattached.state, ?_⟩
      show ∀ q ∈ t₁.parts, _
      rw [hunrendered]
      exact List.forall_mem_nil _
    · exact ⟨rfl, hstrings, hslots, rfl, hattached.state, hleft⟩

end

/-- The parts that a first render finds; none if it comes to a bad marker. -/
def found (t : Template L H) (d : Document L) : List Part := (t.discovered d).toOption.getD []

section

variable {values values' : List (Value H)}

theorem alike_render (d : Document L) (strings : List String)
    (hundefined : values.map Value.isUndefined = values'.map Value.isUndefined)
    (hhandlers : SameHandlers values values') (context : Context L H) (mount : Option NodeId) :
    ((ofStrings strings values).render d context mount).Alike
      (Matched ((ofStrings strings values).found d))
      ((ofStrings strings values').render d context mount) := by
  have hslots : values'.length = values.length := by
    have hlengths := congrArg List.length hundefined
    rw [List.length_map, List.length_map] at hlengths
    exact hlengths.symm
  have hsource : (ofStrings strings values' : Template L H).source =
      (ofStrings strings values : Template L H).source :=
    (annotateFrom_congr hundefined 0 strings).symm
  have hmade := (unmade_ofStrings (L := L) strings values).materialize_eq d
  have hmade' := (unmade_ofStrings (L := L) strings values').materialize_eq d
  unfold drafted at hmade'
  rw [hsource] at hmade'
  refine alike_render_of_materialize rfl rfl hmade hmade' rfl rfl rfl hslots hhandlers context mount
    ?_
  unfold found discovered
  rw [hmade]

/-- **Values do not change what is made.**  A template is rendered with some values or with
others, of which the same are undefined and the same are handlers.  Both renders go through,
or both stop for the same reason; the results differ only in texts that have a part, in the
values of bound attributes and properties, and in the listeners that handlers became.  It is
the same after any updates that give handlers to the same slots. -/
theorem alike_of_sameHandlers (d : Document L) (strings : List String)
    (hundefined : values.map Value.isUndefined = values'.map Value.isUndefined)
    (hhandlers : SameHandlers values values') (context : Context L H) (mount : Option NodeId) :
    ((ofStrings strings values).render d context mount).Alike
        (Matched ((ofStrings strings values).found d))
        ((ofStrings strings values').render d context mount) ∧
      ∀ requests requests' : List (Request L H), List.Forall₂ Request.Alike requests requests' →
        let s := after ((ofStrings strings values).render d context mount).state requests
        let s' := after ((ofStrings strings values').render d context mount).state requests'
        Matched ((ofStrings strings values).found d) s s' ∧
        ∀ r r' : Request L H, r.Alike r' → (r'.run s').stopped = (r.run s).stopped := by
  have hrender := alike_render d strings hundefined hhandlers context mount
  refine ⟨hrender, fun requests requests' hrequests => ?_⟩
  have hafter := hrender.state.after hrequests
  exact ⟨hafter, fun r r' hr => (hafter.alike_run hr).stopped⟩

end

/-- The values of a greeting where the name is markup and has a marker in it. -/
def sampleSpoof : List (Value Nat) := [.handler 9, .text ("<b>" ++ Marker.encode 0 ++ "</b>")]

/-- The name is shown as it is, and after another update the pages are still alike. -/
theorem alike_of_sameHandlers_sampleSpoof :
    let s := (sampleGreeting.render samplePage ⟨⟨0⟩, id⟩ none).state
    let s' := ((ofStrings sampleGreeting.strings sampleSpoof).render samplePage ⟨⟨0⟩, id⟩ none).state
    s'.1.isRendered = true ∧
    s'.2.text? ⟨3⟩ = some ("Hello, <b>" ++ Marker.encode 0 ++ "</b>") ∧
    Matched (sampleGreeting.found samplePage) (after s [.update [.null, .text "Bob"]])
      (after s' [.update [.text "0", .text "</p>"]]) := by
  have hundefined :
      sampleGreeting.values.map Value.isUndefined = sampleSpoof.map Value.isUndefined := rfl
  have hhandlers : SameHandlers sampleGreeting.values sampleSpoof := by
    rintro (_ | _ | slot) <;> rfl
  have hlater : SameHandlers [.null, .text "Bob"] ([.text "0", .text "</p>"] : List (Value Nat)) := by
    rintro (_ | _ | slot) <;> rfl
  refine ⟨by decide +kernel, by decide +kernel, ?_⟩
  have hafter := (alike_of_sameHandlers samplePage sampleGreeting.strings hundefined
    hhandlers ⟨⟨0⟩, id⟩ none).2 [.update [.null, .text "Bob"]] [.update [.text "0", .text "</p>"]]
    (.cons (.update hlater) .nil)
  exact hafter.1

end Template

end LiveMarkup
