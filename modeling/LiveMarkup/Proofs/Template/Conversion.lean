/-
Handlers in the course of a run.

Handlers may come and go with the values, and an attribute may have several slots.  What an
attribute becomes is decided once: by the first write of its part that has a handler for it.
Which writes these are depends on the calls only, and `writesTo` lists their values.  So the
state of all attributes after a run is a function of this list (`Following`), one call
appends to the list or leaves it as it is (`Following.step`), and a run is one call after
the other.

The listeners that others add to the same elements are not of interest.  What the template adds
is taken call by call (`gained`), and comes to one listener for each attribute with a handler in
the list.
-/
import LiveMarkup.Proofs.Part.Conversion
import LiveMarkup.Proofs.Template.Reachable
import LiveMarkup.Proofs.Template.SparseUpdate

namespace LiveMarkup

variable {L H : Type}

/-- What a part can write is decided by what of the content never changes. -/
theorem Part.fits_iff_of_bare_eq {p : Part} {c c' : Content} (h : c'.bare = c.bare) :
    p.Fits c' ↔ p.Fits c := by
  cases p <;> cases c <;> cases c' <;> simp_all [Content.bare, Part.Fits]

namespace Document

variable {d d' : Document L} {id : NodeId}

theorem attribute?_of_content? {e : Element} (h : d.content? id = some (.element e))
    (name : String) : d.attribute? id name = e.attributes.get? name := by
  unfold attribute? element?
  rw [h]
  rfl

theorem attribute?_of_content?_eq_none (h : d.content? id = none) (name : String) :
    d.attribute? id name = none := by
  unfold attribute? element?
  rw [h]
  rfl

theorem attribute?_congr (h : d'.content? id = d.content? id) (name : String) :
    d'.attribute? id name = d.attribute? id name := by
  unfold attribute? element?
  rw [h]

theorem content?_addListener {kind : String} {listener : L}
    (h : d.addListener id kind listener = .ok d') (other : NodeId) :
    d'.content? other = d.content? other := by
  cases hold : d.content? id with
  | none => simp [addListener, get, hold, Except.map] at h
  | some content =>
    rw [addListener_of_content? hold] at h
    cases h
    by_cases hother : other = id
    · rw [hother, content?_put_self hold, hold]
    · exact content?_put_ne hother _

theorem content?_eq_none_iff : d.content? id = none ↔ d.record? id = none :=
  Option.map_eq_none_iff

end Document

namespace Template

variable {t : Template L H} {d d' : Document L} {parts : List Part} {context : Context L H}
  {writes : Part → List (List (Value H))} {values : List (Value H)}

/-! ### Writes and listeners of a run -/

/-- The values for a part, if a call is to write it. -/
def Call.valuesFor? (p : Part) : Call L H → Option (List (Value H))
  | update values => some values
  | updateSlots values changed =>
    if changed.any fun slot => p.indices.contains slot then some values else none
  | elsewhere _ => none

/-- The values that a call writes a part with.  A part whose node is gone is not written. -/
def Call.writing? (p : Part) (d : Document L) (call : Call L H) : Option (List (Value H)) :=
  if (d.content? p.node).isSome then call.valuesFor? p else none

/-- The values of all writes of a part in the course of a run, in order. -/
def writesTo (p : Part) : Template L H × Document L → List (Call L H) → List (List (Value H))
  | _, [] => []
  | s, call :: rest => (call.writing? p s.2).toList ++ writesTo p (call.run s) rest

/-- Whether a call is one of the template, and not something else. -/
def Call.isOwn : Call L H → Bool
  | update _ | updateSlots _ _ => true
  | elsewhere _ => false

/-- The listeners that the template adds to a node in the course of a run: at each of its calls
those that come behind the listeners of before. -/
def gained (id : NodeId) : Template L H × Document L → List (Call L H) → List (Registration L)
  | _, [] => []
  | s, call :: rest =>
    (if call.isOwn then
      ((call.run s).2.registrationsAt id).drop (s.2.registrationsAt id).length else []) ++
    gained id (call.run s) rest

/-- Operations that remove no node of a part and set no attribute that was bound at first. -/
structure Sparing (parts : List Part) (d d' : Document L) : Prop where
  operations : d.Operations d'
  kept : ∀ p ∈ parts, d.contains p.node = true → d'.contains p.node = true
  unset : ∀ p, Part.attributes p ∈ parts → ∀ entry ∈ p.bindings.entries, ∀ value,
    d'.attribute? p.element entry.1 = some value → d.attribute? p.element entry.1 = some value

/-- Whatever is not a call of the template spares the parts. -/
def Call.Spares (parts : List Part) (s : Template L H × Document L) : Call L H → Prop
  | update _ | updateSlots _ _ => True
  | elsewhere change => Sparing parts s.2 (change s.2)

/-- Every call spares the parts when it is its turn. -/
def AllSpare (parts : List Part) : Template L H × Document L → List (Call L H) → Prop
  | _, [] => True
  | s, call :: rest => call.Spares parts s ∧ AllSpare parts (call.run s) rest

/-! ### What a run keeps -/

/-- A rendered template and its document after some writes of its parts.  They are those
found at first, less the attributes that became listeners, and these attributes are gone. -/
structure Following (parts : List Part) (context : Context L H)
    (writes : Part → List (List (Value H))) (s : Template L H × Document L) : Prop where
  reachable : s.2.Reachable
  known : ∀ p ∈ parts, p.node.index < s.2.records.size
  nodup : (parts.map Part.node).Nodup
  proper : ∀ p ∈ parts, p.Proper
  rendered : ∃ markup mount, s.1.stage = .rendered markup
    ⟨parts.map fun p => p.remaining (writes p), .ofParts parts, mount, context⟩
  present : (∀ p ∈ parts, s.2.content? p.node = none) ∨
    ∀ p ∈ parts, ∃ c, s.2.content? p.node = some c ∧ p.Fits c
  absent : ∀ p, Part.attributes p ∈ parts → ∀ entry ∈ p.bindings.entries,
    entry.2.conversion? (writes (.attributes p)) ≠ none →
    s.2.attribute? p.element entry.1 = none

/-- Only the writes of the parts matter. -/
theorem Following.congr {writes' : Part → List (List (Value H))} {s : Template L H × Document L}
    (h : Following parts context writes s) (hsame : ∀ p ∈ parts, writes p = writes' p) :
    Following parts context writes' s where
  reachable := h.reachable
  known := h.known
  nodup := h.nodup
  proper := h.proper
  rendered := by
    obtain ⟨markup, mount, hstage⟩ := h.rendered
    have hparts := List.map_congr_left fun p hp =>
      congrArg (fun ws => Part.remaining ws p) (hsame p hp)
    exact ⟨markup, mount, hparts ▸ hstage⟩
  present := h.present
  absent p hp entry hentry := hsame _ hp ▸ h.absent p hp entry hentry

theorem Following.parts_eq {s : Template L H × Document L}
    (h : Following parts context writes s) :
    s.1.parts = parts.map fun p => p.remaining (writes p) := by
  obtain ⟨markup, mount, hstage⟩ := h.rendered
  exact parts_of_stage hstage

theorem apart_remaining (hnodup : (parts.map Part.node).Nodup)
    (hfits : ∀ p ∈ parts, ∃ c, d.content? p.node = some c ∧ p.Fits c)
    (writes : Part → List (List (Value H))) :
    Part.Apart (parts.map fun p => p.remaining (writes p)) d where
  nodup := by
    rw [List.map_map]
    have hnodes : Part.node ∘ (fun p : Part => p.remaining (writes p)) = Part.node :=
      funext fun p => Part.node_remaining (writes p) p
    rw [hnodes]
    exact hnodup
  fits := by
    intro q hq
    obtain ⟨p, hp, rfl⟩ := List.mem_map.1 hq
    obtain ⟨c, hc, hfit⟩ := hfits p hp
    exact ⟨c, (congrArg d.content? (Part.node_remaining _ p)).trans hc,
      (Part.fits_remaining _).2 hfit⟩

/-- The nodes of the parts keep their records. -/
theorem Following.known_of_operations (h : Following parts context writes (t, d))
    (hops : d.Operations d') : ∀ p ∈ parts, p.node.index < d'.records.size := by
  intro p hp
  exact Nat.lt_of_lt_of_le (h.known p hp) (h.reachable.steady hops).size

/-- What others do without removing the nodes of the parts does not make them fit any less, and
nodes that were removed stay so. -/
theorem Following.elsewhere (h : Following parts context writes (t, d))
    (hspare : Sparing parts d d') : Following parts context writes (t, d') where
  reachable := h.reachable.operations hspare.operations
  known := h.known_of_operations hspare.operations
  nodup := h.nodup
  proper := h.proper
  rendered := h.rendered
  present := by
    have hwf := h.reachable.wellFormed
    have hsteady := h.reachable.steady hspare.operations
    rcases h.present with hgone | hfits
    · exact Or.inl fun p hp => hsteady.content?_eq_none hwf (h.known p hp) (hgone p hp)
    · refine Or.inr fun p hp => ?_
      obtain ⟨c, hc, hfit⟩ := hfits p hp
      have hlive := hspare.kept p hp (Document.contains_of_content? hc)
      obtain ⟨c', hc'⟩ :=
        (h.reachable.operations hspare.operations).wellFormed.exists_content? hlive
      exact ⟨c', hc', (Part.fits_iff_of_bare_eq (hsteady.bare_content? hwf hc hc')).2 hfit⟩
  absent := by
    intro p hp entry hentry hconversion
    rw [Option.eq_none_iff_forall_ne_some]
    intro value hvalue
    have hbefore := hspare.unset p hp entry hentry value hvalue
    rw [h.absent p hp entry hentry hconversion] at hbefore
    cases hbefore

/-- The nodes of the parts may also all go away at once. -/
theorem Following.of_content? (h : Following parts context writes (t, d)) {t' : Template L H}
    (hops : d.Operations d') (hstage : t'.stage = t.stage)
    (hcontent : (∀ p ∈ parts, d'.content? p.node = none) ∨
      ∀ p ∈ parts, d'.content? p.node = d.content? p.node) :
    Following parts context writes (t', d') where
  reachable := h.reachable.operations hops
  known := h.known_of_operations hops
  nodup := h.nodup
  proper := h.proper
  rendered := by
    obtain ⟨markup, mount, hrendered⟩ := h.rendered
    exact ⟨markup, mount, hstage.trans hrendered⟩
  present := by
    rcases hcontent with hgone | hsame
    · exact Or.inl hgone
    · refine h.present.imp (fun hgone p hp => (hsame p hp).trans (hgone p hp)) fun hfits p hp => ?_
      obtain ⟨c, hc, hfit⟩ := hfits p hp
      exact ⟨c, (hsame p hp).trans hc, hfit⟩
  absent := by
    intro p hp entry hentry hconversion
    rcases hcontent with hgone | hsame
    · exact Document.attribute?_of_content?_eq_none (hgone _ hp) entry.1
    · exact (Document.attribute?_congr (hsame _ hp) entry.1).trans
        (h.absent p hp entry hentry hconversion)

/-! ### One call -/

/-- A call of the template, as a choice of the parts to write. -/
theorem Call.exists_updateWith {call : Call L H} (hown : call.isOwn = true) (parts : List Part) :
    ∃ (chosen : Registry → Nat → Bool) (reached : Part → Bool) (values : List (Value H)),
      (∀ s, call.run s = (s.1.updateWith chosen s.2 values).state) ∧
      (∀ p, call.valuesFor? p = if reached p then some values else none) ∧
      ∀ i p, parts[i]? = some p → chosen (.ofParts parts) i = reached p := by
  cases call with
  | elsewhere change => cases hown
  | update values =>
    exact ⟨fun _ _ => true, fun _ => true, values, fun _ => rfl, fun _ => rfl, fun _ _ _ => rfl⟩
  | updateSlots values changed =>
    refine ⟨fun registry => registry.concerns changed,
      fun p => changed.any fun slot => p.indices.contains slot, values,
      fun _ => rfl, fun _ => rfl, fun i p hp => ?_⟩
    refine congrArg changed.any (funext fun slot => ?_)
    rw [Bool.eq_iff_iff, List.contains_iff_mem, List.contains_iff_mem,
      Registry.mem_partsFor_ofParts, hp]
    simp

section Step

variable {chosen : Registry → Nat → Bool} {reached : Part → Bool}

/-- A write of some parts whose nodes are there. -/
theorem Following.state_updateWith (h : Following parts context writes (t, d))
    (hfits : ∀ p ∈ parts, ∃ c, d.content? p.node = some c ∧ p.Fits c)
    (hchosen : ∀ i p, parts[i]? = some p → chosen (.ofParts parts) i = reached p)
    (values : List (Value H)) :
    ∃ markup mount, (t.updateWith chosen d values).state =
      ({ t with
          values
          previous := some t.values
          stage := .rendered markup
            ⟨parts.map fun p => if reached p then p.remaining (writes p ++ [values])
                else p.remaining (writes p), .ofParts parts, mount, context⟩ },
        Part.writeAll context values
          ((parts.filter reached).map fun p => p.remaining (writes p)) d) := by
  obtain ⟨markup, mount, hstage⟩ := h.rendered
  have hwritten : Part.updateChosen context values (chosen (.ofParts parts)) 0
      (parts.map fun p => p.remaining (writes p)) d = _ :=
    Part.updateChosen_map context values (apart_remaining h.nodup hfits writes)
      fun i p hp => (congrArg _ (Nat.zero_add i)).trans (hchosen i p hp)
  refine ⟨markup, mount, ?_⟩
  rw [updateWith_eq hstage, hwritten]
  simp only [Part.kept_remaining]
  rfl

/-- A write of parts whose nodes are gone. -/
theorem Following.state_updateWith_of_gone (h : Following parts context writes (t, d))
    (hgone : ∀ p ∈ parts, d.content? p.node = none) (chosen : Registry → Nat → Bool)
    (values : List (Value H)) :
    ∃ markup mount, (t.updateWith chosen d values).state =
      ({ t with
          values
          previous := some t.values
          stage := .rendered markup
            ⟨parts.map fun p => p.remaining (writes p), .ofParts parts, mount, context⟩ }, d) := by
  obtain ⟨markup, mount, hstage⟩ := h.rendered
  refine ⟨markup, mount, Template.state_updateWith_of_gone hstage (fun q hq => ?_) chosen values⟩
  obtain ⟨p, hp, rfl⟩ := List.mem_map.1 hq
  rw [Part.node_remaining]
  exact hgone p hp

/-- What becomes of the nodes of the parts. -/
theorem Following.record?_updateWith (h : Following parts context writes (t, d))
    (hchosen : ∀ i p, parts[i]? = some p → chosen (.ofParts parts) i = reached p)
    (values : List (Value H)) {p : Part} (hp : p ∈ parts) :
    (t.updateWith chosen d values).state.2.record? p.node =
      (d.record? p.node).map fun r =>
        if reached p then (p.remaining (writes p)).amend context values r else r := by
  rcases h.present with hgone | hfits
  · obtain ⟨markup, mount, hstate⟩ := h.state_updateWith_of_gone hgone chosen values
    rw [hstate, Document.content?_eq_none_iff.1 (hgone p hp)]
    rfl
  · obtain ⟨markup, mount, hstate⟩ := h.state_updateWith hfits hchosen values
    rw [hstate]
    exact Part.record?_writeAll_filter context values (fun q => Part.node_remaining _ q)
      (apart_remaining h.nodup hfits writes) reached hp

/-- What listeners are added to the nodes of the parts. -/
theorem Following.registrationsAt_updateWith (h : Following parts context writes (t, d))
    (hchosen : ∀ i p, parts[i]? = some p → chosen (.ofParts parts) i = reached p)
    (values : List (Value H)) {p : Part} (hp : p ∈ parts) :
    (t.updateWith chosen d values).state.2.registrationsAt p.node =
      d.registrationsAt p.node ++
        if (d.content? p.node).isSome && reached p then
          (p.remaining (writes p)).registrations context values else [] := by
  rcases h.present with hgone | hfits
  · obtain ⟨markup, mount, hstate⟩ := h.state_updateWith_of_gone hgone chosen values
    simp [hstate, hgone p hp]
  · obtain ⟨c, hc, -⟩ := hfits p hp
    obtain ⟨r, hr, -⟩ := Option.map_eq_some_iff.1 hc
    have hrecord := h.record?_updateWith hchosen values hp
    rw [hr, Option.map_some] at hrecord
    rw [Document.registrationsAt_of_record? hrecord, Document.registrationsAt_of_record? hr, hc]
    cases reached p with
    | false => simp
    | true => rfl

/-- What becomes of the attributes that were bound. -/
theorem Following.attribute?_updateWith (h : Following parts context writes (t, d))
    (hchosen : ∀ i p, parts[i]? = some p → chosen (.ofParts parts) i = reached p)
    (values : List (Value H)) {p : AttributePart} (hp : Part.attributes p ∈ parts)
    {e : Element} (he : d.content? p.element = some (.element e)) (name : String) :
    (t.updateWith chosen d values).state.2.attribute? p.element name =
      (if reached (.attributes p) then AttributePart.rewrite values values
          (AttributePart.remaining (writes (.attributes p)) p.bindings.entries) e
        else e).attributes.get? name := by
  obtain ⟨r, hr, hcontent⟩ := Option.map_eq_some_iff.1 he
  have hrecord := h.record?_updateWith hchosen values hp
  have hr' : d.record? (Part.attributes p).node = some r := hr
  rw [hr', Option.map_some] at hrecord
  refine Document.attribute?_of_content? ?_ name
  refine (congrArg (Option.map Record.content) hrecord).trans ?_
  cases reached (.attributes p) with
  | false => exact congrArg some hcontent
  | true =>
    simp only [if_true, Option.map_some, Part.amend, hcontent]
    rfl

/-- The nodes that are there stay as they are, but for what is written into them. -/
theorem Following.fits_updateWith (h : Following parts context writes (t, d))
    (hchosen : ∀ i p, parts[i]? = some p → chosen (.ofParts parts) i = reached p)
    (values : List (Value H)) {p : Part} (hp : p ∈ parts) {c : Content}
    (hc : d.content? p.node = some c) (hfit : p.Fits c) :
    ∃ c', (t.updateWith chosen d values).state.2.content? p.node = some c' ∧ p.Fits c' := by
  obtain ⟨r, hr, rfl⟩ := Option.map_eq_some_iff.1 hc
  have hrecord := h.record?_updateWith hchosen values hp
  rw [hr, Option.map_some] at hrecord
  refine ⟨_, congrArg (Option.map Record.content) hrecord, ?_⟩
  cases reached p with
  | false => exact hfit
  | true =>
    have hfit' := Part.fits_rewrite values values ((Part.fits_remaining (writes p)).2 hfit)
    rw [Part.kept_remaining] at hfit'
    exact (Part.fits_remaining _).1 hfit'

/-- **One write of some parts.** -/
theorem Following.updateWith (h : Following parts context writes (t, d))
    (hchosen : ∀ i p, parts[i]? = some p → chosen (.ofParts parts) i = reached p)
    (values : List (Value H)) :
    Following parts context
      (fun p => writes p ++ if (d.content? p.node).isSome && reached p then [values] else [])
      (t.updateWith chosen d values).state := by
  have hops := Document.operations_updateWith d chosen t values
  have hreachable := h.reachable.operations hops
  have hknown := h.known_of_operations hops
  rcases h.present with hgone | hfits
  · obtain ⟨markup, mount, hstate⟩ := h.state_updateWith_of_gone hgone chosen values
    have hsame : Following parts context writes (t.updateWith chosen d values).state := by
      rw [hstate]
      exact ⟨h.reachable, h.known, h.nodup, h.proper, ⟨markup, mount, rfl⟩, h.present, h.absent⟩
    exact hsame.congr fun p hp => by simp [hgone p hp]
  · have hthere : ∀ p ∈ parts, (d.content? p.node).isSome = true := by
      intro p hp
      obtain ⟨c, hc, -⟩ := hfits p hp
      exact Option.isSome_of_eq_some hc
    obtain ⟨markup, mount, hstate⟩ := h.state_updateWith hfits hchosen values
    refine ⟨hreachable, hknown, h.nodup, h.proper, ⟨markup, mount, ?_⟩, Or.inr fun p hp => ?_, ?_⟩
    · rw [hstate]
      simp only [Stage.rendered.injEq, Rendered.mk.injEq, and_true, true_and]
      refine List.map_congr_left fun p hp => ?_
      rw [hthere p hp]
      cases reached p <;> simp
    · obtain ⟨c, hc, hfit⟩ := hfits p hp
      exact h.fits_updateWith hchosen values hp hc hfit
    · intro p hp entry hentry hafter
      obtain ⟨c, hc, hfit⟩ := hfits _ hp
      cases c with
      | fragment | text | comment | shadowRoot => exact absurd hfit (by simp [Part.Fits])
      | element e =>
        have he : d.content? p.element = some (.element e) := hc
        have hbefore := h.absent p hp entry hentry
        rw [Document.attribute?_of_content? he] at hbefore
        rw [h.attribute?_updateWith hchosen values hp he]
        rw [hthere _ hp, Bool.true_and] at hafter
        cases hreached : reached (.attributes p) with
        | false => exact hbefore (by simpa [hreached] using hafter)
        | true =>
          exact AttributePart.get?_rewrite_remaining (h.proper _ hp).1 hentry hbefore
            (by simpa [hreached] using hafter)

end Step

variable {s : Template L H × Document L} {call : Call L H}

theorem Call.writing?_of_not_isOwn (h : call.isOwn = false) (p : Part) (d : Document L) :
    call.writing? p d = none := by
  cases call with
  | elsewhere change => simp [writing?, valuesFor?]
  | update values | updateSlots values changed => cases h

theorem Call.writing?_of_valuesFor? {p : Part} {reached : Part → Bool}
    (h : call.valuesFor? p = if reached p then some values else none) (d : Document L) :
    call.writing? p d =
      if (d.content? p.node).isSome && reached p then some values else none := by
  unfold writing?
  rw [h]
  cases (d.content? p.node).isSome <;> simp

/-- **What a call of the template makes of the nodes of the parts**: it writes what is bound
still, where it comes to the part, and leaves them as they are elsewhere. -/
theorem Following.record?_run (h : Following parts context writes s) (hown : call.isOwn = true)
    {p : Part} (hp : p ∈ parts) :
    (call.run s).2.record? p.node = (s.2.record? p.node).map fun r =>
      (call.writing? p s.2).elim r fun values =>
        (p.remaining (writes p)).amend context values r := by
  obtain ⟨chosen, reached, values, hrun, hvalues, hchosen⟩ := call.exists_updateWith hown parts
  rw [hrun, h.record?_updateWith hchosen values hp, call.writing?_of_valuesFor? (hvalues p)]
  unfold Document.content?
  cases s.2.record? p.node with
  | none => rfl
  | some r => cases reached p <;> rfl

/-- The listeners that a call of the template adds. -/
theorem Following.registrationsAt_run (h : Following parts context writes s)
    (hown : call.isOwn = true) {p : Part} (hp : p ∈ parts) :
    (call.run s).2.registrationsAt p.node = s.2.registrationsAt p.node ++
      (call.writing? p s.2).elim [] ((p.remaining (writes p)).registrations context) := by
  obtain ⟨chosen, reached, values, hrun, hvalues, hchosen⟩ := call.exists_updateWith hown parts
  rw [hrun, h.registrationsAt_updateWith hchosen values hp,
    call.writing?_of_valuesFor? (hvalues p)]
  split <;> rfl

/-- **One call.** -/
theorem Following.step (h : Following parts context writes s) (hspare : call.Spares parts s) :
    Following parts context (fun p => writes p ++ (call.writing? p s.2).toList) (call.run s) := by
  cases hown : call.isOwn with
  | false =>
    simp only [call.writing?_of_not_isOwn hown, Option.toList_none, List.append_nil]
    cases call with
    | elsewhere change => exact h.elsewhere hspare
    | update values | updateSlots values changed => cases hown
  | true =>
    obtain ⟨chosen, reached, values, hrun, hvalues, hchosen⟩ := call.exists_updateWith hown parts
    have hwrites : (fun p => writes p ++ (call.writing? p s.2).toList) = fun p =>
        writes p ++ if (s.2.content? p.node).isSome && reached p then [values] else [] := by
      funext p
      rw [call.writing?_of_valuesFor? (hvalues p)]
      split <;> rfl
    rw [hrun, hwrites]
    exact h.updateWith hchosen values

/-! ### Calls one after the other -/

theorem Following.run (h : Following parts context writes s) {calls : List (Call L H)}
    (hcalls : AllSpare parts s calls) :
    Following parts context (fun p => writes p ++ writesTo p s calls) (run s calls) := by
  induction calls generalizing s writes with
  | nil =>
    simp only [writesTo, List.append_nil]
    exact h
  | cons call rest ih =>
    have hrest := ih (h.step hcalls.1) hcalls.2
    simp only [List.append_assoc] at hrest
    exact hrest

/-- **What the template adds in a run is one listener for each attribute that a write has a
handler for.** -/
theorem Following.gained (h : Following parts context writes s) {calls : List (Call L H)}
    (hcalls : AllSpare parts s calls) {p : AttributePart} (hp : Part.attributes p ∈ parts) :
    (AttributePart.conversions context (writes (.attributes p)) p.bindings.entries ++
        gained p.element s calls).Perm
      (AttributePart.conversions context
        (writes (.attributes p) ++ writesTo (.attributes p) s calls) p.bindings.entries) := by
  induction calls generalizing s writes with
  | nil => simp [Template.gained, writesTo]
  | cons call rest ih =>
    have hadded : (if call.isOwn then ((call.run s).2.registrationsAt p.element).drop
          (s.2.registrationsAt p.element).length else []) =
        (call.writing? (.attributes p) s.2).elim []
          (((Part.attributes p).remaining (writes (.attributes p))).registrations context) := by
      cases hown : call.isOwn with
      | false => rw [call.writing?_of_not_isOwn hown]; rfl
      | true =>
        have hall := h.registrationsAt_run hown hp
        change (call.run s).2.registrationsAt p.element = s.2.registrationsAt p.element ++ _ at hall
        rw [hall, if_pos rfl, List.drop_left]
    have hrest := ih (h.step hcalls.1) hcalls.2
    rw [Template.gained, writesTo, hadded, ← List.append_assoc, ← List.append_assoc]
    refine (List.Perm.append_right _ ?_).trans hrest
    cases call.writing? (.attributes p) s.2 with
    | none => simp
    | some values => exact AttributePart.conversions_concat context values p.bindings.entries

/-! ### The first render -/

/-- The parts that a first render finds. -/
def discovered (t : Template L H) (d : Document L) : Except TemplateError (List Part) :=
  match t.materialize d with
  | ((t, d), .ok x) => Part.discover d x t.slots
  | (_, .error e) => .error e

theorem values_materialize (t : Template L H) (d : Document L) :
    (t.materialize d).1.1.values = t.values := by
  unfold materialize compile markup?
  cases hstage : t.stage <;> simp [Stage.markup?, hstage]

theorem isRendered_of_render {mount : Option NodeId} {s : Template L H × Document L}
    (h : t.render d context mount = .done s) :
    t.isRendered = false ∧ s.1.isRendered = true := by
  unfold render at h
  split at h
  · exact absurd (congrArg Attempt.stopped h) nofun
  · next hnot =>
    refine ⟨Bool.eq_false_iff.2 hnot, ?_⟩
    split at h
    · exact absurd (congrArg Attempt.stopped h) nofun
    · simp only at h
      split at h
      · unfold discard at h
        simp only at h
        split at h <;> exact absurd (congrArg Attempt.stopped h) nofun
      · split at h
        · exact absurd (congrArg Attempt.stopped h) nofun
        · obtain rfl : _ = s := congrArg Attempt.state h
          rfl

theorem records_attach (hd : d.WellFormed) (mount x : NodeId) :
    (attach mount x d).state.records = d.records := by
  obtain ⟨f, -, hmoved⟩ := Document.rearranged_append hd (d.mountPoint mount) x
  have hrecords : (d.append (d.mountPoint mount) x).state.records = d.records := by
    rw [hmoved]
  show ((d.append (d.mountPoint mount) x).andThen fun d =>
    .ofExcept d (d.remove x)).state.records = d.records
  unfold Attempt.andThen
  split
  · show (Attempt.ofExcept _ (Document.remove _ x)).state.records = d.records
    cases hremove : (d.append (d.mountPoint mount) x).state.remove x with
    | error e => exact hrecords
    | ok d' => exact (Document.exists_of_remove hremove).2.2.trans hrecords
  · exact hrecords

/-- What a render that went through did. -/
theorem exists_of_render (hd : d.WellFormed) {mount : Option NodeId}
    {s : Template L H × Document L} (h : t.render d context mount = .done s) :
    ∃ (t₁ : Template L H) (d₁ : Document L) (x : NodeId) (kids : Forest NodeId),
      t.materialize d = ((t₁, d₁), .ok x) ∧ d₁.WellFormed ∧ d₁.forest.below? x = some kids ∧
      (∀ id ∈ kids.labels, (d₁.contentAt id).MarkersBelow t₁.slots) ∧
      (attach (mount.getD context.host) x (t₁.written context kids d₁)).stopped = none ∧
      s = (t₁.mounted context (mount.getD context.host) (d₁.partsOf kids.labels),
        (attach (mount.getD context.host) x (t₁.written context kids d₁)).state) := by
  obtain ⟨ht, hs⟩ := isRendered_of_render h
  obtain ⟨t₁, d₁, x, hmade, ht₁, hd₁⟩ := exists_materialize hd ht
  have hstate : ∀ {a : Attempt TemplateError (Template L H × Document L)},
      t.render d context mount = a → a.state.1.isRendered = true := by
    rintro a rfl
    rw [h]
    exact hs
  cases hk : d₁.forest.below? x with
  | none =>
    have hgone : d₁.contains x = false := by
      rw [Document.contains_eq_false_iff, ← Forest.isSome_below?, hk]
      exact Bool.false_ne_true
    have hnot := isRendered_render_of_gone context mount ht hmade ht₁ hgone
    rw [hstate rfl] at hnot
    cases hnot
  | some kids =>
    by_cases hmarkers : ∀ id ∈ kids.labels, (d₁.contentAt id).MarkersBelow t₁.slots
    · have hrender := render_of_fragment context mount ht hmade hd₁ hk hmarkers
      rw [h] at hrender
      split at hrender
      · exact absurd (congrArg Attempt.stopped hrender) nofun
      · next hstopped =>
        exact ⟨t₁, d₁, x, kids, hmade, hd₁, hk, hmarkers, hstopped,
          congrArg Attempt.state hrender⟩
    · obtain ⟨e, hdiscard, -⟩ := render_of_bad_marker context mount ht hmade hd₁ hk hmarkers
      have hnot := isRendered_discard t₁ t₁.compile.2 x d₁ e
      rw [hstate hdiscard] at hnot
      cases hnot

/-- A template with its parts in place, before anything is written. -/
def unwritten (context : Context L H) (t : Template L H) (mount : NodeId) (parts : List Part) :
    Template L H :=
  { t with stage := .rendered t.compile.2 ⟨parts, .ofParts parts, mount, context⟩ }

theorem following_unwritten (hd : d.Reachable) (context : Context L H) (t : Template L H)
    (mount : NodeId) (hready : Part.Ready parts d) :
    Following parts context (fun _ => []) (t.unwritten context mount parts, d) where
  reachable := hd
  known := by
    intro p hp
    obtain ⟨c, hc, -⟩ := hready.fits p hp
    exact hd.wellFormed.lt_size (Document.contains_of_content? hc)
  nodup := hready.nodup
  proper := hready.proper
  rendered := ⟨t.compile.2, mount, by simp [unwritten]⟩
  present := Or.inr hready.fits
  absent _ _ _ _ hconversion := absurd rfl hconversion

theorem Call.writing?_update {p : Part} (h : ∃ c, d.content? p.node = some c ∧ p.Fits c)
    (values : List (Value H)) :
    (Call.update values : Call L H).writing? p d = some values := by
  obtain ⟨c, hc, -⟩ := h
  simp [writing?, valuesFor?, hc]

/-- The first write of all parts. -/
theorem following_written (hd : d.Reachable) (context : Context L H) (t : Template L H)
    (mount : NodeId) (hready : Part.Ready parts d) :
    Following parts context (fun _ => [t.values])
        (t.mounted context mount parts, Part.writeAll context t.values parts d) ∧
      ∀ p ∈ parts, (Part.writeAll context t.values parts d).registrationsAt p.node =
        d.registrationsAt p.node ++ p.registrations context t.values := by
  have hbefore := following_unwritten hd context t mount hready
  have hstate : Call.run (t.unwritten context mount parts, d) (.update t.values) =
      ((t.unwritten context mount parts).adopting t.compile.2 _ t.values _, _) :=
    state_update_of_ready rfl hready t.values
  have hspare : Call.Spares parts (t.unwritten context mount parts, d) (.update t.values) :=
    trivial
  have hafter := hbefore.step hspare
  rw [hstate] at hafter
  have hmounted : Following parts context _
      (t.mounted context mount parts, Part.writeAll context t.values parts d) :=
    hafter.of_content? (Document.Operations.refl _) rfl (Or.inr fun _ _ => rfl)
  refine ⟨hmounted.congr fun p hp => ?_, fun p hp => ?_⟩
  · rw [Call.writing?_update (hready.fits p hp)]
    rfl
  · have hown : (Call.update t.values : Call L H).isOwn = true := rfl
    have hadded := hbefore.registrationsAt_run hown hp
    rw [Call.writing?_update (hready.fits p hp), hstate] at hadded
    simpa using hadded

/-- **A render that went through is the first write of all parts.** -/
theorem following_render (hd : d.Reachable) {mount : Option NodeId}
    {s : Template L H × Document L} (h : t.render d context mount = .done s) :
    ∃ parts, t.discovered d = .ok parts ∧ Following parts context (fun _ => [t.values]) s ∧
      ∀ p ∈ parts, s.2.registrationsAt p.node =
        (t.materialize d).1.2.registrationsAt p.node ++ p.registrations context t.values := by
  obtain ⟨t₁, d₁, x, kids, hmade, hd₁, hk, hmarkers, hstopped, rfl⟩ :=
    exists_of_render hd.wellFormed h
  have hreachable : d₁.Reachable := by
    have hops := Document.operations_materialize d t
    rw [hmade] at hops
    exact hd.operations hops
  have hvalues : t₁.values = t.values := by
    have hsame := values_materialize t d
    rwa [hmade] at hsame
  obtain ⟨hwritten, hadded⟩ := following_written hreachable context t₁
    (mount.getD context.host) (ready_partsOf hd₁ hk)
  have hwf := wellFormed_written context t₁ hd₁ kids
  refine ⟨d₁.partsOf kids.labels, ?_, ?_, fun p hp => ?_⟩
  · unfold discovered
    rw [hmade]
    exact (Document.discover_eq_ok_iff hd₁ hk t₁.slots _).2 ⟨hmarkers, rfl⟩
  · have hbelow : (t₁.written context kids d₁).forest.below? x = some kids := by
      unfold written
      rw [Part.forest_writeAll]
      exact hk
    have hcontent := content?_attach hwf hbelow hstopped
    rw [← hvalues]
    have hattached := (Document.Operations.refl (t₁.written context kids d₁)).attach
      (mount.getD context.host) x
    refine hwritten.of_content? hattached rfl (hcontent.imp ?_ ?_)
    · exact fun hgone p hp => hgone p.node (Document.node_mem_of_mem_partsOf hp).1
    · exact fun hsame p hp => hsame p.node (Document.node_mem_of_mem_partsOf hp).1
  · have hrecords := records_attach hwf (mount.getD context.host) x
    have hsame := hadded p hp
    rw [hmade, ← hvalues, ← hsame]
    unfold Document.registrationsAt
    rw [hrecords]
    rfl

/-! ### Every run -/

/-- How far the attributes of a part have come with some writes of it, where `new` are the
listeners that the template added to the element. -/
structure Converted (context : Context L H) (p : AttributePart) (writes : List (List (Value H)))
    (new : List (Registration L)) (s : Template L H × Document L) : Prop where
  /-- An attribute that a write had a handler for has got one listener, and there are no others. -/
  added : new.Perm (AttributePart.conversions context writes p.bindings.entries)
  /-- It is not among the attributes of the element. -/
  absent : ∀ entry ∈ p.bindings.entries, entry.2.conversion? writes ≠ none →
    s.2.attribute? p.element entry.1 = none
  /-- A call of the template that comes to the part writes the other attributes, and does
  nothing else to the element. -/
  next : ∀ call : Call L H, call.isOwn = true →
    (call.run s).2.record? p.element = (s.2.record? p.element).map fun r =>
      (call.writing? (.attributes p) s.2).elim r fun values =>
        ((Part.attributes p).remaining writes).amend context values r

/-- **An attribute becomes a listener once.**  After a render that went through and any calls
that spare the parts, each attribute that was found bound has become a listener if some
write of its part had a handler for it, the first render counting as a write; it has got the
handler of the first such write, once, and is bound no longer.  The others are bound as they
were. -/
theorem converted_run {d : Document L} (hd : d.Reachable) {t : Template L H}
    {context : Context L H} {mount : Option NodeId} {s : Template L H × Document L}
    (hrender : t.render d context mount = .done s) :
    ∃ parts, t.discovered d = .ok parts ∧ (∀ p ∈ parts, p.Proper) ∧
      ∀ calls, AllSpare parts s calls →
        (run s calls).1.parts =
          parts.map (fun p => p.remaining (t.values :: writesTo p s calls)) ∧
        ∀ p, Part.attributes p ∈ parts → ∃ first,
          s.2.registrationsAt p.element =
            (t.materialize d).1.2.registrationsAt p.element ++ first ∧
          Converted context p (t.values :: writesTo (.attributes p) s calls)
            (first ++ gained p.element s calls) (run s calls) := by
  obtain ⟨parts, hfound, hfirst, hadded⟩ := following_render hd hrender
  refine ⟨parts, hfound, hfirst.proper, fun calls hcalls => ?_⟩
  have hlast := hfirst.run hcalls
  refine ⟨?_, fun p hp => ⟨_, hadded _ hp, ?_, hlast.absent p hp, fun call hown => ?_⟩⟩
  · obtain ⟨markup, mount, hstage⟩ := hlast.rendered
    unfold Template.parts rendered?
    rw [hstage]
    rfl
  · have hall := hfirst.gained hcalls hp
    rw [AttributePart.conversions_singleton] at hall
    exact hall
  · exact hlast.record?_run hown hp

/-- A greeting that cannot be clicked on at first. -/
def sampleWaiting : Template Nat Nat :=
  ofStrings ["<p @click=\"", "\">Hello, ", "</p>"] [.null, .text "Ada"]

/-- A handler comes, but only the name is written; it comes again, then others add a listener
of their own, and then another handler comes. -/
def sampleClicks : List (Call Nat Nat) :=
  [.updateSlots [.handler 7, .text "Bob"] [1], .update [.handler 8, .text "Bob"],
    .elsewhere fun d => (d.addListener ⟨2⟩ "click" 5).toOption.getD d,
    .updateSlots [.handler 9, .text "Bob"] [0]]

/-- Listeners that others add spare all parts. -/
theorem sparing_addListener (parts : List Part) (d : Document L) (id : NodeId) (kind : String)
    (listener : L) :
    Sparing parts d ((d.addListener id kind listener).toOption.getD d) := by
  cases hadded : d.addListener id kind listener with
  | error e =>
    exact ⟨Document.Operations.refl d, fun _ _ hlive => hlive, fun _ _ _ _ _ hvalue => hvalue⟩
  | ok d' =>
    refine ⟨(Document.Operation.addListener hadded).operations, ?_, ?_⟩
    · intro p hp hlive
      exact ((Document.rewritten_addListener hadded).contains_eq p.node).trans hlive
    · intro p hp entry hentry value hvalue
      exact (Document.attribute?_congr (Document.content?_addListener hadded _) _).symm.trans hvalue

/-- The attribute of the greeting. -/
def sampleClickPart : AttributePart :=
  ⟨⟨2⟩, ⟨[("@click", ⟨Marker.encode 0, [0], "@click", false⟩)]⟩⟩

/-- The template adds the handler of the first write that came to the attribute, and the
attribute is gone. -/
theorem converted_run_sampleClicks :
    ∃ s, sampleWaiting.render samplePage ⟨⟨0⟩, id⟩ none = .done s ∧
      gained ⟨2⟩ s sampleClicks = [⟨"click", 8⟩] ∧
      (run s sampleClicks).2.attribute? ⟨2⟩ "@click" = none := by
  obtain ⟨s, hs⟩ : ∃ s, s = (sampleWaiting.render samplePage ⟨⟨0⟩, id⟩ none).state := ⟨_, rfl⟩
  have hrender : sampleWaiting.render samplePage ⟨⟨0⟩, id⟩ none = .done s := by
    rw [hs]
    exact Attempt.eq_done (by decide +kernel)
  have hparts : sampleWaiting.discovered samplePage = .ok
      [.attributes sampleClickPart, .content ⟨⟨3⟩, "Hello, " ++ Marker.encode 1, [1]⟩] := by
    decide +kernel
  obtain ⟨parts, hfound, -, hall⟩ := converted_run reachable_samplePage hrender
  obtain rfl := Except.ok.inj (hfound.symm.trans hparts)
  have hspare : AllSpare [.attributes sampleClickPart,
      .content ⟨⟨3⟩, "Hello, " ++ Marker.encode 1, [1]⟩] s sampleClicks :=
    ⟨trivial, trivial, sparing_addListener _ _ _ _ _, trivial, trivial⟩
  obtain ⟨first, hfirst, hadded, habsent, -⟩ := (hall _ hspare).2 _ (List.mem_cons_self ..)
  have hbefore : (sampleWaiting.materialize samplePage).1.2.registrationsAt
        sampleClickPart.element = [] ∧ s.2.registrationsAt sampleClickPart.element = [] := by
    rw [hs]
    decide +kernel
  rw [hbefore.1, hbefore.2, List.nil_append] at hfirst
  have hconversions : AttributePart.conversions (⟨⟨0⟩, id⟩ : Context Nat Nat)
      (sampleWaiting.values :: writesTo (.attributes sampleClickPart) s sampleClicks)
      sampleClickPart.bindings.entries = [⟨"click", 8⟩] := by
    rw [hs]
    decide +kernel
  rw [← hfirst, List.nil_append, hconversions, List.perm_singleton] at hadded
  refine ⟨s, hrender, hadded, habsent ("@click", _) (List.mem_cons_self ..) ?_⟩
  rw [hs]
  decide +kernel

end Template

end LiveMarkup
