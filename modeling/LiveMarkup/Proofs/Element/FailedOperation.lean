/-
What a failed operation on a host leaves.

A host never changes sides on a failure: it is connected afterwards if it was before, and to
the same element.  What is left in the document depends on how far the operation came.

A new host has its element when its component first sees it, so all that is different after
a refusal is this element and what the component did (`Made`).  A set that is refused outright
does nothing.  After that the attribute has been written, and it stays so when the component
will not render or the template will not update; the template then is what a failed update
leaves (`SetFailure`).  A connect changes nothing but through the first render of the
template, and that takes out what it made if a marker is bad.
-/
import LiveMarkup.Proofs.Element.Sync
import LiveMarkup.Proofs.Template.BadMarkers
import LiveMarkup.Proofs.Template.Commuting
import LiveMarkup.Proofs.Template.FailedUpdate

namespace LiveMarkup

variable {L H σ : Type}

namespace Host

variable {c : Component L H σ} {h : Host L H} {d d₁ : Document L} {s : σ} {name : String}
  {v : Value H} {e : ElementError} {s' : Host L H × Document L × σ}

/-! ### Making a host -/

/-- The document with one more node, the detached element of a new host. -/
structure Made (c : Component L H σ) (d d₁ : Document L) (node : NodeId) : Prop where
  new : d.contains node = false
  forest : d₁.forest = d.forest ++ .tree node .nil
  held : d₁.held? node = some (.element { tag := c.tag }, [])
  others : ∀ id, d.contains id = true → d₁.record? id = d.record? id

theorem made_create (hd : d.WellFormed) (c : Component L H σ) (listener : H → L) :
    Made c d (create c listener d).2 (create c listener d).1.node where
  new := Document.contains_eq_false_iff.2 (Document.nextId_not_mem hd)
  forest := rfl
  held := by
    have hlive : (d.plant (.tree (.element { tag := c.tag }) .nil)).contains d.nextId = true := by
      rw [Document.contains_iff, Document.forest_plant, Forest.labels_append]
      exact List.mem_append_right _ (Document.mem_labels_sprouts.2
        ⟨Nat.le_refl _, Nat.lt_add_of_pos_right (by simp [Forest.tree, Forest.size])⟩)
    show Document.held? (d.plant (.tree (.element { tag := c.tag }) .nil)) d.nextId = _
    unfold Document.held? Document.record?
    rw [if_pos hlive, show d.nextId.index = d.records.size + 0 from rfl,
      Document.getElem?_records_plant_add]
    rfl
  others id hid := hd.record?_plant hid _

/-! ### Writing an attribute -/

/-- A write that went through has changed no other node, in nothing. -/
theorem sameOn_write (hwrite : h.write c d name v = .ok d₁) : d.SameOn {h.node}ᶜ d₁ := by
  unfold write at hwrite
  cases hbound : c.boundNamed name with
  | error e => rw [hbound] at hwrite; cases hwrite
  | ok b =>
    rw [hbound] at hwrite
    obtain ⟨change, hchange⟩ : ∃ change, (d.modifyElement h.node change).mapError
        ElementError.document = .ok d₁ := by
      simp only [Except.bind] at hwrite
      split at hwrite
      · exact ⟨_, hwrite⟩
      · exact ⟨_, hwrite⟩
    have hout : h.node ∉ ({h.node}ᶜ : Set NodeId) := fun hc => hc rfl
    cases hmodified : d.modifyElement h.node change with
    | error e => rw [hmodified] at hchange; cases hchange
    | ok d' =>
      rw [hmodified] at hchange
      cases hchange
      exact (Document.localAt_modifyElement h.node change).sameOn (.refl _ d) hout hmodified

/-- Where a set can fail, and what it leaves there. -/
inductive SetFailure (c : Component L H σ) (h : Host L H) (d : Document L) (s : σ) (name : String)
    (v : Value H) : ElementError → Host L H × Document L × σ → Prop
  /-- The attribute is not bound, or the host is no element any longer. -/
  | refused {e : ElementError} (hwrite : h.write c d name v = .error e) :
      SetFailure c h d s name v e (h, d, s)
  /-- The attribute was written, but the host is rendering. -/
  | inUse {d₁ : Document L} (hwrite : h.write c d name v = .ok d₁)
      (hattached : h.attachment = .inUse) : SetFailure c h d s name v .reentrant (h, d₁, s)
  /-- The attribute was written, but the component does not render. -/
  | unrendered {d₁ : Document L} {t : Template L H} {e : ElementError} {s' : σ}
      (hwrite : h.write c d name v = .ok d₁) (hattached : h.attachment = .connected t)
      (hrender : c.render { h with attachment := .inUse } d₁ s = (.error e, s')) :
      SetFailure c h d s name v e (h, d₁, s')
  /-- The attribute was written, but the template does not go through with the update. -/
  | stopped {d₁ d₂ : Document L} {t t₂ fresh : Template L H} {e : TemplateError} {s' : σ}
      (hwrite : h.write c d name v = .ok d₁) (hattached : h.attachment = .connected t)
      (hrender : c.render { h with attachment := .inUse } d₁ s = (.ok fresh, s'))
      (hupdate : t.update d₁ fresh.values = .stop (t₂, d₂) e) :
      SetFailure c h d s name v (.template e) ({ h with attachment := .connected t₂ }, d₂, s')

/-- **There is no other way for a set to fail.** -/
theorem setFailure_of_stopped (hstop : (h.set c d s name v).stopped = some e) :
    SetFailure c h d s name v e (h.set c d s name v).state := by
  unfold Host.set at hstop ⊢
  cases hwrite : h.write c d name v with
  | error e' =>
    rw [hwrite] at hstop
    obtain rfl : e' = e := Option.some.inj hstop
    exact .refused hwrite
  | ok d₁ =>
    rw [hwrite] at hstop
    cases hattached : h.attachment with
    | unconnected => rw [hattached] at hstop; cases hstop
    | inUse =>
      rw [hattached] at hstop
      obtain rfl : .reentrant = e := Option.some.inj hstop
      exact .inUse hwrite hattached
    | connected t =>
      rw [hattached] at hstop
      simp only [refresh] at hstop ⊢
      cases hrender : c.render { h with attachment := .inUse } d₁ s with
      | mk result s' =>
        rw [hrender] at hstop
        cases result with
        | error e' =>
          obtain rfl : e' = e := Option.some.inj hstop
          exact .unrendered hwrite hattached hrender
        | ok fresh =>
          obtain ⟨e', hupdate, rfl⟩ := Option.map_eq_some_iff.1 hstop
          have hstate : t.update d₁ fresh.values = .stop (t.update d₁ fresh.values).state e' :=
            calc t.update d₁ fresh.values
                = ⟨(t.update d₁ fresh.values).state, (t.update d₁ fresh.values).stopped⟩ := rfl
              _ = .stop (t.update d₁ fresh.values).state e' := by rw [hupdate]; rfl
          exact .stopped hwrite hattached hrender hstate

/-- The nodes that are none of the host's: neither its element nor nodes of parts. -/
def others (h : Host L H) : Set NodeId :=
  {id | id ≠ h.node ∧ ∀ t, h.attachment = .connected t → id ∉ t.nodes}

/-- The host is as connected as it was and has its element; no node was moved, made or
removed; and nodes that are none of the host's have not changed at all. -/
structure Contained (h : Host L H) (d : Document L) (s' : Host L H × Document L × σ) : Prop where
  node : s'.1.node = h.node
  connected : s'.1.isConnected = h.isConnected
  forest : s'.2.1.forest = d.forest
  others : d.SameOn h.others s'.2.1

theorem contained_of_write (hwrite : h.write c d name v = .ok d₁) (s : σ) :
    Contained h d (h, d₁, s) where
  node := rfl
  connected := rfl
  forest := (untouched_of_write hwrite).1
  others :=
    have hsame := sameOn_write hwrite
    ⟨hsame.forest, hsame.vacant, hsame.size, fun id hid => hsame.record id hid.1⟩

/-- **A set that fails stays within the host.** -/
theorem SetFailure.contained (hfailure : SetFailure c h d s name v e s') : Contained h d s' := by
  cases hfailure with
  | refused hwrite => exact ⟨rfl, rfl, rfl, .refl _ d⟩
  | inUse hwrite hattached => exact contained_of_write hwrite _
  | unrendered hwrite hattached hrender => exact contained_of_write hwrite _
  | @stopped d₁ d₂ t t₂ fresh e s₂ hwrite hattached hrender hupdate =>
    obtain ⟨-, -, hforest, hothers⟩ := contained_of_write hwrite s
    have hupdated : d₂ = (t.update d₁ fresh.values).state.2 := by rw [hupdate]; rfl
    have houtside : h.others ⊆ (t.nodes)ᶜ := fun id hid => hid.2 t hattached
    have hsame := Template.sameOn_updateWith houtside (fun _ _ => true) d₁ fresh.values
    change d₁.SameOn h.others (t.update d₁ fresh.values).state.2 at hsame
    rw [← hupdated] at hsame
    refine ⟨rfl, ?_, hsame.forest.trans hforest, hothers.trans hsame⟩
    show true = h.isConnected
    unfold Host.isConnected
    rw [hattached]

/-! ### Connecting -/

/-- All that connecting does to a document are operations. -/
theorem operations_connect (c : Component L H σ) (h : Host L H) (d : Document L) (s : σ) :
    d.Operations (h.connect c d s).state.2.1 := by
  unfold Host.connect
  split
  · exact .refl d
  · exact .refl d
  · split
    · exact .refl d
    · next t _ _ =>
      have hrendered := Document.operations_render d t h.context none
      simp only
      split
      · exact hrendered
      · exact hrendered

/-- A connect that fails leaves the host alone, and the document too unless the template was
to go where nothing can go. -/
theorem unchanged_of_connect (hd : d.WellFormed)
    (hstop : (h.connect c d s).stopped = some e) :
    (h.connect c d s).state.1 = h ∧
      ((∀ t s₁, c.render { h with attachment := .inUse } d s = (.ok t, s₁) →
          t.Unbuilt ∨ t.isRendered = true) →
        (∀ e', e ≠ .template (.document e')) →
        (h.connect c d s).state.2.1.forest = d.forest ∧
          ∀ id, (h.connect c d s).state.2.1.record? id = d.record? id) := by
  unfold Host.connect at hstop ⊢
  cases hattached : h.attachment with
  | inUse => exact ⟨rfl, fun _ _ => ⟨rfl, fun _ => rfl⟩⟩
  | connected t => exact ⟨rfl, fun _ _ => ⟨rfl, fun _ => rfl⟩⟩
  | unconnected =>
    rw [hattached] at hstop
    cases hrender : c.render { h with attachment := .inUse } d s with
    | mk result s₁ =>
      rw [hrender] at hstop
      cases result with
      | error e' => exact ⟨rfl, fun _ _ => ⟨rfl, fun _ => rfl⟩⟩
      | ok t =>
        simp only at hstop ⊢
        cases hstopped : (t.render d h.context none).stopped with
        | none => rw [hstopped] at hstop; cases hstop
        | some e' =>
          rw [hstopped] at hstop
          obtain rfl : .template e' = e := Option.some.inj hstop
          refine ⟨rfl, fun hfresh hnot => ?_⟩
          rcases hfresh t s₁ rfl with ht | ht
          · cases hfault : Markup.fault? t.compile.2 t.slots with
            | none =>
              obtain ⟨e'', rfl⟩ := Template.exists_document_of_no_fault hd ht hfault hstopped
              exact absurd rfl (hnot e'')
            | some e'' =>
              obtain ⟨d', hdone, hforest, hrecord⟩ :=
                Template.render_of_fault hd ht hfault h.context none
              rw [hdone]
              exact ⟨hforest, hrecord⟩
          · have hrefused : t.render d h.context none = .stop (t, d) .alreadyRendered := by
              unfold Template.render
              rw [if_pos ht]
            rw [hrefused]
            exact ⟨rfl, fun _ => rfl⟩

/-! ### All of them -/

/-- **What failed operations on hosts leave.**  Making a host fails when its component does, and
then all that is there is what the component left, besides an element that was detached and
had nothing when the component got it.  A set that fails stays within the host and leaves one
of the states of `SetFailure`.  A connect that fails leaves the host alone, and the document
too unless the template had no place to go. -/
theorem failed_operations {d : Document L} (hd : d.Reachable) (c : Component L H σ)
    (h : Host L H) (s : σ) :
    (∀ (listener : H → L)
        (created : Host L H → Document L → σ → Attempt ElementError (Document L × σ))
        (e : ElementError), (make c listener created d s).stopped = some e →
        ∃ (node : NodeId) (d₁ : Document L), Made c d d₁ node ∧
          created { node, listener } d₁ s =
            .stop (make c listener created d s).state.2 e) ∧
    (∀ (name : String) (v : Value H) (e : ElementError),
        (h.set c d s name v).stopped = some e →
        Contained h d (h.set c d s name v).state ∧
          SetFailure c h d s name v e (h.set c d s name v).state) ∧
    ∀ e : ElementError, (h.connect c d s).stopped = some e →
      (h.connect c d s).state.1 = h ∧
        ((∀ t s₁, c.render { h with attachment := .inUse } d s = (.ok t, s₁) →
            t.Unbuilt ∨ t.isRendered = true) →
          (∀ e', e ≠ .template (.document e')) →
          (h.connect c d s).state.2.1.forest = d.forest ∧
            ∀ id, (h.connect c d s).state.2.1.record? id = d.record? id) := by
  refine ⟨fun listener created e hstop => ?_, fun name v e hstop => ?_, fun e hstop => ?_⟩
  · refine ⟨_, _, made_create hd.wellFormed c listener, ?_⟩
    have hcreated : (created (create c listener d).1 (create c listener d).2 s).stopped = some e :=
      hstop
    calc created (create c listener d).1 (create c listener d).2 s
        = ⟨(created (create c listener d).1 (create c listener d).2 s).state,
            (created (create c listener d).1 (create c listener d).2 s).stopped⟩ := rfl
      _ = .stop (make c listener created d s).state.2 e := by rw [hcreated]; rfl
  · exact ⟨(setFailure_of_stopped hstop).contained, setFailure_of_stopped hstop⟩
  · exact unchanged_of_connect hd.wellFormed hstop

end Host

/-! ### A worn counter -/

namespace Session

/-- The page of the counter after the text with the count was taken out. -/
def sampleWorn : Document Listener :=
  (sampleConnected.2.1.remove ⟨3⟩).toOption.getD sampleConnected.2.1

theorem reachable_sampleWorn : sampleWorn.Reachable := by
  have hconnected : sampleConnected.2.1.Reachable :=
    reachable_sampleHost.operations
      (Host.operations_connect sampleCounter.component sampleHost.1 sampleHost.2 {})
  unfold sampleWorn
  cases hremove : sampleConnected.2.1.remove ⟨3⟩ with
  | error e => exact hconnected
  | ok d' => exact hconnected.operations (Document.Operation.remove hremove).operations

/-- The counter is told to count to two, but there is nothing left that could show it. -/
def sampleStuck : Attempt ElementError (Host Listener String × Document Listener × Progress) :=
  sampleConnected.1.set sampleCounter.component sampleWorn sampleConnected.2.2 "count" (.int 2)

/-- A counter whose component begins with an attribute that it does not bind. -/
def sampleMisbegun : Attempt ElementError (Host Listener String × Document Listener × Progress) :=
  Host.make sampleCounter.component (Listener.bound (.host 0))
    (fun h d s => (h.set sampleCounter.component d s "size" (.int 1)).map Prod.snd) {} {}

end Session

open Session

/-- The attribute of a set that failed is there all the same, and so is the element of a host
that was refused. -/
theorem Host.traces_sampleStuck :
    sampleStuck.stopped = some (.template (.document (.unknownNode ⟨3⟩))) ∧
      sampleWorn.attribute? ⟨0⟩ "count" = none ∧
      sampleStuck.state.2.1.attribute? ⟨0⟩ "count" = some "2" ∧
      sampleMisbegun.stopped = some (.unknownAttribute "size") ∧
      sampleMisbegun.state.2.1.contains ⟨0⟩ = true := by
  refine ⟨?_, ?_, ?_, ?_, ?_⟩
  all_goals decide +kernel

/-- What the counter leaves when it is set, when it is connected twice, and when it is not made
at all. -/
theorem Host.failed_operations_sampleStuck :
    (∃ node d₁, Made sampleCounter.component ({} : Document Listener) d₁ node) ∧
      Contained sampleConnected.1 sampleWorn sampleStuck.state ∧
      (sampleConnected.1.connect sampleCounter.component sampleWorn
        sampleConnected.2.2).state.1 = sampleConnected.1 := by
  obtain ⟨-, hset, hconnect⟩ := failed_operations reachable_sampleWorn sampleCounter.component
    sampleConnected.1 sampleConnected.2.2
  obtain ⟨hmake, -, -⟩ := failed_operations Document.Reachable.empty sampleCounter.component
    sampleConnected.1 ({} : Progress)
  have hstuck : sampleStuck.stopped = some (.template (.document (.unknownNode ⟨3⟩))) := by
    decide +kernel
  have hmisbegun : sampleMisbegun.stopped = some (.unknownAttribute "size") := by decide +kernel
  have htwice : (sampleConnected.1.connect sampleCounter.component sampleWorn
      sampleConnected.2.2).stopped = some .alreadyConnected := by decide +kernel
  obtain ⟨node, d₁, hmade, -⟩ := hmake _ _ _ hmisbegun
  exact ⟨⟨node, d₁, hmade⟩, (hset "count" (.int 2) _ hstuck).1, (hconnect _ htwice).1⟩

end LiveMarkup
