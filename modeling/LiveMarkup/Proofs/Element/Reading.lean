/-
Bound attributes read back.

A host keeps no values.  What is written goes into an attribute as text, or takes the attribute
out, and what is read is the text that is there, seen as the kind of the attribute has it.  So
there are three steps to reading back.  A write puts the text in its place and no other
(`attribute?_write`).  The rendering that follows leaves it there if no part of the template is
bound to it (`attribute?_refresh`).  And the text is read as what it was the text of, which is
about values and not about hosts.

The middle step is not to be had without a condition.  A component makes a template for each
rendering, and the nodes that the template has parts at are made for it, long after the host
was.  But a component that kept a fragment can be given the host to hold in it, and when it
hands that out, with a marker on the host, each rendering writes over what was set
(`get_of_set_sampleKept`).  No other component makes a host share an attribute with its
template, whatever happens between the calls (`Arises.unshared`).
-/
import LiveMarkup.Proofs.Element.FailedOperation
import LiveMarkup.Proofs.Value.Reading

namespace LiveMarkup

variable {L H σ : Type}

/-! ### Kinds of attributes -/

namespace Coercion

variable {v : Value H}

/-- The text that is written for a value, if any is. -/
def written? (v : Value H) : Option String := if v.isTruthy then some v.display else none

theorem apply_boolean_written? : (boolean.apply (written? v) : Value H) = .bool v.isTruthy := by
  unfold written?
  cases h : v.isTruthy with
  | false => rfl
  | true =>
    have hshown : v.display.isEmpty = false :=
      String.isEmpty_eq_false_iff.2 (Value.display_ne_empty h)
    show Value.bool (!v.display.isEmpty) = _
    rw [hshown]
    rfl

theorem apply_text_written? :
    (text.apply (written? v) : Value H) = if v.isTruthy then .text v.display else .null := by
  unfold written?
  split <;> rfl

theorem apply_number_written? (n : Int64) :
    (number.apply (written? (.int n : Value H)) : Value H) = if n = 0 then .null else .int n := by
  have htruthy : (Value.int n : Value H).isTruthy = !(n == 0) := rfl
  unfold written?
  rw [htruthy]
  by_cases h : n = 0
  · subst h
    rfl
  · rw [beq_eq_false_iff_ne.2 h, if_neg h]
    exact Value.readNumber_displayInt n

end Coercion

theorem Component.boundNamed_of_mem {c : Component L H σ} (hc : c.observed.Nodup)
    {b : BoundAttribute} (hb : b ∈ c.bound) : c.boundNamed b.name = .ok b := by
  have hfound : c.bound.find? (·.name == b.name) = some b := by
    cases hfirst : c.bound.find? (·.name == b.name) with
    | none =>
      have hnone := List.find?_eq_none.1 hfirst b hb
      simp at hnone
    | some b' =>
      have hname : b'.name = b.name := by simpa using List.find?_some hfirst
      rw [List.inj_on_of_nodup_map hc (List.mem_of_find?_eq_some hfirst) hb hname]
  unfold Component.boundNamed
  rw [hfound]

/-! ### Attributes that are written -/

/-- A part of the template is bound to the attribute of a node. -/
def Template.Binds (t : Template L H) (node : NodeId) (name : String) : Prop :=
  ∃ p : AttributePart, .attributes p ∈ t.parts ∧ p.element = node ∧ name ∈ p.bindings.names

namespace Document

variable {d d' : Document L} {id other : NodeId} {name : String}

/-- Putting something else into a node changes its attributes only. -/
theorem attribute?_put {old content : Content} (hold : d.content? id = some old)
    (hsame : other = id → (content.element?.bind fun e => e.attributes.get? name) =
      old.element?.bind fun e => e.attributes.get? name) :
    (d.put id content []).attribute? other name = d.attribute? other name := by
  by_cases hid : other = id
  · subst hid
    unfold attribute? element?
    rw [content?_put_self hold, hold]
    exact hsame rfl
  · exact attribute?_congr (content?_put_ne hid _) name

theorem attribute?_modifyElement {change : Element → Element}
    (hchange : other = id → ∀ e, (change e).attributes.get? name = e.attributes.get? name)
    (hd : d.modifyElement id change = .ok d') :
    d'.attribute? other name = d.attribute? other name := by
  cases he : d.element id with
  | error e =>
    unfold modifyElement at hd
    rw [he] at hd
    cases hd
  | ok e =>
    have hold := element_eq_ok_iff.1 he
    rw [modifyElement_of_element hold] at hd
    cases hd
    exact attribute?_put hold fun hid => hchange hid e

theorem attribute?_setText {s : String} (hd : d.setText id s = .ok d') :
    d'.attribute? other name = d.attribute? other name := by
  unfold setText at hd
  rw [setContent_eq_put, setContent_eq_put] at hd
  split at hd
  · next hold =>
    cases hd
    exact attribute?_put hold fun _ => rfl
  · next hold =>
    cases hd
    exact attribute?_put hold fun _ => rfl
  · cases hd
  · cases hd

/-- **Parts write to the attributes that they are bound to, and to no others.** -/
theorem keptByWriting_attribute? (values : List (Value H)) {t : Template L H}
    (hbinds : ¬ t.Binds id name) (text : Option String) :
    KeptByWriting values t.parts fun d : Document L => d.attribute? id name = text where
  setText _ h hd := (attribute?_setText hd).trans h
  setAttribute {d d' p entry} hp hentry h hd := by
    refine (attribute?_modifyElement (fun hid e => ?_) hd).trans h
    have hne : name ≠ entry.1 := by
      rintro rfl
      exact hbinds ⟨p, hp, hid.symm, List.mem_map_of_mem hentry⟩
    rw [OrderedMap.get?_insert, if_neg hne]
  removeAttribute {d d' p entry} hp hentry h hd := by
    refine (attribute?_modifyElement (fun hid e => ?_) hd).trans h
    have hne : name ≠ entry.1 := by
      rintro rfl
      exact hbinds ⟨p, hp, hid.symm, List.mem_map_of_mem hentry⟩
    rw [OrderedMap.get?_erase, if_neg hne]
  setProperty _ _ _ h hd := by
    refine Eq.trans ?_ h
    refine attribute?_modifyElement ?_ hd
    intro _ e
    rfl
  addListener _ h hd := (attribute?_congr (content?_addListener hd id) name).trans h

end Document

/-- An update leaves the attributes that no part is bound to. -/
theorem Template.attribute?_update {t : Template L H} {node : NodeId} {name : String}
    (h : ¬ t.Binds node name) (d : Document L) (values : List (Value H)) :
    (t.update d values).state.2.attribute? node name = d.attribute? node name := by
  have hkept := Document.keptByWriting_attribute? (L := L) values h (d.attribute? node name)
  unfold Template.update Template.updateWith
  split
  · next markup tree hstage =>
    exact hkept.updateChosen rfl tree.context _ 0 tree.parts
      fun p hp => parts_of_stage hstage ▸ hp
  · rfl

namespace Host

variable {c : Component L H σ} {h h' : Host L H} {d d' d₁ : Document L} {s s' : σ} {name : String}
  {v : Value H} {t : Template L H}

/-! ### Where a host comes from -/

/-- A template that was made into a fragment before is not rendered for a host that is below this
fragment and has a marker. -/
def Excludes (t : Template L H) (node : NodeId) (d : Document L) : Prop :=
  ∀ markup x, t.stage = .materialized markup x → node ∈ d.below x →
    Part.of? node (d.contentAt node) = none

/-- A component that builds its template from strings whenever it is asked hands out no fragment. -/
theorem excludes_ofStrings (strings : List String) (values : List (Value H)) (node : NodeId)
    (d : Document L) : Excludes (Template.ofStrings strings values) node d := nofun

/-- A host of the component and its document as they come to be.  Whatever is done with other
templates and other hosts comes as operations on the document, and the component may be in any
state whenever it is asked for something. -/
inductive Arises (c : Component L H σ) : Host L H → Document L → Prop
  | created {d : Document L} (hd : d.Reachable) (listener : H → L) :
      Arises c (create c listener d).1 (create c listener d).2
  | meanwhile {h : Host L H} {d d' : Document L} (hh : Arises c h d) (hops : d.Operations d') :
      Arises c h d'
  | connect {h : Host L H} {d : Document L} (hh : Arises c h d) (s : σ)
      (hown : ∀ t s', c.render { h with attachment := .inUse } d s = (.ok t, s') →
        Excludes t h.node d) :
      Arises c (h.connect c d s).state.1 (h.connect c d s).state.2.1
  | set {h : Host L H} {d : Document L} (hh : Arises c h d) (s : σ) (name : String)
      (v : Value H) :
      Arises c (h.set c d s name v).state.1 (h.set c d s name v).state.2.1

/-- The host is no node of its own template. -/
structure Apart (h : Host L H) (d : Document L) : Prop where
  reachable : d.Reachable
  known : h.node.index < d.records.size
  outside : ∀ t, h.attachment = .connected t → h.node ∉ t.nodes

theorem Apart.operations (hh : Apart h d) (hops : d.Operations d') : Apart h d' where
  reachable := hh.reachable.operations hops
  known := Nat.lt_of_lt_of_le hh.known (hh.reachable.steady hops).size
  outside := hh.outside

theorem Apart.of_attachment (hh : Apart h d) (hnode : h'.node = h.node)
    (hout : ∀ t, h'.attachment = .connected t → h.node ∉ t.nodes) : Apart h' d where
  reachable := hh.reachable
  known := hnode ▸ hh.known
  outside := hnode ▸ hout

theorem apart_create (hd : d.Reachable) (listener : H → L) :
    Apart (create c listener d).1 (create c listener d).2 where
  reachable := .create hd ⟨OrderedMap.distinct_empty, OrderedMap.distinct_empty⟩
  known := by
    show d.records.size < (d.plant (.tree (.element { tag := c.tag }) .nil)).records.size
    rw [Document.size_records_plant]
    exact Nat.lt_add_of_pos_right (by simp [Forest.tree, Forest.size])
  outside := nofun

/-- A first rendering finds no part at the host. -/
theorem not_mem_nodes_render (hh : Apart h d) (hown : Excludes t h.node d)
    {x : Template L H × Document L} (hrender : t.render d h.context none = .done x) :
    h.node ∉ x.1.nodes := by
  intro hmem
  rcases Template.nodes_render hh.reachable.wellFormed hrender with
    ⟨markup, fragment, hstage, hnodes⟩ | ⟨-, hnew⟩
  · obtain ⟨hbelow, hpart⟩ := (hnodes h.node).1 hmem
    exact hpart (hown markup fragment hstage hbelow)
  · have hold := hh.known
    have hle := hnew h.node hmem
    omega

theorem Apart.connect (hh : Apart h d) (hown : ∀ t s',
    c.render { h with attachment := .inUse } d s = (.ok t, s') → Excludes t h.node d) :
    Apart (h.connect c d s).state.1 (h.connect c d s).state.2.1 := by
  refine (hh.operations (operations_connect c h d s)).of_attachment ?_ ?_
  · unfold Host.connect
    split <;> try rfl
    split <;> try rfl
    simp only
    split <;> rfl
  · unfold Host.connect
    split
    · exact hh.outside
    · exact hh.outside
    · split
      · exact hh.outside
      · next t s' hbuilt =>
        simp only
        split
        · exact hh.outside
        · next hdone =>
          rintro _ ⟨⟩
          exact not_mem_nodes_render hh (hown t s' hbuilt) (Attempt.eq_done hdone)

/-! ### Writing an attribute -/

/-- **A write changes what is read of its attribute, and of no other.** -/
theorem attribute?_write (hwrite : h.write c d name v = .ok d₁) (other : String) :
    d₁.attribute? h.node other =
      if other = name then Coercion.written? v else d.attribute? h.node other := by
  unfold write at hwrite
  cases hbound : c.boundNamed name with
  | error e => rw [hbound] at hwrite; cases hwrite
  | ok b =>
    rw [hbound] at hwrite
    simp only [Except.bind] at hwrite
    cases helement : d.element h.node with
    | error e =>
      unfold Document.setAttribute Document.removeAttribute Document.modifyElement at hwrite
      rw [helement] at hwrite
      split at hwrite <;> cases hwrite
    | ok e =>
      have hold := Document.element_eq_ok_iff.1 helement
      unfold Document.setAttribute Document.removeAttribute Coercion.written? at *
      rw [Document.modifyElement_of_element hold, Document.modifyElement_of_element hold] at hwrite
      rw [Document.attribute?_of_content? hold]
      cases htruthy : v.isTruthy with
      | true =>
        rw [htruthy] at hwrite
        obtain rfl := Except.ok.inj hwrite
        rw [Document.attribute?_of_content? (Document.content?_put_self hold _ _)]
        exact OrderedMap.get?_insert e.attributes name other v.display
      | false =>
        rw [htruthy] at hwrite
        obtain rfl := Except.ok.inj hwrite
        rw [Document.attribute?_of_content? (Document.content?_put_self hold _ _)]
        exact OrderedMap.get?_erase e.attributes name other

theorem operations_write (hwrite : h.write c d name v = .ok d₁) : d.Operations d₁ := by
  unfold write at hwrite
  cases hbound : c.boundNamed name with
  | error e => rw [hbound] at hwrite; cases hwrite
  | ok b =>
    rw [hbound] at hwrite
    simp only [Except.bind] at hwrite
    split at hwrite
    · cases hset : d.setAttribute h.node name v.display with
      | error e => rw [hset] at hwrite; cases hwrite
      | ok d' =>
        rw [hset] at hwrite
        cases hwrite
        exact (Document.Operation.setAttribute hset).operations
    · cases herase : d.removeAttribute h.node name with
      | error e => rw [herase] at hwrite; cases hwrite
      | ok d' =>
        rw [herase] at hwrite
        cases hwrite
        exact (Document.Operation.removeAttribute herase).operations

/-! ### Rendering again -/

/-- What rendering again leaves: the document is that of an update, of the template that is
there, and the host has what is left of this template. -/
theorem refresh_cases (c : Component L H σ) (h : Host L H) (t : Template L H) (d : Document L)
    (s : σ) : ((refresh c h t d s).state.1 = h ∧ (refresh c h t d s).state.2.1 = d) ∨
      ∃ values : List (Value H),
        (refresh c h t d s).state.1 =
          { h with attachment := .connected (t.update d values).state.1 } ∧
        (refresh c h t d s).state.2.1 = (t.update d values).state.2 := by
  unfold refresh
  split
  · exact Or.inl ⟨rfl, rfl⟩
  · next fresh _ _ => exact Or.inr ⟨fresh.values, rfl, rfl⟩

theorem Apart.refresh (hh : Apart h d) (hattached : h.attachment = .connected t) :
    Apart (refresh c h t d s).state.1 (refresh c h t d s).state.2.1 := by
  rcases refresh_cases c h t d s with ⟨hhost, hdocument⟩ | ⟨values, hhost, hdocument⟩
  · rw [hhost, hdocument]
    exact hh
  · rw [hhost, hdocument]
    refine (hh.operations (Document.operations_updateWith d _ t values)).of_attachment rfl ?_
    rintro _ ⟨⟩ hmem
    exact hh.outside t hattached (Template.nodes_updateWith_subset _ t d values hmem)

theorem Apart.set (hh : Apart h d) :
    Apart (h.set c d s name v).state.1 (h.set c d s name v).state.2.1 := by
  unfold Host.set
  cases hwrite : h.write c d name v with
  | error e => exact hh
  | ok d₁ =>
    have hwritten := hh.operations (operations_write hwrite)
    cases hattached : h.attachment with
    | inUse => exact hwritten
    | unconnected => exact hwritten
    | connected t => exact hwritten.refresh hattached

/-- **No host is a node of its own template**, whatever was done before. -/
theorem Arises.apart (hh : Arises c h d) : Apart h d := by
  induction hh with
  | created hd listener => exact apart_create hd listener
  | meanwhile _ hops ih => exact ih.operations hops
  | connect _ s hown ih => exact ih.connect hown
  | set _ s name v ih => exact ih.set

/-- No part of the template that the host has is bound to its attribute. -/
def Unshared (h : Host L H) (name : String) : Prop :=
  ∀ t, h.attachment = .connected t → ¬ t.Binds h.node name

/-- **A host shares no attribute with its template**, whatever was done before. -/
theorem Arises.unshared (hh : Arises c h d) (name : String) : h.Unshared name := by
  intro t hattached hbinds
  obtain ⟨p, hp, hnode, -⟩ := hbinds
  exact hh.apart.outside t hattached ⟨.attributes p, hp, hnode⟩

/-- Rendering again leaves an attribute that the template has no part in. -/
theorem attribute?_refresh {other : String} (hother : ¬ t.Binds h.node other)
    (c : Component L H σ) (d : Document L) (s : σ) :
    (refresh c h t d s).state.2.1.attribute? h.node other = d.attribute? h.node other := by
  rcases refresh_cases c h t d s with ⟨-, hdocument⟩ | ⟨values, -, hdocument⟩
  · rw [hdocument]
  · rw [hdocument]
    exact Template.attribute?_update hother d values

/-! ### Setting and getting -/

/-- **What a set leaves of the attributes of its host**, when it goes through. -/
theorem attribute?_set {x : Host L H × Document L × σ} (hset : h.set c d s name v = .done x)
    {other : String} (hother : h.Unshared other) :
    x.2.1.attribute? x.1.node other =
      if other = name then Coercion.written? v else d.attribute? h.node other := by
  unfold Host.set at hset
  cases hwrite : h.write c d name v with
  | error e =>
    rw [hwrite] at hset
    exact absurd (congrArg Attempt.stopped hset) nofun
  | ok d₁ =>
    rw [hwrite] at hset
    rw [← attribute?_write hwrite other]
    cases hattached : h.attachment with
    | inUse =>
      rw [hattached] at hset
      exact absurd (congrArg Attempt.stopped hset) nofun
    | unconnected =>
      rw [hattached] at hset
      obtain rfl : (h, d₁, s) = x := congrArg Attempt.state hset
      rfl
    | connected t =>
      rw [hattached] at hset
      obtain rfl : (refresh c h t d₁ s).state = x := congrArg Attempt.state hset
      have hnode : (refresh c h t d₁ s).state.1.node = h.node := by
        rcases refresh_cases c h t d₁ s with ⟨hhost, -⟩ | ⟨values, hhost, -⟩ <;> rw [hhost]
      rw [hnode]
      exact attribute?_refresh (hother t hattached) c d₁ s

/-- **A bound attribute is read as what was written**, if the host does not share it with its
template.  After a set that went through, a Boolean attribute tells whether the value was truthy,
a text attribute has its text, or nothing for a falsy one, and a number attribute that was given
an integer has this integer, or nothing for zero.  Every other attribute that is not shared is
read as before, also when the host was rendered again.  And a host shares nothing, whatever was
done before, if its component was never asked to connect it and handed out a fragment that held
it with a marker. -/
theorem get_of_set (hc : c.observed.Nodup) {x : Host L H × Document L × σ}
    (hset : h.set c d s name v = .done x) {b : BoundAttribute} (hb : b ∈ c.bound)
    (hname : b.name = name) :
    (h.Unshared name →
      (b.coercion = .boolean → x.1.get c x.2.1 name = .ok (.bool v.isTruthy)) ∧
      (b.coercion = .text →
        x.1.get c x.2.1 name = .ok (if v.isTruthy then .text v.display else .null)) ∧
      (b.coercion = .number → ∀ n, v = .int n →
        x.1.get c x.2.1 name = .ok (if n = 0 then .null else .int n))) ∧
    (∀ other, other ≠ name → h.Unshared other → x.1.get c x.2.1 other = h.get c d other) ∧
    (Arises c h d → ∀ other, h.Unshared other) := by
  refine ⟨fun hunshared => ?_, fun other hne hunshared => ?_, fun hh other => hh.unshared other⟩
  · have hget : x.1.get c x.2.1 name = .ok (b.coercion.apply (Coercion.written? v)) := by
      unfold Host.get
      rw [← hname, Component.boundNamed_of_mem hc hb, hname, attribute?_set hset hunshared,
        if_pos rfl]
      rfl
    refine ⟨fun hkind => ?_, fun hkind => ?_, fun hkind n hv => ?_⟩
    · rw [hget, hkind, Coercion.apply_boolean_written?]
    · rw [hget, hkind, Coercion.apply_text_written?]
    · rw [hget, hkind, hv, Coercion.apply_number_written?]
  · unfold Host.get
    rw [attribute?_set hset hunshared, if_neg hne]

/-! ### A host that shares its name -/

/-- A component that hands out the template it keeps, and plain ones when it keeps none. -/
def sampleKeeper : Component Nat Nat (Option (Template Nat Nat)) where
  tag := "x-keeper"
  bound := [⟨"name", .text⟩]
  render _ _ kept := (.ok (kept.getD (Template.ofStrings ["<p>", "</p>"] [.text "kept"])), none)

/-- A host of the keeper, with a shadow root. -/
def sampleRooted : Host Nat Nat × Document Nat :=
  let created := create sampleKeeper id {}
  (created.1, ((created.2.attachShadow ⟨0⟩).map Prod.fst).toOption.getD created.2)

/-- The host is put into the fragment of the template that is kept, with a marker in its name, and
connected then. -/
def sampleKept : Attempt ElementError (Host Nat Nat × Document Nat × Option (Template Nat Nat)) :=
  let made := (Template.ofStrings ["<p>", "</p>"] [.text "kept"]).materialize sampleRooted.2
  let placed := (made.1.2.append ⟨2⟩ ⟨0⟩).state
  let marked := (placed.setAttribute ⟨0⟩ "name" (Marker.encode 0)).toOption.getD placed
  sampleRooted.1.connect sampleKeeper marked (some made.1.1)

/-- It is given another name. -/
def sampleRenamed :
    Attempt ElementError (Host Nat Nat × Document Nat × Option (Template Nat Nat)) :=
  sampleKept.state.1.set sampleKeeper sampleKept.state.2.1 sampleKept.state.2.2 "name"
    (.text "new")

/-- The name goes through, and what is read is what the template has in its place. -/
theorem get_of_set_sampleKept :
    sampleKeeper.observed.Nodup ∧ sampleKept.stopped = none ∧ sampleRenamed.stopped = none ∧
      sampleRenamed.state.1.get sampleKeeper sampleRenamed.state.2.1 "name" =
        .ok (.text "kept") ∧
      (if (Value.text "new" : Value Nat).isTruthy then .text (Value.text "new" : Value Nat).display
        else .null) = (Value.text "new" : Value Nat) := by
  have hread : sampleRenamed.state.2.1.attribute? sampleRenamed.state.1.node "name" =
      some "kept" := by
    decide +kernel
  refine ⟨by decide, by decide +kernel, by decide +kernel, ?_, rfl⟩
  unfold Host.get
  rw [hread]
  rfl

end Host

/-! ### A counter that is read -/

namespace Session

theorem Kind.excludes_of_render (k : Kind) {h : Host Listener String} {d : Document Listener}
    {progress progress' : Progress} {t : Template Listener String}
    (hrender : k.component.render h d progress = (.ok t, progress')) (node : NodeId) :
    Host.Excludes t node d := by
  cases k with
  | bare =>
    cases hrender
    exact Host.excludes_ofStrings _ _ node d
  | widget w =>
    have hmade := congrArg Prod.fst hrender
    change Except.map (Template.ofStrings w.strings) _ = .ok t at hmade
    cases hvalues : (makeAll h d { progress with renders := progress.renders + 1 }
        (if progress.renders + 1 = 1 then w.recipes else w.later.getD w.recipes)).1 with
    | error e => rw [hvalues] at hmade; cases hmade
    | ok values =>
      rw [hvalues] at hmade
      cases hmade
      exact Host.excludes_ofStrings _ _ node d

end Session

open Session

/-- The counter is connected and counts to two.  It reads two from then on, and what it did before
of whether it is open. -/
theorem Host.get_of_set_sampleCounted :
    sampleCounted.1.get sampleCounter.component sampleCounted.2.1 "count" = .ok (.int 2) ∧
      sampleCounted.1.get sampleCounter.component sampleCounted.2.1 "open" =
        sampleConnected.1.get sampleCounter.component sampleConnected.2.1 "open" := by
  have hhost : Arises sampleCounter.component sampleHost.1 sampleHost.2 := .created .empty _
  have hconnected : Arises sampleCounter.component sampleConnected.1 sampleConnected.2.1 :=
    hhost.connect {} fun t s' hrender => (Kind.widget sampleCounter).excludes_of_render hrender _
  have hset : sampleConnected.1.set sampleCounter.component sampleConnected.2.1
      sampleConnected.2.2 "count" (.int 2) = .done sampleCounted :=
    Attempt.eq_done (by decide +kernel)
  have hcount : (⟨"count", .number⟩ : BoundAttribute) ∈ sampleCounter.component.bound := by
    decide
  have hunshared := hconnected.unshared
  obtain ⟨hread, hothers, -⟩ := get_of_set (by decide) hset hcount rfl
  exact ⟨(hread (hunshared "count")).2.2 rfl 2 rfl, hothers "open" (by decide) (hunshared "open")⟩

end LiveMarkup
