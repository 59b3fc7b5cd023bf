/-
Who hears an event.

The listeners that hear an event are listed before the first of them is called, and they may
be any programs.  So nothing is asked of them here but that each call comes to an end:
`Told` says that they are called one after the other, each in the state that the one before
it left, and `Snapshot` says which they are and what is answered.

Which listeners a node has is a matter of the operations that made the document.
`Registered` keeps a list of what was registered beside the document; one operation adds to
it, and no other changes the listeners of any node (`Operation.registrationsAt_eq`).
-/
import LiveMarkup.Proofs.Document.Kinship

namespace LiveMarkup

namespace Document

variable {L W : Type} {d d' : Document L} {id other : NodeId} {kind : String} {listener : L}

/-! ### No node twice on the way up -/

theorem Upwards.eq_or_transGen {line : List NodeId} (h : d.Upwards id line) {x : NodeId}
    (hx : x ∈ line) : x = id ∨ Relation.TransGen (fun c p => d.parent? c = some p) id x := by
  induction h with
  | root => exact Or.inl (List.mem_singleton.1 hx)
  | step hp _ ih =>
    rcases List.mem_cons.1 hx with rfl | hx
    · exact Or.inl rfl
    · rcases ih hx with rfl | habove
      · exact Or.inr (.single hp)
      · exact Or.inr (.head hp habove)

theorem Upwards.nodup (hd : d.forest.Distinct) {line : List NodeId} (h : d.Upwards id line) :
    line.Nodup := by
  induction h with
  | root => exact List.nodup_singleton _
  | @step id p line hp hline ih =>
    refine List.nodup_cons.2 ⟨fun hc => not_transGen_parent? hd id ?_, ih⟩
    rcases hline.eq_or_transGen hc with heq | habove
    · exact .single (heq ▸ hp)
    · exact .head hp habove

/-! ### What is registered -/

/-- Documents that the operations can make of an empty one, with the listeners that were
registered on the way and the nodes they were registered on, in order. -/
inductive Registered : Document L → List (NodeId × Registration L) → Prop
  | empty : Registered {} []
  | listener {d d' : Document L} {made : List (NodeId × Registration L)} (h : Registered d made)
      {id : NodeId} {kind : String} {listener : L} (hd : d.addListener id kind listener = .ok d') :
      Registered d' (made ++ [(id, ⟨kind, listener⟩)])
  | other {d d' : Document L} {made : List (NodeId × Registration L)} (h : Registered d made)
      (hop : d.Operation d')
      (hother : ∀ id kind listener, d.addListener id kind listener ≠ .ok d') :
      Registered d' made

variable {made : List (NodeId × Registration L)}

theorem Registered.reachable (h : d.Registered made) : d.Reachable := by
  induction h with
  | empty => exact .empty
  | listener _ hd ih => exact ih.addListener hd
  | other _ hop _ ih => exact ih.operation hop

theorem Registered.exists_operation (h : d.Registered made) (hop : d.Operation d') :
    ∃ made', d'.Registered made' := by
  by_cases hadded : ∃ id kind listener, d.addListener id kind listener = .ok d'
  · obtain ⟨id, kind, listener, hd⟩ := hadded
    exact ⟨_, h.listener hd⟩
  · exact ⟨made, h.other hop fun id kind listener hd => hadded ⟨id, kind, listener, hd⟩⟩

/-- Of every document that comes to be it can be said what was registered in it. -/
theorem reachable_iff_registered : d.Reachable ↔ ∃ made, d.Registered made := by
  constructor
  · intro h
    induction h with
    | empty => exact ⟨[], .empty⟩
    | create _ hcontent ih => exact ih.elim fun _ hd => hd.exists_operation (.create _ hcontent)
    | parse _ markup ih => exact ih.elim fun _ hd => hd.exists_operation (.parse _ markup)
    | attachShadow _ hop ih => exact ih.elim fun _ hd => hd.exists_operation (.attachShadow hop)
    | append _ parent child ih =>
      exact ih.elim fun _ hd => hd.exists_operation (.append _ parent child)
    | remove _ hop ih => exact ih.elim fun _ hd => hd.exists_operation (.remove hop)
    | setText _ hop ih => exact ih.elim fun _ hd => hd.exists_operation (.setText hop)
    | setAttribute _ hop ih => exact ih.elim fun _ hd => hd.exists_operation (.setAttribute hop)
    | removeAttribute _ hop ih =>
      exact ih.elim fun _ hd => hd.exists_operation (.removeAttribute hop)
    | setProperty _ hop ih => exact ih.elim fun _ hd => hd.exists_operation (.setProperty hop)
    | addListener _ hop ih => exact ih.elim fun _ hd => hd.exists_operation (.addListener hop)
  · rintro ⟨made, h⟩
    exact h.reachable

/-! ### What a node has registered -/

theorem registrationsAt_setContent (d : Document L) (id : NodeId) (content : Content)
    (other : NodeId) :
    (d.setContent id content).registrationsAt other = d.registrationsAt other := by
  unfold setContent registrationsAt
  rw [getElem?_records_modifyRecord]
  split
  · rw [Option.map_map]
    rfl
  · rfl

theorem registrationsAt_plant (d : Document L) (trees : Forest Content) (id : NodeId) :
    (d.plant trees).registrationsAt id = d.registrationsAt id := by
  unfold registrationsAt
  by_cases hid : id.index < d.records.size
  · rw [getElem?_records_plant_of_lt hid]
  · obtain ⟨i, hi⟩ := Nat.exists_eq_add_of_le (Nat.le_of_not_lt hid)
    rw [Array.getElem?_eq_none (Nat.le_of_not_lt hid), hi, getElem?_records_plant_add]
    cases trees.labels[i]? with
    | none => rfl
    | some content => rfl

theorem registrationsAt_of_records (h : d'.records = d.records) (id : NodeId) :
    d'.registrationsAt id = d.registrationsAt id := by
  unfold registrationsAt
  rw [h]

theorem Rearranged.registrationsAt_eq (h : d.Rearranged d') (id : NodeId) :
    d'.registrationsAt id = d.registrationsAt id := by
  obtain ⟨f, -, rfl⟩ := h
  exact registrationsAt_of_records rfl id

theorem registrationsAt_attachShadow {root : NodeId} (h : d.attachShadow id = .ok (d', root))
    (other : NodeId) : d'.registrationsAt other = d.registrationsAt other := by
  obtain ⟨e, -, ⟨-, rfl⟩ | ⟨-, -, rfl⟩⟩ := exists_of_attachShadow h
  · rfl
  · rw [registrationsAt_setContent, create, registrationsAt_plant]

theorem registrationsAt_setText {s : String} (h : d.setText id s = .ok d') (other : NodeId) :
    d'.registrationsAt other = d.registrationsAt other := by
  unfold setText at h
  split at h
  · cases h
    exact registrationsAt_setContent d id _ other
  · cases h
    exact registrationsAt_setContent d id _ other
  · cases h
  · cases h

theorem registrationsAt_modifyElement {change : Element → Element}
    (h : d.modifyElement id change = .ok d') (other : NodeId) :
    d'.registrationsAt other = d.registrationsAt other := by
  unfold modifyElement at h
  cases he : d.element id with
  | error e => rw [he] at h; cases h
  | ok e =>
    rw [he] at h
    cases h
    exact registrationsAt_setContent d id _ other

/-- A new listener comes after those that its node has. -/
theorem registrationsAt_addListener (h : d.addListener id kind listener = .ok d')
    (other : NodeId) :
    d'.registrationsAt other =
      d.registrationsAt other ++ if id = other then [⟨kind, listener⟩] else [] := by
  unfold addListener get at h
  cases hold : d.content? id with
  | none => rw [hold] at h; cases h
  | some content =>
    rw [hold] at h
    cases h
    obtain ⟨-, r, hr, -⟩ := content?_eq_some_iff.1 hold
    unfold registrationsAt
    rw [getElem?_records_modifyRecord]
    by_cases hother : other = id
    · subst hother
      simp [hr]
    · have hne : ¬id = other := fun hc => hother hc.symm
      simp [hother, hne]

/-- **No other operation changes the listeners of any node.** -/
theorem Operation.registrationsAt_eq (hd : d.WellFormed) (hop : d.Operation d')
    (hother : ∀ id kind listener, d.addListener id kind listener ≠ .ok d') (id : NodeId) :
    d'.registrationsAt id = d.registrationsAt id := by
  cases hop with
  | create hcontent => exact registrationsAt_plant d _ id
  | parse markup => exact registrationsAt_plant d _ id
  | attachShadow h => exact registrationsAt_attachShadow h id
  | append parent child => exact (rearranged_append hd parent child).registrationsAt_eq id
  | remove h => exact registrationsAt_of_records (exists_of_remove h).2.2 id
  | setText h => exact registrationsAt_setText h id
  | setAttribute h => exact registrationsAt_modifyElement h id
  | removeAttribute h => exact registrationsAt_modifyElement h id
  | setProperty h => exact registrationsAt_modifyElement h id
  | addListener h => exact absurd h (hother _ _ _)

/-- **The listeners of a node are those that were registered on it, in order.** -/
theorem Registered.registrationsAt_eq (h : d.Registered made) (id : NodeId) :
    d.registrationsAt id = (made.filter fun r => r.1 = id).map Prod.snd := by
  induction h with
  | empty => rfl
  | @listener d d' made _ other kind listener hd ih =>
    rw [registrationsAt_addListener hd, ih, List.filter_append, List.map_append]
    by_cases heq : other = id
    · simp [heq]
    · simp [heq]
  | other h hop hother ih =>
    rw [hop.registrationsAt_eq h.reachable.wellFormed hother, ih]

/-- The listeners registered for a kind of event on the nodes of a line, node after node. -/
def heard (made : List (NodeId × Registration L)) (kind : String) (line : List NodeId) : List L :=
  line.flatMap fun id =>
    (made.filter fun r => r.1 = id ∧ r.2.kind = kind).map fun r => r.2.listener

theorem Registered.listenersFor_eq (h : d.Registered made) (hid : d.contains id = true)
    (kind : String) : d.listenersFor id kind =
      (made.filter fun r => r.1 = id ∧ r.2.kind = kind).map fun r => r.2.listener := by
  obtain ⟨r, hr⟩ := h.reachable.wellFormed.exists_record? hid
  have hat := h.registrationsAt_eq id
  rw [registrationsAt_of_record? hr] at hat
  unfold listenersFor
  rw [hr]
  simp only [hat, List.filter_map, List.filter_filter, List.map_map]
  congr 1
  refine List.filter_congr fun r _ => ?_
  by_cases hkind : r.2.kind = kind
  · simp [hkind]
  · simp [hkind]

/-! ### Calling them -/

/-- Calls one after the other: each begins in the state that the one before it left. -/
inductive Told (hears : L → W → W → Prop) : List L → W → W → Prop
  | nil (w : W) : Told hears [] w w
  | cons {l : L} {rest : List L} {w w₁ w' : W} (h : hears l w w₁) (hrest : Told hears rest w₁ w') :
      Told hears (l :: rest) w w'

theorem Told.imp {hears hears' : L → W → W → Prop} {ls : List L} {w w' : W}
    (himp : ∀ l w w', hears l w w' → hears' l w w') (h : Told hears ls w w') :
    Told hears' ls w w' := by
  induction h with
  | nil w => exact .nil w
  | cons hfirst _ ih => exact .cons (himp _ _ _ hfirst) ih

theorem run_forM_iff {call : L → StateT W Option Unit} {ls : List L} {w w' : W} :
    (ls.forM call).run w = some ((), w') ↔
      Told (fun l u u' => (call l).run u = some ((), u')) ls w w' := by
  induction ls generalizing w with
  | nil =>
    constructor
    · intro h
      cases h
      exact .nil _
    · intro h
      cases h
      rfl
  | cons l ls ih =>
    show (call l >>= fun _ => ls.forM call).run w = _ ↔ _
    rw [StateT.run_bind, Option.bind_eq_bind, Option.bind_eq_some_iff]
    constructor
    · rintro ⟨⟨⟨⟩, w₁⟩, hfirst, hrest⟩
      exact .cons hfirst (ih.1 hrest)
    · intro h
      cases h with
      | cons hfirst hrest => exact ⟨((), _), hfirst, ih.2 hrest⟩

/-- What dispatching an event comes to when the document is `d`, in which `made` was registered
before: the state is `w` at first and `w'` in the end.  If the target is dead, nothing is called.
Otherwise the listeners on the way up from it are called, and their number is answered. -/
inductive Snapshot (d : Document L) (made : List (NodeId × Registration L))
    (hears : L → W → W → Prop) (e : Event) (w : W) : Except DocumentError Nat → W → Prop
  | dead (h : d.contains e.target = false) :
      Snapshot d made hears e w (.error (.unknownNode e.target)) w
  | told {line : List NodeId} {w' : W} (h : d.contains e.target = true)
      (hline : d.Upwards e.target line) (hnodup : line.Nodup)
      (htold : Told hears (heard made e.kind line) w w') :
      Snapshot d made hears e w (.ok (heard made e.kind line).length) w'

theorem contains_of_mem_ancestors (hid : d.contains id = true) (hother : other ∈ d.ancestors id) :
    d.contains other = true := by
  obtain ⟨above, habove⟩ := Forest.exists_trail? (contains_iff.1 hid)
  unfold ancestors at hother
  rw [habove] at hother
  exact contains_iff.2 (Forest.mem_labels_of_mem_trail? habove hother)

/-- The listeners that an event reaches are those registered on the way up. -/
theorem Registered.audience_eq (h : d.Registered made) {e : Event}
    (he : d.contains e.target = true) :
    d.audience e = .ok (heard made e.kind (d.ancestors e.target)) := by
  obtain ⟨content, hcontent⟩ := h.reachable.wellFormed.exists_content? he
  unfold audience heard
  rw [get_of_content? hcontent]
  have hlisteners := List.flatMap_congr fun id hid =>
    h.listenersFor_eq (contains_of_mem_ancestors he hid) e.kind
  exact congrArg Except.ok hlisteners

theorem audience_of_not_contains {e : Event} (he : d.contains e.target = false) :
    d.audience e = .error (.unknownNode e.target) := by
  unfold audience get
  rw [content?_of_not_contains he]
  rfl

theorem run_dispatch_of_refused {document : W → Document L}
    {call : Event → L → StateT W Option Unit} {e : Event} {w : W} {reason : DocumentError}
    (h : (document w).audience e = .error reason) :
    (dispatch document call e).run w = some (.error reason, w) := by
  simp [dispatch, getThe, h]

/-- A dispatch calls the listeners that the event reaches, and answers their number. -/
theorem run_dispatch {document : W → Document L} {call : Event → L → StateT W Option Unit}
    {e : Event} {w : W} {ls : List L} (h : (document w).audience e = .ok ls) :
    (dispatch document call e).run w =
      ((ls.forM (call e)).run w).map fun s => (.ok ls.length, s.2) := by
  simp [dispatch, getThe, h]

/-- **Whatever its listeners do, an event is dispatched to those that were registered when it
was.** -/
theorem dispatch_iff_snapshot {document : W → Document L} {call : Event → L → StateT W Option Unit}
    {e : Event} {w w' : W} {r : Except DocumentError Nat}
    (h : (document w).Registered made) :
    (dispatch document call e).run w = some (r, w') ↔
      Snapshot (document w) made (fun l u u' => (call e l).run u = some ((), u')) e w r w' := by
  have hd := h.reachable.wellFormed.distinct
  cases he : (document w).contains e.target with
  | false =>
    rw [run_dispatch_of_refused (audience_of_not_contains he)]
    constructor
    · intro hr
      cases hr
      exact .dead he
    · intro hr
      cases hr with
      | dead => rfl
      | told hlive => rw [he] at hlive; cases hlive
  | true =>
    have hline := upwards_ancestors hd e.target
    rw [run_dispatch (h.audience_eq he), Option.map_eq_some_iff]
    simp only [Prod.mk.injEq]
    constructor
    · rintro ⟨⟨⟨⟩, u⟩, htold, rfl, rfl⟩
      exact .told he hline (hline.nodup hd) (run_forM_iff.1 htold)
    · intro hr
      cases hr with
      | dead hdead => rw [he] at hdead; cases hdead
      | told _ hline' _ htold =>
        rw [hline'.unique hline] at htold ⊢
        exact ⟨((), w'), run_forM_iff.2 htold, rfl, rfl⟩

end Document

end LiveMarkup
