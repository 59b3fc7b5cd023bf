/-
Shadow roots and their hosts.

An element names its shadow root, and nothing in the forest ties the two together.  What they
hold is never at fault: every name that an element has for its shadow root is that of a shadow
root, and of no other element's, and every shadow root is named by some element (`Paired`).
But the operations on the forest do not look at these names.  A root can be removed like any
other node, and then its host is left with a name that names nothing; a host can be removed,
and its root stays; and a root can be appended to a node, and then is written with it.

So where the nodes are (`Placed`) is known of the roots that no operation of the run touched.
`Sparing` says which operations these are, one root at a time: in a run that spares all of
them, every root has its host and is out of sight.
-/
import LiveMarkup.Proofs.Document.Removal

namespace LiveMarkup

namespace Forest

variable {α : Type} [DecidableEq α] {f kids inner : Forest α} {a p x : α}

omit [DecidableEq α] in
theorem mem_labels_tree : x ∈ (tree a kids).labels ↔ x = a ∨ x ∈ kids.labels := by
  simp [tree, labels]

/-- Nothing is right above a root. -/
theorem not_over_of_mem_roots (hf : f.Distinct) (ha : a ∈ f.roots) : ¬f.Over x a := by
  obtain ⟨above, habove⟩ := exists_trail? (mem_labels_of_mem_roots ha)
  rw [← head?_above_iff hf habove, (above_eq_nil_iff hf habove).2 ha]
  exact nofun

theorem mem_labels_of_mem_tree (h : f.below? a = some kids) (hx : x ∈ (tree a kids).labels) :
    x ∈ f.labels := by
  rcases mem_labels_tree.1 hx with rfl | hx
  · exact mem_labels_of_below?_eq_some h
  · exact mem_labels_of_below? h hx

/-- **Whoever has something of the tree of a root below it is in that tree.** -/
theorem mem_tree_of_mem_below (hf : f.Distinct) (ha : a ∈ f.roots) (hkids : f.below? a = some kids)
    (hx : x ∈ (tree a kids).labels) (hinner : f.below? p = some inner)
    (hbelow : x ∈ (tree p inner).labels) : p ∈ (tree a kids).labels := by
  induction f with
  | nil => cases hkids
  | node b first rest _ ihRest =>
    obtain ⟨hbFirst, hbRest, -, hRest, hdis⟩ := distinct_node.1 hf
    by_cases hb : b = a
    · -- The tree is the first one, and the others have nothing of it.
      subst hb
      rw [below?_node_self, Option.some.injEq] at hkids
      subst hkids
      have hout : x ∉ rest.labels := by
        rcases mem_labels_tree.1 hx with rfl | hx
        · exact hbRest
        · exact hdis x hx
      rw [mem_labels_tree]
      by_cases hp : b = p
      · exact Or.inl hp.symm
      · rw [below?_node_ne hp, Option.or_eq_some_iff] at hinner
        rcases hinner with hinner | ⟨-, hinner⟩
        · exact Or.inr (mem_labels_of_below?_eq_some hinner)
        · exact absurd (mem_labels_of_mem_tree hinner hbelow) hout
    · -- The tree comes later, and so does all that it has.
      have hroot : a ∈ rest.roots := (List.mem_cons.1 ha).resolve_left fun hc => hb hc.symm
      have hfirst : first.below? a = none :=
        below?_eq_none_iff.2 fun hc => hdis a hc (mem_labels_of_mem_roots hroot)
      rw [below?_node_ne hb, hfirst, Option.none_or] at hkids
      have hrest := mem_labels_of_mem_tree hkids hx
      by_cases hp : b = p
      · subst hp
        rw [below?_node_self, Option.some.injEq] at hinner
        subst hinner
        rcases mem_labels_tree.1 hbelow with rfl | hbelow
        · exact absurd hrest hbRest
        · exact absurd hrest (hdis x hbelow)
      · rw [below?_node_ne hp, Option.or_eq_some_iff] at hinner
        rcases hinner with hinner | ⟨-, hinner⟩
        · exact absurd hrest (hdis x (mem_labels_of_mem_tree hinner hbelow))
        · exact ihRest hRest hroot hkids hinner

end Forest

/-- The shadow root that a content names. -/
def Content.shadow? (c : Content) : Option NodeId := c.element?.bind Element.shadow

/-- Content without a part in this: no shadow root, and no element that names one. -/
def Content.Light (c : Content) : Prop := c.shadow? = none ∧ c ≠ .shadowRoot

theorem Content.Fresh.light {c : Content} (h : c.Fresh) : c.Light := by
  cases c with
  | element e => exact ⟨h.2.2, nofun⟩
  | text | comment => exact ⟨rfl, nofun⟩
  | fragment | shadowRoot => exact h.elim

namespace Document

variable {L : Type} {d d' : Document L} {kept : NodeId → Prop} {id h r p child root : NodeId}
  {content : Content}

/-! ### What the nodes hold -/

/-- Shadow roots, live or not, and the elements that name them belong together. -/
structure Paired (d : Document L) : Prop where
  root : ∀ h r, (d.contentAt h).shadow? = some r → d.contentAt r = .shadowRoot
  unique : ∀ h h' r, (d.contentAt h).shadow? = some r → (d.contentAt h').shadow? = some r → h = h'
  hosted : ∀ r, d.contentAt r = .shadowRoot → ∃ h, (d.contentAt h).shadow? = some r

/-- The same names for shadow roots, and the same shadow roots. -/
structure SameShadows (d d' : Document L) : Prop where
  shadow : ∀ id, (d'.contentAt id).shadow? = (d.contentAt id).shadow?
  isRoot : ∀ id, d'.contentAt id = .shadowRoot ↔ d.contentAt id = .shadowRoot

theorem SameShadows.of_contentAt (h : ∀ id, d'.contentAt id = d.contentAt id) :
    d.SameShadows d' where
  shadow id := by rw [h]
  isRoot id := by rw [h]

theorem paired_empty : Paired ({} : Document L) where
  root _ _ h := nomatch h
  unique _ _ _ h := nomatch h
  hosted _ h := nomatch h

theorem Paired.of_same (hd : d.Paired) (hsame : d.SameShadows d') : d'.Paired where
  root h r hr := (hsame.isRoot r).2 (hd.root h r ((hsame.shadow h).symm.trans hr))
  unique h h' r hr hr' := hd.unique h h' r ((hsame.shadow h).symm.trans hr)
    ((hsame.shadow h').symm.trans hr')
  hosted r hr := by
    obtain ⟨h, hh⟩ := hd.hosted r ((hsame.isRoot r).1 hr)
    exact ⟨h, (hsame.shadow h).trans hh⟩

theorem contentAt_of_size_le (h : d.records.size ≤ id.index) : d.contentAt id = .fragment := by
  unfold contentAt
  rw [Array.getElem?_eq_none h]
  rfl

theorem contentAt_nextId (d : Document L) : d.contentAt d.nextId = .fragment :=
  contentAt_of_size_le (Nat.le_refl _)

/-- New nodes that have no part in this change nothing. -/
theorem sameShadows_plant (d : Document L) {trees : Forest Content}
    (htrees : ∀ c ∈ trees.labels, c.Light) : d.SameShadows (d.plant trees) := by
  have hnew : ∀ id : NodeId, d.records.size ≤ id.index →
      d.contentAt id = .fragment ∧ ((d.plant trees).contentAt id).Light := by
    intro id hid
    refine ⟨contentAt_of_size_le hid, ?_⟩
    by_cases hlt : id.index < d.records.size + trees.size
    · have hmem : (d.plant trees).contentAt id ∈
          ((d.sprouts trees).map (d.plant trees).contentAt).labels := by
        rw [Forest.labels_map]
        exact List.mem_map_of_mem (mem_labels_sprouts.2 ⟨hid, hlt⟩)
      rw [map_contentAt_sprouts] at hmem
      exact htrees _ hmem
    · rw [contentAt_of_size_le (by rw [size_records_plant]; omega)]
      exact ⟨rfl, nofun⟩
  refine ⟨fun id => ?_, fun id => ?_⟩
  · by_cases hid : id.index < d.records.size
    · rw [contentAt_plant_of_lt hid]
    · obtain ⟨hold, hlight⟩ := hnew id (Nat.le_of_not_lt hid)
      rw [hold, hlight.1]
      rfl
  · by_cases hid : id.index < d.records.size
    · rw [contentAt_plant_of_lt hid]
    · obtain ⟨hold, hlight⟩ := hnew id (Nat.le_of_not_lt hid)
      rw [hold]
      exact iff_of_false hlight.2 nofun

theorem Light.parsed (markup : String) :
    ∀ c ∈ (Forest.tree Content.fragment (Markup.parse markup)).labels, c.Light := by
  intro c hc
  rcases Forest.mem_labels_tree.1 hc with rfl | hc
  · exact ⟨rfl, nofun⟩
  · exact (Markup.fresh_parse markup c hc).light

/-- Writing keeps a node what it is; that it keeps the name of its shadow root has to be seen. -/
theorem Rewritten.sameShadows (hd : d.Rewritten d')
    (hshadow : ∀ id, (d'.contentAt id).shadow? = (d.contentAt id).shadow?) :
    d.SameShadows d' where
  shadow := hshadow
  isRoot id := by
    have hbare : ∀ c : Content, c.bare = .shadowRoot ↔ c = .shadowRoot := by
      intro c
      cases c <;> simp [Content.bare]
    rw [← hbare, hd.bare, hbare]

theorem sameShadows_modifyElement {change : Element → Element}
    (hd : d.modifyElement id change = .ok d') (htag : ∀ e, (change e).tag = e.tag)
    (hshadow : ∀ e, (change e).shadow = e.shadow) : d.SameShadows d' := by
  refine (rewritten_modifyElement hd htag).sameShadows ?_
  unfold modifyElement at hd
  cases he : d.element id with
  | error e => rw [he] at hd; cases hd
  | ok e =>
    rw [he] at hd
    cases hd
    exact congr_contentAt_modifyRecord Content.shadow? (element_eq_ok_iff.1 he)
      fun _ _ => hshadow e

theorem sameShadows_setText {s : String} (hd : d.setText id s = .ok d') : d.SameShadows d' := by
  refine (rewritten_setText hd).sameShadows ?_
  unfold setText at hd
  split at hd
  · next hold =>
    cases hd
    exact congr_contentAt_modifyRecord Content.shadow? hold fun _ _ => rfl
  · next hold =>
    cases hd
    exact congr_contentAt_modifyRecord Content.shadow? hold fun _ _ => rfl
  · cases hd
  · cases hd

theorem sameShadows_addListener {kind : String} {listener : L}
    (hd : d.addListener id kind listener = .ok d') : d.SameShadows d' := by
  refine (rewritten_addListener hd).sameShadows ?_
  unfold addListener get at hd
  cases hold : d.content? id with
  | none => rw [hold] at hd; cases hd
  | some content =>
    rw [hold] at hd
    cases hd
    exact congr_contentAt_modifyRecord Content.shadow? hold fun r hr =>
      congrArg Content.shadow? hr

/-- What a new shadow root and its name change. -/
structure Attached (d : Document L) (id root : NodeId) (d' : Document L) : Prop where
  shadow : ∀ x, (d'.contentAt x).shadow? = if x = id then some root else (d.contentAt x).shadow?
  isRoot : ∀ x, d'.contentAt x = .shadowRoot ↔ x = root ∨ d.contentAt x = .shadowRoot
  forest : d'.forest = d.forest ++ .tree root .nil

theorem contentAt_create_self (d : Document L) (content : Content) :
    (d.create content).1.contentAt d.nextId = content :=
  (Forest.node.inj (map_contentAt_sprouts d (.tree content .nil))).1

theorem contentAt_create_ne (h : id ≠ d.nextId) (content : Content) :
    (d.create content).1.contentAt id = d.contentAt id := by
  by_cases hid : id.index < d.records.size
  · exact contentAt_plant_of_lt hid _
  · have hlt : d.records.size < id.index :=
      Nat.lt_of_le_of_ne (Nat.le_of_not_lt hid) fun hc => h (congrArg NodeId.mk hc.symm)
    have hsize : (d.create content).1.records.size = d.records.size + 1 :=
      size_records_plant d _
    rw [contentAt_of_size_le (Nat.le_of_lt hlt), contentAt_of_size_le (by omega)]

theorem attached_of_attachShadow (hd : d.WellFormed) (h : d.attachShadow id = .ok (d', root)) :
    d.contains id = true ∧
      ((d.contentAt id).shadow? = some root ∧ d' = d ∨
        (d.contentAt id).shadow? = none ∧ root = d.nextId ∧ d.Attached id root d') := by
  obtain ⟨e, hold, hcases⟩ := exists_of_attachShadow h
  refine ⟨contains_of_content? hold, ?_⟩
  rw [contentAt_of_content? hold]
  rcases hcases with ⟨hshadow, rfl⟩ | ⟨hshadow, rfl, rfl⟩
  · exact Or.inl ⟨hshadow, rfl⟩
  · refine Or.inr ⟨hshadow, rfl, ?_⟩
    have hfresh := contentAt_nextId d
    have hne : id ≠ d.nextId := by
      rintro rfl
      rw [contentAt_of_content? hold] at hfresh
      cases hfresh
    have hself : ∀ new, ((d.create .shadowRoot).1.setContent id new).contentAt id = new := by
      intro new
      rw [setContent_eq_put]
      exact contentAt_of_content?
        (content?_put_self (content?_create_of_content? hd hold .shadowRoot) _ _)
    have hother : ∀ x new, x ≠ id → ((d.create .shadowRoot).1.setContent id new).contentAt x =
        (d.create .shadowRoot).1.contentAt x := fun x new hx => contentAt_modifyRecord_ne hx _
    refine ⟨fun x => ?_, fun x => ?_, rfl⟩
    · by_cases hx : x = id
      · rw [if_pos hx, hx, hself]
        rfl
      · rw [if_neg hx, hother x _ hx]
        by_cases hroot : x = d.nextId
        · rw [hroot, contentAt_create_self, hfresh]
          rfl
        · rw [contentAt_create_ne hroot]
    · by_cases hx : x = id
      · rw [hx, hself, contentAt_of_content? hold]
        exact iff_of_false nofun (by simp [hne])
      · rw [hother x _ hx]
        by_cases hroot : x = d.nextId
        · simp [hroot, contentAt_create_self]
        · simp [hroot, contentAt_create_ne]

/-- A host that had no shadow root names the new one, which nobody else can name. -/
theorem Paired.attached (hd : d.Paired) (hnone : (d.contentAt id).shadow? = none)
    (hfresh : d.contentAt root = .fragment) (h : d.Attached id root d') : d'.Paired where
  root x r hr := by
    rw [h.isRoot]
    rw [h.shadow] at hr
    split at hr
    · exact Or.inl (Option.some.inj hr).symm
    · exact Or.inr (hd.root x r hr)
  unique x y r hx hy := by
    have hnot : ∀ x, (d.contentAt x).shadow? ≠ some root := by
      intro x hc
      have hroot := hd.root x root hc
      rw [hfresh] at hroot
      cases hroot
    rw [h.shadow] at hx hy
    split at hx
    · next hxid =>
      cases hx
      split at hy
      · next hyid => exact hxid.trans hyid.symm
      · exact absurd hy (hnot y)
    · split at hy
      · cases hy
        exact absurd hx (hnot x)
      · exact hd.unique x y r hx hy
  hosted r hr := by
    rcases (h.isRoot r).1 hr with rfl | hr
    · exact ⟨id, by rw [h.shadow, if_pos rfl]⟩
    · obtain ⟨x, hx⟩ := hd.hosted r hr
      refine ⟨x, ?_⟩
      rw [h.shadow, if_neg, hx]
      rintro rfl
      rw [hnone] at hx
      cases hx

/-! ### Where the nodes are -/

/-- The roots `kept` are live and have no parent, and their hosts are live. -/
def Placed (kept : NodeId → Prop) (d : Document L) : Prop :=
  ∀ h r, (d.contentAt h).shadow? = some r → kept r → h ∈ d.forest.labels ∧ r ∈ d.forest.roots

theorem Placed.of_same (hd : d.Placed kept) (hsame : d.SameShadows d')
    (hlabels : ∀ h r, (d.contentAt h).shadow? = some r → kept r → h ∈ d.forest.labels →
      h ∈ d'.forest.labels)
    (hroots : ∀ h r, (d.contentAt h).shadow? = some r → kept r → r ∈ d.forest.roots →
      r ∈ d'.forest.roots) : d'.Placed kept := by
  intro h r hr hkept
  rw [hsame.shadow] at hr
  obtain ⟨hlive, hroot⟩ := hd h r hr hkept
  exact ⟨hlabels h r hr hkept hlive, hroots h r hr hkept hroot⟩

theorem Placed.of_forest (hd : d.Placed kept) (hsame : d.SameShadows d')
    (hforest : d'.forest = d.forest) : d'.Placed kept :=
  hd.of_same hsame (fun _ _ _ _ hlive => hforest ▸ hlive) fun _ _ _ _ hroot => hforest ▸ hroot

theorem Placed.plant (hd : d.Placed kept) {trees : Forest Content}
    (htrees : ∀ c ∈ trees.labels, c.Light) : (d.plant trees).Placed kept := by
  refine hd.of_same (sameShadows_plant d htrees) (fun h r _ _ hlive => ?_) fun h r _ _ hroot => ?_
  · rw [forest_plant, Forest.labels_append]
    exact List.mem_append_left _ hlive
  · rw [forest_plant, Forest.roots_append]
    exact List.mem_append_left _ hroot

theorem Placed.attached (hd : d.Placed kept) (hid : d.contains id = true)
    (h : d.Attached id root d') : d'.Placed kept := by
  have hlabels : d'.forest.labels = d.forest.labels ++ [root] := by
    rw [h.forest, Forest.labels_append]
    rfl
  have hroots : d'.forest.roots = d.forest.roots ++ [root] := by
    rw [h.forest, Forest.roots_append]
    rfl
  intro x r hr hkept
  rw [h.shadow] at hr
  rw [hlabels, hroots]
  split at hr
  · next hx =>
    cases hr
    rw [hx]
    exact ⟨List.mem_append_left _ (contains_iff.1 hid),
      List.mem_append_right _ (List.mem_singleton_self _)⟩
  · obtain ⟨hlive, hroot⟩ := hd x r hr hkept
    exact ⟨List.mem_append_left _ hlive, List.mem_append_left _ hroot⟩

/-! ### Roots stay roots -/

theorem mem_roots_detach (hr : r ∈ d.forest.roots) (id : NodeId) :
    r ∈ (d.detach id).forest.roots := by
  show r ∈ (d.forest.detach id).roots
  unfold Forest.detach
  cases d.forest.below? id with
  | none => exact hr
  | some kids =>
    rw [Forest.roots_append, Forest.roots_prune, List.mem_append]
    by_cases hid : r = id
    · exact Or.inr (hid ▸ List.mem_singleton_self _)
    · exact Or.inl ((List.mem_erase_of_ne hid).2 hr)

/-- A root that is not put below another node stays a root. -/
theorem mem_roots_place (hr : r ∈ d.forest.roots)
    (hchild : (d.place p child).stopped = none → child ≠ r) :
    r ∈ (d.place p child).state.forest.roots := by
  unfold place at hchild ⊢
  split
  · exact mem_roots_detach hr child
  · split
    · exact mem_roots_detach hr child
    · next hself habove =>
      rw [if_neg hself, if_neg habove] at hchild
      have hne : r ≠ child := fun hc => hchild rfl hc.symm
      show r ∈ (d.transfer p child).forest.roots
      unfold transfer
      cases d.forest.below? child with
      | none => exact hr
      | some kids =>
        show r ∈ ((d.forest.prune child).graft p (.tree child kids)).roots
        rw [Forest.roots_graft, Forest.roots_prune]
        exact (List.mem_erase_of_ne hne).2 hr

theorem mem_roots_placeAll {children : List NodeId} (hr : r ∈ d.forest.roots)
    (hchildren : r ∉ children) : r ∈ (placeAll p children d).state.forest.roots := by
  induction children generalizing d with
  | nil => exact hr
  | cons child rest ih =>
    rw [List.mem_cons, not_or] at hchildren
    have hplaced := mem_roots_place (p := p) hr fun _ hc => hchildren.1 hc.symm
    unfold placeAll Attempt.andThen
    split
    · exact ih hplaced hchildren.2
    · exact hplaced

/-- **Appending moves no root but the one that is appended.**  The children of a fragment, which
move in its place, are no roots. -/
theorem mem_roots_append (hd : d.forest.Distinct) (hr : r ∈ d.forest.roots)
    (hchild : (d.append p child).stopped = none → child ≠ r) :
    r ∈ (d.append p child).state.forest.roots := by
  cases hcontainer : d.container p with
  | error e =>
    rw [append_of_container_error hcontainer]
    exact hr
  | ok u =>
    cases hcontent : d.content? child with
    | none =>
      have happend : d.append p child = .stop d (.unknownNode child) := by
        simp [append, moved, get, hcontainer, hcontent, Except.bind, Except.map]
      rw [happend]
      exact hr
    | some c =>
      by_cases hfragment : c = .fragment
      · subst hfragment
        obtain ⟨kids, hkids⟩ :=
          Forest.exists_below? (contains_iff.1 (contains_of_content? hcontent))
        rw [append_fragment hcontainer hcontent hkids]
        refine mem_roots_placeAll hr fun hc => ?_
        exact Forest.not_over_of_mem_roots hd hr ⟨kids, hkids, hc⟩
      · have happend := append_of_ne_fragment hcontainer hcontent hfragment
        have hone : placeAll p [child] d = d.place p child := by
          show (d.place p child).andThen Attempt.done = d.place p child
          unfold Attempt.andThen
          split
          · next hstopped => exact (Attempt.eq_done hstopped).symm
          · rfl
        rw [happend, hone] at hchild ⊢
        exact mem_roots_place hr hchild

/-! ### Runs that leave shadow roots where they are -/

/-- Documents made by operations that spare the shadow roots `kept`: no such root is appended to
a node or removed, and no host of one is removed.  Nodes are created without shadow roots. -/
inductive Sparing (kept : NodeId → Prop) : Document L → Prop
  | empty : Sparing kept {}
  | create {d : Document L} (h : Sparing kept d) {content : Content} (hcontent : content.Proper)
      (hlight : content.Light) : Sparing kept (d.create content).1
  | parse {d : Document L} (h : Sparing kept d) (markup : String) :
      Sparing kept (d.parseFragment markup).1
  | attachShadow {d d' : Document L} (h : Sparing kept d) {id root : NodeId}
      (hd : d.attachShadow id = .ok (d', root)) : Sparing kept d'
  | append {d : Document L} (h : Sparing kept d) (parent child : NodeId)
      (hchild : (d.append parent child).stopped = none → kept child →
        d.content? child ≠ some .shadowRoot) : Sparing kept (d.append parent child).state
  | remove {d d' : Document L} (h : Sparing kept d) {id : NodeId} (hd : d.remove id = .ok d')
      (hroots : ∀ x ∈ d.descendants id, kept x → d.content? x ≠ some .shadowRoot)
      (hhosts : ∀ x ∈ d.descendants id, ∀ r, d.shadowRoot? x = some r → ¬kept r) :
      Sparing kept d'
  | setText {d d' : Document L} (h : Sparing kept d) {id : NodeId} {s : String}
      (hd : d.setText id s = .ok d') : Sparing kept d'
  | setAttribute {d d' : Document L} (h : Sparing kept d) {id : NodeId} {name value : String}
      (hd : d.setAttribute id name value = .ok d') : Sparing kept d'
  | removeAttribute {d d' : Document L} (h : Sparing kept d) {id : NodeId} {name : String}
      (hd : d.removeAttribute id name = .ok d') : Sparing kept d'
  | setProperty {d d' : Document L} (h : Sparing kept d) {id : NodeId} {name value : String}
      (hd : d.setProperty id name value = .ok d') : Sparing kept d'
  | addListener {d d' : Document L} (h : Sparing kept d) {id : NodeId} {kind : String}
      {listener : L} (hd : d.addListener id kind listener = .ok d') : Sparing kept d'

theorem Sparing.reachable (h : d.Sparing kept) : d.Reachable := by
  induction h with
  | empty => exact .empty
  | create _ hcontent _ ih => exact ih.create hcontent
  | parse _ markup ih => exact ih.parse markup
  | attachShadow _ hd ih => exact ih.attachShadow hd
  | append _ parent child _ ih => exact ih.append parent child
  | remove _ hd _ _ ih => exact ih.remove hd
  | setText _ hd ih => exact ih.setText hd
  | setAttribute _ hd ih => exact ih.setAttribute hd
  | removeAttribute _ hd ih => exact ih.removeAttribute hd
  | setProperty _ hd ih => exact ih.setProperty hd
  | addListener _ hd ih => exact ih.addListener hd

theorem light_tree {c : Content} (h : c.Light) : ∀ x ∈ (Forest.tree c .nil).labels, x.Light := by
  intro x hx
  rcases Forest.mem_labels_tree.1 hx with rfl | hx
  · exact h
  · exact absurd hx List.not_mem_nil

theorem shadowRoot?_eq (d : Document L) (id : NodeId) :
    d.shadowRoot? id = (d.content? id).bind Content.shadow? := by
  unfold shadowRoot? element?
  cases d.content? id with
  | none => rfl
  | some c => rfl

theorem Placed.remove (hd : d.Placed kept) (hpaired : d.Paired) (hwf : d.WellFormed)
    (h : d.remove id = .ok d')
    (hroots : ∀ x ∈ d.descendants id, kept x → d.content? x ≠ some .shadowRoot)
    (hhosts : ∀ x ∈ d.descendants id, ∀ r, d.shadowRoot? x = some r → ¬kept r) :
    d'.Placed kept := by
  obtain ⟨-, hforest, hrecords⟩ := exists_of_remove h
  have hsame : d.SameShadows d' := .of_contentAt fun x => by unfold contentAt; rw [hrecords]
  refine hd.of_same hsame (fun x r hr hkept hlive => ?_) fun x r hr hkept hroot => ?_
  · have hcontent := hwf.content?_eq (contains_iff.2 hlive)
    rw [← contains_iff, contains_remove_iff hwf.distinct h]
    refine ⟨contains_iff.2 hlive, fun hx => hhosts x hx r ?_ hkept⟩
    rw [shadowRoot?_eq, hcontent]
    exact hr
  · have hcontent := hwf.content?_eq (contains_iff.2 (Forest.mem_labels_of_mem_roots hroot))
    rw [hpaired.root x r hr] at hcontent
    rw [hforest, Forest.roots_prune]
    refine (List.mem_erase_of_ne ?_).2 hroot
    rintro rfl
    exact hroots r List.mem_cons_self hkept hcontent

/-- **What the nodes hold always fits, and the roots that were spared are in place.** -/
theorem Sparing.paired_placed (h : d.Sparing kept) : d.Paired ∧ d.Placed kept := by
  induction h with
  | empty => exact ⟨paired_empty, fun _ _ hr => nomatch hr⟩
  | create _ _ hlight ih =>
    have htrees := light_tree hlight
    exact ⟨ih.1.of_same (sameShadows_plant _ htrees), ih.2.plant htrees⟩
  | parse _ markup ih =>
    have htrees := Light.parsed markup
    exact ⟨ih.1.of_same (sameShadows_plant _ htrees), ih.2.plant htrees⟩
  | attachShadow hd hattached ih =>
    obtain ⟨hid, ⟨-, rfl⟩ | ⟨hnone, rfl, hnew⟩⟩ :=
      attached_of_attachShadow hd.reachable.wellFormed hattached
    · exact ih
    · exact ⟨ih.1.attached hnone (contentAt_nextId _) hnew, ih.2.attached hid hnew⟩
  | @append d hd parent child hchild ih =>
    have hwf := hd.reachable.wellFormed
    have hmoved := rearranged_append hwf parent child
    have hsame : d.SameShadows (d.append parent child).state := .of_contentAt hmoved.contentAt_eq
    refine ⟨ih.1.of_same hsame, ih.2.of_same hsame (fun x r _ _ hlive => ?_)
      fun x r hr hkept hroot => mem_roots_append hwf.distinct hroot ?_⟩
    · rw [← contains_iff] at hlive ⊢
      exact (hmoved.contains_iff x).2 hlive
    · rintro hstopped rfl
      refine hchild hstopped hkept ?_
      rw [hwf.content?_eq (contains_iff.2 (Forest.mem_labels_of_mem_roots hroot)),
        ih.1.root x child hr]
  | @remove d d' hd id hremove hroots hhosts ih =>
    have hrecords := (exists_of_remove hremove).2.2
    have hsame : d.SameShadows d' := .of_contentAt fun x => by unfold contentAt; rw [hrecords]
    exact ⟨ih.1.of_same hsame,
      ih.2.remove ih.1 hd.reachable.wellFormed hremove hroots hhosts⟩
  | setText _ hd ih =>
    have hsame := sameShadows_setText hd
    exact ⟨ih.1.of_same hsame, ih.2.of_forest hsame (rewritten_setText hd).forest⟩
  | setAttribute _ hd ih =>
    have hsame := sameShadows_modifyElement hd (fun _ => rfl) fun _ => rfl
    exact ⟨ih.1.of_same hsame, ih.2.of_forest hsame (rewritten_setAttribute hd).forest⟩
  | removeAttribute _ hd ih =>
    have hsame := sameShadows_modifyElement hd (fun _ => rfl) fun _ => rfl
    exact ⟨ih.1.of_same hsame, ih.2.of_forest hsame (rewritten_removeAttribute hd).forest⟩
  | setProperty _ hd ih =>
    have hsame := sameShadows_modifyElement hd (fun _ => rfl) fun _ => rfl
    exact ⟨ih.1.of_same hsame, ih.2.of_forest hsame (rewritten_setProperty hd).forest⟩
  | addListener _ hd ih =>
    have hsame := sameShadows_addListener hd
    exact ⟨ih.1.of_same hsame, ih.2.of_forest hsame (rewritten_addListener hd).forest⟩

/-! ### Hosts and their roots -/

/-- The shadow roots `kept` are what shadow roots should be. -/
structure Sheltered (kept : NodeId → Prop) (d : Document L) : Prop where
  /-- An element's shadow root is a shadow root without a parent, -/
  root : ∀ h r, d.shadowRoot? h = some r → kept r →
    d.content? r = some .shadowRoot ∧ d.parent? r = none
  /-- and no other element's. -/
  unique : ∀ h h' r, d.shadowRoot? h = some r → d.shadowRoot? h' = some r → h = h'
  /-- Every shadow root is some element's. -/
  hosted : ∀ r, d.content? r = some .shadowRoot → kept r → ∃ h, d.shadowRoot? h = some r
  /-- Every element gets a shadow root that can be used, or has one already. -/
  usable : ∀ h, (d.element? h).isSome = true → (∀ r, d.shadowRoot? h = some r → kept r) →
    ∃ d' r, d.attachShadow h = .ok (d', r) ∧ d'.shadowRoot? h = some r ∧
      d'.content? r = some .shadowRoot ∧ d'.parent? r = none
  /-- What is below a shadow root is written for no node outside. -/
  light : ∀ r, d.content? r = some .shadowRoot → kept r →
    ∀ p tree, d.subtree? p = some tree → p ∉ d.descendants r →
      ∀ x ∈ d.descendants r, x ∉ tree.labels

theorem parent?_of_mem_roots (hd : d.forest.Distinct) (hr : r ∈ d.forest.roots) :
    d.parent? r = none := by
  rw [Option.eq_none_iff_forall_ne_some]
  intro p hp
  exact Forest.not_over_of_mem_roots hd hr
    (mem_children_iff.1 ((parent?_eq_some_iff hd).1 hp))

/-- No element is refused a shadow root. -/
theorem exists_attachShadow (hid : (d.element? id).isSome = true) :
    ∃ d' r, d.attachShadow id = .ok (d', r) := by
  obtain ⟨e, he⟩ := Option.isSome_iff_exists.1 hid
  obtain ⟨c, hc, hce⟩ := Option.bind_eq_some_iff.1 he
  cases c with
  | element e =>
    unfold attachShadow
    rw [element_of_content? hc]
    exact ⟨_, _, rfl⟩
  | fragment | text | comment | shadowRoot => cases hce

/-- A shadow root that was just attached is in place. -/
theorem Attached.usable (hd' : d'.WellFormed) (hid : d.contains id = true)
    (h : d.Attached id root d') :
    d'.shadowRoot? id = some root ∧ d'.content? root = some .shadowRoot ∧
      d'.parent? root = none := by
  have hroot : root ∈ d'.forest.roots := by
    rw [h.forest, Forest.roots_append]
    exact List.mem_append_right _ (List.mem_singleton_self _)
  have hlive : d'.contains id = true := by
    rw [contains_iff, h.forest, Forest.labels_append]
    exact List.mem_append_left _ (contains_iff.1 hid)
  have hrootLive := contains_iff.2 (Forest.mem_labels_of_mem_roots hroot)
  refine ⟨?_, ?_, parent?_of_mem_roots hd'.distinct hroot⟩
  · rw [shadowRoot?_eq, hd'.content?_eq hlive]
    exact (h.shadow id).trans (if_pos rfl)
  · rw [hd'.content?_eq hrootLive, (h.isRoot root).2 (Or.inl rfl)]

/-- **A shadow root that is left where it is belongs to one element and to no other, can be used,
and what is in it is seen nowhere else.** -/
theorem sheltered_of_sparing (h : d.Sparing kept) : d.Sheltered kept := by
  have hwf := h.reachable.wellFormed
  obtain ⟨hpaired, hplaced⟩ := h.paired_placed
  have hshadow : ∀ x r, d.shadowRoot? x = some r → (d.contentAt x).shadow? = some r := by
    intro x r hr
    rw [shadowRoot?_eq, Option.bind_eq_some_iff] at hr
    obtain ⟨c, hc, hr⟩ := hr
    rw [contentAt_of_content? hc]
    exact hr
  have hrooted : ∀ x r, (d.contentAt x).shadow? = some r → kept r →
      r ∈ d.forest.roots ∧ d.content? r = some .shadowRoot ∧ d.shadowRoot? x = some r := by
    intro x r hr hkept
    obtain ⟨hlive, hroot⟩ := hplaced x r hr hkept
    refine ⟨hroot, ?_, ?_⟩
    · rw [hwf.content?_eq (contains_iff.2 (Forest.mem_labels_of_mem_roots hroot)),
        hpaired.root x r hr]
    · rw [shadowRoot?_eq, hwf.content?_eq (contains_iff.2 hlive)]
      exact hr
  have hhosted : ∀ r, d.content? r = some .shadowRoot → kept r →
      r ∈ d.forest.roots ∧ ∃ x, d.shadowRoot? x = some r := by
    intro r hr hkept
    obtain ⟨x, hx⟩ := hpaired.hosted r (contentAt_of_content? hr)
    obtain ⟨hroot, -, hname⟩ := hrooted x r hx hkept
    exact ⟨hroot, x, hname⟩
  refine ⟨fun x r hr hkept => ?_, fun x y r hx hy => ?_, fun r hr hkept => ?_,
    fun x hx hkept => ?_, fun r hr hkept p tree htree hp y hy hc => ?_⟩
  · obtain ⟨hroot, hcontent, -⟩ := hrooted x r (hshadow x r hr) hkept
    exact ⟨hcontent, parent?_of_mem_roots hwf.distinct hroot⟩
  · exact hpaired.unique x y r (hshadow x r hx) (hshadow y r hy)
  · exact (hhosted r hr hkept).2
  · obtain ⟨d', r, hattached⟩ := exists_attachShadow hx
    refine ⟨d', r, hattached, ?_⟩
    obtain ⟨hid, ⟨hr, rfl⟩ | ⟨-, -, hnew⟩⟩ := attached_of_attachShadow hwf hattached
    · have hname : d'.shadowRoot? x = some r := by
        rw [shadowRoot?_eq, hwf.content?_eq hid]
        exact hr
      obtain ⟨hroot, hcontent, -⟩ := hrooted x r hr (hkept r hname)
      exact ⟨hname, hcontent, parent?_of_mem_roots hwf.distinct hroot⟩
    · exact hnew.usable (hwf.attachShadow hattached) hid
  · obtain ⟨hroot, -⟩ := hhosted r hr hkept
    obtain ⟨kids, hkids⟩ := Forest.exists_below? (Forest.mem_labels_of_mem_roots hroot)
    obtain ⟨inner, hinner, rfl⟩ := Option.map_eq_some_iff.1 htree
    have hmem : ∀ x, x ∈ d.descendants r ↔ x ∈ (Forest.tree r kids).labels := fun x => by
      rw [mem_descendants_iff hkids, Forest.mem_labels_tree]
    exact hp ((hmem p).2
      (Forest.mem_tree_of_mem_below hwf.distinct hroot hkids ((hmem y).1 hy) hinner hc))

/-- An element with a shadow root and something in it. -/
def sampleCard : Document Nat :=
  let host := (({} : Document Nat).create (.element { tag := "x-card" })).1
  let attached := (host.create .shadowRoot).1.setContent ⟨0⟩
    (.element { tag := "x-card", shadow := some ⟨1⟩ })
  ((attached.parseFragment "<p>inside</p>").1.append ⟨1⟩ ⟨2⟩).state

theorem sparing_sampleCard : sampleCard.Sparing fun _ => True := by
  have hproper : (Content.element { tag := "x-card" }).Proper :=
    ⟨OrderedMap.distinct_empty, OrderedMap.distinct_empty⟩
  have hlight : (Content.element { tag := "x-card" }).Light := ⟨rfl, nofun⟩
  have hempty : Sparing (fun _ => True) ({} : Document Nat) := .empty
  have hhost := hempty.create hproper hlight
  have hfound : (({} : Document Nat).create (.element { tag := "x-card" })).1.attachShadow ⟨0⟩ =
      .ok (_, ⟨1⟩) := rfl
  exact ((hhost.attachShadow hfound).parse "<p>inside</p>").append ⟨1⟩ ⟨2⟩ fun _ _ => by
    decide +kernel

/-- The paragraph is in the shadow root of the card, and not in the markup of the card. -/
theorem sheltered_of_sparing_sampleCard :
    sampleCard.content? ⟨1⟩ = some .shadowRoot ∧ sampleCard.parent? ⟨1⟩ = none ∧
      (∃ h, sampleCard.shadowRoot? h = some ⟨1⟩) ∧ (⟨3⟩ : NodeId) ∈ sampleCard.descendants ⟨1⟩ ∧
      ∀ tree, sampleCard.subtree? ⟨0⟩ = some tree → (⟨3⟩ : NodeId) ∉ tree.labels := by
  have hsheltered := sheltered_of_sparing sparing_sampleCard
  obtain ⟨hcontent, hparent⟩ := hsheltered.root ⟨0⟩ ⟨1⟩ (by decide +kernel) trivial
  have hinside : (⟨3⟩ : NodeId) ∈ sampleCard.descendants ⟨1⟩ := by decide +kernel
  exact ⟨hcontent, hparent, hsheltered.hosted ⟨1⟩ hcontent trivial, hinside,
    fun tree htree => hsheltered.light ⟨1⟩ hcontent trivial ⟨0⟩ tree htree (by decide +kernel) ⟨3⟩
      hinside⟩

/-- A shadow root that is appended to a node is written with it. -/
example : (sampleCard.append ⟨0⟩ ⟨1⟩).state.outerHtml ⟨0⟩ = .ok "<x-card><p>inside</p></x-card>" := by
  decide +kernel

/-- **A shadow root that is removed is still the shadow root of its host**, and what is attached
to the host from then on is the removed one. -/
theorem attachShadow_of_removed_root (hd : d.Reachable) (hr : d.shadowRoot? h = some r)
    (hremove : d.remove r = .ok d') (hh : h ∉ d.descendants r) :
    d'.shadowRoot? h = some r ∧ d'.attachShadow h = .ok (d', r) ∧ d'.Dead r := by
  have hremoved := hd.wellFormed.removed hremove
  have hgone : d'.contains r = false := by
    rw [← Bool.not_eq_true]
    exact fun hc => ((hremoved.contains_iff r).1 hc).2 List.mem_cons_self
  have hcontent : d'.content? h = d.content? h := by
    unfold content?
    rw [hremoved.record h hh]
  have hname : d'.shadowRoot? h = some r := by
    rw [shadowRoot?_eq, hcontent, ← shadowRoot?_eq]
    exact hr
  refine ⟨hname, ?_, dead_of_not_contains hgone⟩
  obtain ⟨d'', r', hattached⟩ : ∃ d'' r', d'.attachShadow h = .ok (d'', r') := by
    refine exists_attachShadow ?_
    obtain ⟨e, he, -⟩ := Option.bind_eq_some_iff.1 hname
    exact he ▸ rfl
  have hwf' := hd.wellFormed.remove hremove
  obtain ⟨hid, hcases⟩ := attached_of_attachShadow hwf' hattached
  rw [shadowRoot?_eq, hwf'.content?_eq hid] at hname
  rcases hcases with ⟨hold, rfl⟩ | ⟨hnone, -⟩
  · rw [hattached, Option.some.inj (hold.symm.trans hname)]
  · exact absurd (hnone.symm.trans hname) nofun

end Document

end LiveMarkup
