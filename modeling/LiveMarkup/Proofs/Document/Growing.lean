/-
Fragments that grow node by node.

Reading markup plants whole trees at once.  The same document comes about when one goes
through the tokens and makes every node when its turn comes, appends it to the innermost
open element, and lengthens a text that is already there (`Reader`).  Each of these steps
could be refused; none ever is, whatever the tokens (`readTokens_eq`).

The invariant says where the open elements are in the trees that are there so far: `enclose`
puts trees into open nodes, and as nodes are numbered in document order the next node that
is made has the number that it has in the finished trees.
-/
import LiveMarkup.Proofs.Document.Operations
import LiveMarkup.Proofs.Markup.Building
import LiveMarkup.Proofs.OpenNodes

namespace LiveMarkup

open Forest (enclose extent numberedOpen)

namespace Document

variable {L : Type} {d : Document L} {c new : Content} {before : Forest Content}
  {outer stack : List (Content × Forest Content)}

/-! ### Planting step by step -/

theorem eq_of_parts {d d' : Document L} (hforest : d.forest = d'.forest)
    (hrecords : d.records = d'.records) (hvacant : d.vacant = d'.vacant) : d = d' := by
  cases d
  cases hforest
  cases hrecords
  cases hvacant
  rfl

theorem nextSeat_plant (d : Document L) (trees : Forest Content) (n : Nat) :
    (d.plant trees).nextSeat n = d.nextSeat (trees.size + n) := by
  unfold nextSeat
  rw [size_records_plant, Nat.add_assoc]
  show ((d.vacant.drop trees.size)[n]?).getD _ = _
  rw [List.getElem?_drop]

/-- Trees can be planted one after the other. -/
theorem plant_plant (d : Document L) (f g : Forest Content) :
    (d.plant f).plant g = d.plant (f ++ g) := by
  refine eq_of_parts ?_ ?_ ?_
  · rw [forest_plant, forest_plant, forest_plant, Forest.append_assoc]
    unfold sprouts
    rw [size_records_plant, Forest.numbered_append, Forest.map_append]
  · have hseats : (g.labels.mapIdx fun n content =>
        ({ content, seat := (d.plant f).nextSeat n } : Record L)) =
        g.labels.mapIdx fun n content => { content, seat := d.nextSeat (n + f.size) } := by
      refine List.mapIdx_eq_mapIdx_iff.2 fun n hn => ?_
      rw [nextSeat_plant, Nat.add_comm]
    unfold plant
    simp only [Forest.labels_append, List.mapIdx_append, Forest.length_labels]
    rw [← List.append_toArray, ← Array.append_assoc]
    exact congrArg (d.records ++ (f.labels.mapIdx _).toArray ++ ·) (congrArg List.toArray hseats)
  · unfold plant
    simp only [List.drop_drop, Forest.size_append]

/-- Only the places of new nodes depend on more than their order. -/
theorem plant_of_labels_eq {f g : Forest Content} (h : f.labels = g.labels) :
    d.plant g = { d.plant f with forest := d.forest ++ d.sprouts g } := by
  have hsize : f.size = g.size := by rw [← Forest.length_labels, h, Forest.length_labels]
  refine eq_of_parts rfl ?_ ?_
  · unfold plant
    rw [h]
  · unfold plant
    rw [hsize]

theorem contentAt_plant_add {trees : Forest Content} {i : Nat} (h : trees.labels[i]? = some c) :
    (d.plant trees).contentAt ⟨d.records.size + i⟩ = c := by
  unfold contentAt
  rw [getElem?_records_plant_add, h]
  rfl

/-- What a new node holds can be changed before it is planted. -/
theorem setContent_plant {f g : Forest Content} {i : Nat} (hshape : d.sprouts g = d.sprouts f)
    (hlabels : g.labels = f.labels.set i new) :
    (d.plant f).setContent ⟨d.records.size + i⟩ new = d.plant g := by
  have hsize : g.size = f.size := by
    rw [← Forest.length_labels, hlabels, List.length_set, Forest.length_labels]
  refine eq_of_parts ?_ (Array.ext_getElem? fun j => ?_) ?_
  · rw [forest_plant, hshape]
    rfl
  · show ((d.plant f).records.modify (d.records.size + i) _)[j]? = _
    rw [Array.getElem?_modify]
    by_cases hj : j < d.records.size
    · have hne : ¬d.records.size + i = j := by omega
      rw [if_neg hne, getElem?_records_plant_of_lt hj, getElem?_records_plant_of_lt hj]
    · obtain ⟨k, rfl⟩ := Nat.exists_eq_add_of_le (Nat.le_of_not_lt hj)
      rw [getElem?_records_plant_add, getElem?_records_plant_add, hlabels, List.getElem?_set]
      by_cases hk : i = k
      · subst hk
        cases hi : f.labels[i]? with
        | none =>
          have hlength : ¬i < f.labels.length := Nat.not_lt.2 (List.getElem?_eq_none_iff.1 hi)
          simp only [if_true, if_neg hlength, Option.map_none]
        | some old =>
          have hlength : i < f.labels.length := (List.getElem?_eq_some_iff.1 hi).1
          simp only [if_true, if_pos hlength, Option.map_some]
      · have hne : ¬d.records.size + i = d.records.size + k := by omega
        rw [if_neg hne, if_neg hk]
  · unfold plant
    rw [hsize]
    rfl

/-! ### Open nodes of a document -/

/-- The names that open nodes have once the trees are planted. -/
def openNames (d : Document L) (stack : List (Content × Forest Content)) : List NodeId :=
  (numberedOpen d.records.size stack).map fun node => ⟨node.1⟩

/-- The name of the next node that is made. -/
def nextIn (d : Document L) (stack : List (Content × Forest Content)) : NodeId :=
  ⟨d.records.size + extent stack⟩

theorem openNames_cons : d.openNames ((c, before) :: outer) = d.nextIn outer :: d.openNames outer :=
  rfl

theorem nextId_plant_enclose (d : Document L) (stack : List (Content × Forest Content)) :
    (d.plant (enclose stack .nil)).nextId = d.nextIn stack := by
  unfold nextId nextIn
  rw [size_records_plant, Forest.size_enclose]
  rfl

theorem getElem?_labels_enclose (outer : List (Content × Forest Content)) (f : Forest Content)
    (i : Nat) : (enclose outer f).labels[extent outer + i]? = f.labels[i]? := by
  have hlength : (enclose outer .nil).labels.length = extent outer := by
    rw [Forest.length_labels, Forest.size_enclose]
    rfl
  rw [Forest.labels_enclose, List.getElem?_append_right (by omega), hlength,
    Nat.add_sub_cancel_left]

/-- **Open nodes hold what they were opened with.** -/
theorem map_contentAt_openNames (d : Document L) (stack : List (Content × Forest Content))
    (f : Forest Content) :
    (d.openNames stack).map (d.plant (enclose stack f)).contentAt = stack.map Prod.fst := by
  induction stack generalizing f with
  | nil => rfl
  | cons node outer ih =>
    obtain ⟨c, before⟩ := node
    rw [openNames_cons, List.map_cons, List.map_cons]
    refine congr (congrArg List.cons ?_) (ih _)
    exact contentAt_plant_add (getElem?_labels_enclose outer _ 0)

/-- Nodes of an open node have their numbers from its own on. -/
theorem map_contentAt_before (d : Document L) (f : Forest Content) :
    ((before.numbered (d.records.size + extent outer + 1)).map NodeId.mk).map
      (d.plant (enclose ((c, before) :: outer) f)).contentAt = before := by
  rw [Forest.map_map]
  refine Forest.map_numbered fun i hi => ?_
  have hlabel := getElem?_labels_enclose outer (.tree c (before ++ f)) (i + 1)
  rw [← Forest.length_labels] at hi
  have hkids : (Forest.tree c (before ++ f)).labels[i + 1]? = before.labels[i]? := by
    simp only [Forest.tree, Forest.labels, List.append_nil, List.getElem?_cons_succ,
      Forest.labels_append]
    exact List.getElem?_append_left hi
  rw [hkids, List.getElem?_eq_getElem hi] at hlabel
  have hcontent := contentAt_plant_add (d := d) hlabel
  rw [List.getElem?_eq_getElem hi, ← hcontent]
  congr 3
  omega

theorem sprouts_enclose (d : Document L) (stack : List (Content × Forest Content))
    (f : Forest Content) : d.sprouts (enclose stack f) =
      enclose ((numberedOpen d.records.size stack).map fun node =>
        (NodeId.mk node.1, node.2.map NodeId.mk))
        ((f.numbered (d.records.size + extent stack)).map NodeId.mk) := by
  unfold sprouts
  rw [Forest.numbered_enclose, Forest.map_enclose]

/-- The innermost open node is not among those around it. -/
theorem nextIn_not_mem (d : Document L) (outer : List (Content × Forest Content)) :
    d.nextIn outer ∉ (d.sprouts (enclose outer .nil)).labels := by
  intro hc
  have hlt := (mem_labels_sprouts.1 hc).2
  rw [Forest.size_enclose] at hlt
  exact Nat.lt_irrefl _ hlt

/-- The trees in the innermost open node. -/
theorem below?_nextIn (hd : d.WellFormed) :
    (d.plant (enclose ((c, before) :: outer) .nil)).forest.below? (d.nextIn outer) =
      some ((before.numbered (d.records.size + extent outer + 1)).map NodeId.mk) := by
  have hold : d.nextIn outer ∉ d.forest.labels := by
    intro hc
    have hlt := hd.known _ hc
    exact absurd hlt (Nat.not_lt.2 (Nat.le_add_right ..))
  have hout := d.nextIn_not_mem outer
  rw [sprouts_enclose] at hout
  rw [forest_plant, Forest.below?_append, Forest.below?_eq_none_iff.2 hold, Option.none_or,
    sprouts_enclose]
  exact Forest.below?_enclose hout

/-! ### One node -/

/-- Make a node and append it. -/
def createBelow (d : Document L) (parent : NodeId) (content : Content) :
    Except DocumentError (Document L × NodeId) :=
  let (made, id) := d.create content
  let attempt := made.append parent id
  match attempt.stopped with
  | none => .ok (attempt.state, id)
  | some e => .error e

/-- What is planted when nodes are open is proper. -/
def ProperNodes (stack : List (Content × Forest Content)) : Prop :=
  ∀ node ∈ stack, node.1.Proper ∧ ∀ x ∈ node.2.labels, x.Proper

theorem WellFormed.plant_enclose (hd : d.WellFormed) (h : ProperNodes stack) :
    (d.plant (enclose stack .nil)).WellFormed := by
  refine hd.plant fun x hx => ?_
  obtain ⟨node, hnode, rfl | hx⟩ := Forest.mem_labels_enclose hx
  · exact (h node hnode).1
  · exact (h node hnode).2 x hx

theorem content?_nextIn (hd : d.WellFormed) (h : ProperNodes ((c, before) :: outer)) :
    (d.plant (enclose ((c, before) :: outer) .nil)).content? (d.nextIn outer) = some c := by
  have hnames := d.map_contentAt_openNames ((c, before) :: outer) .nil
  rw [openNames_cons, List.map_cons] at hnames
  have hlive : (d.plant (enclose ((c, before) :: outer) .nil)).contains (d.nextIn outer) = true :=
    contains_iff.2 (Forest.mem_labels_of_below?_eq_some (below?_nextIn hd))
  rw [(hd.plant_enclose h).content?_eq hlive, (List.cons.inj hnames).1]

/-- A new node below the innermost open one is numbered as if it had been planted there. -/
theorem sprouts_concat (d : Document L) (c new : Content) (before : Forest Content)
    (outer : List (Content × Forest Content)) :
    d.sprouts (enclose ((c, before ++ .tree new .nil) :: outer) .nil) =
      (d.sprouts (enclose ((c, before) :: outer) .nil)).graft (d.nextIn outer)
        (.tree (d.nextIn ((c, before) :: outer)) .nil) := by
  have hnext : d.records.size + extent outer + 1 + before.size =
      d.records.size + extent ((c, before) :: outer) := by
    rw [extent]
    omega
  have hout := d.nextIn_not_mem outer
  rw [sprouts_enclose] at hout
  rw [sprouts_enclose, sprouts_enclose]
  simp only [numberedOpen, List.map_cons, Forest.numbered_append, Forest.map_append, hnext]
  exact (Forest.graft_enclose hout _).symm

/-- **A node that is made below the innermost open node comes last in it.** -/
theorem createBelow_plant (hd : d.WellFormed) (h : ProperNodes ((c, before) :: outer))
    (hc : c.isContainer = true) (hnew : new.Proper) (hne : new ≠ .fragment) :
    (d.plant (enclose ((c, before) :: outer) .nil)).createBelow (d.nextIn outer) new =
      .ok (d.plant (enclose ((c, before ++ .tree new .nil) :: outer) .nil),
        d.nextIn ((c, before) :: outer)) := by
  have hid := d.nextId_plant_enclose ((c, before) :: outer)
  have hgrown := hd.plant_enclose h
  have hparent := content?_nextIn hd h
  have hfresh := nextId_not_mem hgrown
  have hlive := contains_iff.1 (contains_of_content? hparent)
  have hout : d.nextIn outer ∉ d.forest.labels := fun hc =>
    absurd (hd.known _ hc) (Nat.not_lt.2 (Nat.le_add_right ..))
  rw [hid] at hfresh
  -- The node stands beside the trees first.
  have hforest : ((d.plant (enclose ((c, before) :: outer) .nil)).create new).1.forest =
      (d.plant (enclose ((c, before) :: outer) .nil)).forest ++
        .tree (d.nextIn ((c, before) :: outer)) .nil := by
    rw [← hid]
    rfl
  have hmade := hgrown.create hnew
  have hbelow : ((d.plant (enclose ((c, before) :: outer) .nil)).create new).1.forest.below?
      (d.nextIn ((c, before) :: outer)) = some .nil := by
    rw [hforest, Forest.below?_append, Forest.below?_eq_none_iff.2 hfresh, Option.none_or]
    exact Forest.below?_node_self ..
  have hcontent : ((d.plant (enclose ((c, before) :: outer) .nil)).create new).1.content?
      (d.nextIn ((c, before) :: outer)) = some new := by
    have hnode := map_contentAt_sprouts (d.plant (enclose ((c, before) :: outer) .nil))
      (.tree new .nil)
    have hself := (Forest.node.inj hnode).1
    rw [hmade.content?_eq (contains_iff.2 (Forest.mem_labels_of_below?_eq_some hbelow)), ← hid]
    exact congrArg some hself
  -- Then it goes where it belongs.
  have hplace := place_eq hmade.distinct hbelow (fun hc => hfresh (hc ▸ hlive)) List.not_mem_nil
  have happend := append_of_ne_fragment
    (container_of_content? (content?_create_of_content? hgrown hparent new) hc) hcontent hne
  have hlabels : (enclose ((c, before) :: outer) .nil ++ .tree new .nil).labels =
      (enclose ((c, before ++ .tree new .nil) :: outer) .nil).labels := by
    rw [Forest.labels_append, enclose, enclose, Forest.labels_enclose,
      Forest.labels_enclose outer (.tree c ((before ++ .tree new .nil) ++ .nil))]
    simp [Forest.tree, Forest.labels]
  have hplanted : ({ ((d.plant (enclose ((c, before) :: outer) .nil)).create new).1 with
      forest := d.forest ++ d.sprouts (enclose ((c, before ++ .tree new .nil) :: outer) .nil) } :
      Document L) = d.plant (enclose ((c, before ++ .tree new .nil) :: outer) .nil) := by
    rw [plant_of_labels_eq hlabels, ← plant_plant]
    rfl
  rw [hforest, Forest.prune_append_right hfresh, Forest.tree, Forest.prune_node_self,
    Forest.append_empty, forest_plant, Forest.graft_append_of_not_mem hout] at hplace
  rw [sprouts_concat] at hplanted
  have hdone : placeAll (d.nextIn outer) [d.nextIn ((c, before) :: outer)]
      ((d.plant (enclose ((c, before) :: outer) .nil)).create new).1 =
      .done (d.plant (enclose ((c, before ++ .tree new .nil) :: outer) .nil)) := by
    rw [placeAll, hplace, Attempt.done_andThen, placeAll]
    exact congrArg Attempt.done hplanted
  have hname : ((d.plant (enclose ((c, before) :: outer) .nil)).create new).2 =
      d.nextIn ((c, before) :: outer) := hid
  unfold createBelow
  simp only [hname, happend, hdone, Attempt.stopped_done, Attempt.state_done]

/-! ### Text -/

/-- Append text: lengthen the text that comes last below `parent`, or make one. -/
def pushText (d : Document L) (parent : NodeId) (s : String) : Except DocumentError (Document L) :=
  if s.isEmpty then .ok d
  else
    match d.lastChild? parent with
    | none => (d.createBelow parent (.text s)).map Prod.fst
    | some last =>
      (d.get last).bind fun content =>
        match content with
        | .text t => .ok (d.setContent last (.text (t ++ s)))
        | .fragment | .element _ | .comment _ | .shadowRoot =>
          (d.createBelow parent (.text s)).map Prod.fst

theorem children_nextIn (hd : d.WellFormed) :
    (d.plant (enclose ((c, before) :: outer) .nil)).children (d.nextIn outer) =
      ((before.numbered (d.records.size + extent outer + 1)).map NodeId.mk).roots :=
  children_of_below? (below?_nextIn hd)

/-- The last of the children holds what comes last in the innermost open node. -/
theorem map_contentAt_lastChild? (hd : d.WellFormed) :
    ((d.plant (enclose ((c, before) :: outer) .nil)).lastChild? (d.nextIn outer)).map
      (d.plant (enclose ((c, before) :: outer) .nil)).contentAt = before.roots.getLast? := by
  unfold lastChild?
  rw [children_nextIn hd, ← List.getLast?_map, ← Forest.roots_map, map_contentAt_before]

theorem get_lastChild? (hd : d.WellFormed) (h : ProperNodes ((c, before) :: outer)) {last : NodeId}
    (hlast : (d.plant (enclose ((c, before) :: outer) .nil)).lastChild? (d.nextIn outer) =
      some last) : (d.plant (enclose ((c, before) :: outer) .nil)).get last =
        .ok ((d.plant (enclose ((c, before) :: outer) .nil)).contentAt last) := by
  refine get_of_content? ((hd.plant_enclose h).content?_eq (contains_iff.2 ?_))
  refine Forest.mem_labels_of_below? (below?_nextIn hd) (Forest.mem_labels_of_mem_roots ?_)
  rw [← children_nextIn hd]
  exact List.mem_of_getLast? hlast

/-- Text that is joined to a text is joined in its record. -/
theorem setContent_lastText {t u : String} :
    (d.plant (enclose ((c, before ++ .tree (.text t) .nil) :: outer) .nil)).setContent
      (d.nextIn ((c, before) :: outer)) (.text u) =
        d.plant (enclose ((c, before ++ .tree (.text u) .nil) :: outer) .nil) := by
  refine setContent_plant ?_ ?_
  · rw [sprouts_concat, sprouts_concat]
  · have hlast : ∀ v, (enclose ((c, before ++ .tree (.text v) .nil) :: outer) .nil).labels =
        (enclose ((c, before) :: outer) .nil).labels ++ [.text v] := by
      intro v
      rw [enclose, enclose, Forest.labels_enclose,
        Forest.labels_enclose outer (.tree c (before ++ .nil))]
      simp [Forest.tree, Forest.labels]
    have hlength : (enclose ((c, before) :: outer) .nil).labels.length =
        extent ((c, before) :: outer) := by
      rw [Forest.length_labels, Forest.size_enclose]
      rfl
    rw [hlast, hlast, ← hlength, List.set_append_right _ _ (Nat.le_refl _), Nat.sub_self]
    rfl

/-- **Text goes to the end of what is in the innermost open node.** -/
theorem pushText_plant (hd : d.WellFormed) (h : ProperNodes ((c, before) :: outer))
    (hc : c.isContainer = true) (hbefore : Markup.Arranged before) {s : String} (hs : s ≠ "") :
    (d.plant (enclose ((c, before) :: outer) .nil)).pushText (d.nextIn outer) s =
      .ok (d.plant (enclose ((c, Markup.appendText s before) :: outer) .nil)) := by
  have hnew : (Content.text s).Proper := trivial
  have hmade := createBelow_plant hd h hc hnew nofun
  have hcontents : ((d.plant (enclose ((c, before) :: outer) .nil)).lastChild?
      (d.nextIn outer)).map (d.plant (enclose ((c, before) :: outer) .nil)).contentAt =
        before.roots.getLast? := map_contentAt_lastChild? hd
  have hempty : ¬s.isEmpty = true := fun hc => hs (String.isEmpty_iff.1 hc)
  unfold pushText
  rw [if_neg hempty]
  by_cases hjoins : Markup.Joins before (.tree (.text s) .nil)
  · -- What comes last, if anything does, is no text.
    rw [Markup.appendText_of_joins hjoins]
    cases hlast : (d.plant (enclose ((c, before) :: outer) .nil)).lastChild? (d.nextIn outer) with
    | none =>
      simp only [hmade]
      rfl
    | some last =>
      rw [hlast] at hcontents
      have hno := hjoins _ hcontents.symm (.text s) rfl
      have hget := get_lastChild? hd h hlast
      simp only [hget, Except.bind]
      cases hlastContent : (d.plant (enclose ((c, before) :: outer) .nil)).contentAt last with
      | text t => exact absurd ⟨by rw [hlastContent]; rfl, rfl⟩ hno
      | fragment | element | comment | shadowRoot =>
        simp only [hmade]
        rfl
  · obtain ⟨front, t, kids, rfl⟩ := Markup.exists_text_of_not_joins hjoins
    have hkids := (Forest.every_tree.1 (Markup.arranged_append.1 hbefore).2.1.nodes).1.2
    subst hkids
    have hlast : (d.plant (enclose ((c, front ++ .tree (.text t) .nil) :: outer) .nil)).lastChild?
        (d.nextIn outer) = some (d.nextIn ((c, front) :: outer)) := by
      have hnext : d.records.size + extent outer + 1 + front.size =
          d.records.size + extent ((c, front) :: outer) := by
        rw [extent]
        omega
      unfold lastChild?
      rw [children_nextIn hd, Forest.numbered_append, Forest.map_append, hnext]
      exact Forest.getLast?_roots_concat _ _ _
    rw [hlast] at hcontents
    have hget := get_lastChild? hd h hlast
    have hcontent : (d.plant (enclose ((c, front ++ .tree (.text t) .nil) :: outer) .nil)).contentAt
        (d.nextIn ((c, front) :: outer)) = .text t := by
      rw [Option.map_some, Forest.getLast?_roots_concat] at hcontents
      exact Option.some.inj hcontents
    rw [hcontent] at hget
    simp only [hlast, hget, Except.bind]
    rw [setContent_lastText, Markup.appendText_append_text]

end Document

/-! ### The reader -/

/-- Reading, half way: the document so far, the open elements, innermost first, and the start tag
that is being read. -/
structure Reader (L : Type) where
  document : Document L
  stack : List NodeId := []
  tag : Option Markup.PendingTag := none

namespace Reader

variable {L : Type}

/-- One token.  What is made goes to the innermost open element, or to the fragment. -/
def step (fragment : NodeId) (r : Reader L) (token : Markup.Token) :
    Except DocumentError (Reader L) :=
  let parent := r.stack.head?.getD fragment
  match token with
  | .startTag name => .ok { r with tag := some ⟨{ tag := name }, none⟩ }
  | .attributeName name =>
    .ok { r with tag := r.tag.map fun t => { t.settle "" with waiting := some name } }
  | .attributeValue value => .ok { r with tag := r.tag.map fun t => t.settle value }
  | .startTagEnd selfClosing =>
    match r.tag with
    | none => .ok r
    | some tag =>
      let element := (tag.settle "").element
      (r.document.createBelow parent (.element element)).map fun (document, id) =>
        { document, stack := if selfClosing || element.isVoid then r.stack else id :: r.stack }
  | .endTag name =>
    match r.stack.findIdx? fun id => r.document.tag? id == some name with
    | some depth => .ok { r with stack := r.stack.drop (depth + 1), tag := none }
    | none => .ok { r with tag := none }
  | .text s => (r.document.pushText parent s).map fun document => { r with document }
  | .comment s =>
    (r.document.createBelow parent (.comment s)).map fun (document, _) => { r with document }

end Reader

/-- Put what tokens say into a new fragment, node by node. -/
def Document.readTokens {L : Type} (d : Document L) (tokens : List Markup.Token) :
    Except DocumentError (Document L × NodeId) :=
  let (document, fragment) := d.create .fragment
  (tokens.foldlM (Reader.step fragment) { document }).map fun r => (r.document, fragment)

namespace Markup.Builder

variable {b : Builder}

/-- The open nodes of a builder, the fragment around all others. -/
def opened (b : Builder) : List (Content × Forest Content) :=
  b.stack.map (fun o => (.element o.element, o.children)) ++ [(.fragment, b.top)]

/-- Trees that are added come last in the innermost open node. -/
theorem exists_opened (b : Builder) : ∃ c outer, c.isContainer = true ∧
    ∀ change, (b.onChildren change).opened = (c, change b.children) :: outer := by
  obtain ⟨top, stack, tag⟩ := b
  cases stack with
  | nil => exact ⟨.fragment, [], rfl, fun _ => rfl⟩
  | cons inner outer => exact ⟨.element inner.element, opened ⟨top, outer, tag⟩, rfl, fun _ => rfl⟩

theorem onChildren_id (b : Builder) : b.onChildren (fun f => f) = b := by
  obtain ⟨top, stack, tag⟩ := b
  cases stack <;> rfl

/-- The innermost element, when it is closed, is the last of the trees in the node around it. -/
theorem exists_opened_close (top : Forest Content) (inner : OpenElement) (outer : List OpenElement)
    (tag : Option PendingTag) : ∃ c front around,
      (Builder.mk top (inner :: outer) tag).opened =
        (.element inner.element, inner.children) :: (c, front) :: around ∧
      (Builder.mk top (inner :: outer) tag).close.opened =
        (c, front ++ .tree (.element inner.element) inner.children) :: around := by
  obtain ⟨c, around, -, hopened⟩ := exists_opened ⟨top, outer, tag⟩
  have hself := hopened fun f => f
  rw [onChildren_id] at hself
  exact ⟨c, _, around, congrArg (_ :: ·) hself,
    hopened (· ++ Forest.tree (.element inner.element) inner.children)⟩

/-- Closing an element changes nothing but that it is closed. -/
theorem enclose_opened_close (b : Builder) :
    enclose b.close.opened .nil = enclose b.opened .nil := by
  obtain ⟨top, stack, tag⟩ := b
  cases stack with
  | nil => rfl
  | cons inner outer =>
    obtain ⟨c, front, around, hopen, hclose⟩ := exists_opened_close top inner outer tag
    rw [hclose, hopen, enclose, enclose, enclose, Forest.append_empty, Forest.append_empty]

theorem enclose_opened_closeMany (b : Builder) (n : Nat) :
    enclose (b.closeMany n).opened .nil = enclose b.opened .nil := by
  induction n generalizing b with
  | zero => rfl
  | succ n ih => rw [closeMany, ih, enclose_opened_close]

theorem length_stack_close (b : Builder) : b.close.stack.length = b.stack.length - 1 := by
  obtain ⟨top, stack, tag⟩ := b
  cases stack with
  | nil => rfl
  | cons inner outer => cases outer <;> rfl

theorem stack_closeMany (b : Builder) {n : Nat} (h : b.stack.length ≤ n) :
    (b.closeMany n).stack = [] := by
  induction n generalizing b with
  | zero => exact List.length_eq_zero_iff.1 (Nat.le_zero.1 h)
  | succ n ih =>
    refine ih b.close ?_
    rw [length_stack_close]
    omega

/-- **The trees that a builder finishes with are its open nodes, closed.** -/
theorem tree_finish (b : Builder) : .tree .fragment b.finish = enclose b.opened .nil := by
  have hstack := b.stack_closeMany (Nat.le_refl _)
  rw [← enclose_opened_closeMany b b.stack.length, opened, hstack]
  show _ = Forest.tree Content.fragment (b.finish ++ .nil)
  rw [Forest.append_empty]

end Markup.Builder

namespace Document

variable {L : Type} {d : Document L} {b : Markup.Builder} {r : Reader L}

/-- The reader is where the builder is: all that the builder has is in the document. -/
structure Reads (d : Document L) (b : Markup.Builder) (r : Reader L) : Prop where
  document : r.document = d.plant (enclose b.opened .nil)
  stack : r.stack ++ [d.nextId] = d.openNames b.opened
  tag : r.tag = b.tag

theorem properNodes_opened (h : b.Fresh) : ProperNodes b.opened := by
  intro node hnode
  rcases List.mem_append.1 hnode with hnode | hnode
  · obtain ⟨o, ho, rfl⟩ := List.mem_map.1 hnode
    obtain ⟨helement, hchildren⟩ := h.stack o ho
    exact ⟨helement.proper, fun x hx => (hchildren x hx).proper⟩
  · rw [List.mem_singleton.1 hnode]
    exact ⟨trivial, fun x hx => (h.top x hx).proper⟩

/-- The innermost open node of the builder, and its name in the document. -/
theorem Reads.exists_innermost (h : d.Reads b r) : ∃ c outer, c.isContainer = true ∧
    b.opened = (c, b.children) :: outer ∧ r.stack.head?.getD d.nextId = d.nextIn outer ∧
    ∀ change, (b.onChildren change).opened = (c, change b.children) :: outer := by
  obtain ⟨c, outer, hc, hopened⟩ := b.exists_opened
  have hself := hopened fun f => f
  rw [Markup.Builder.onChildren_id] at hself
  have hstack := h.stack
  rw [hself, openNames_cons] at hstack
  refine ⟨c, outer, hc, hself, ?_, hopened⟩
  cases hr : r.stack with
  | nil =>
    rw [hr] at hstack
    exact (List.cons.inj hstack).1
  | cons id ids =>
    rw [hr] at hstack
    exact (List.cons.inj hstack).1

/-- The open elements are the same after their trees have changed. -/
theorem Reads.onChildren (h : d.Reads b r) (change : Forest Content → Forest Content) :
    d.Reads (b.onChildren change)
      { r with document := d.plant (enclose (b.onChildren change).opened .nil) } where
  document := rfl
  stack := by
    obtain ⟨c, outer, -, hself, -, hopened⟩ := h.exists_innermost
    have hnames : d.openNames (b.onChildren change).opened = d.openNames b.opened := by
      rw [hopened, hself, openNames_cons, openNames_cons]
    rw [hnames]
    exact h.stack
  tag := h.tag.trans (Markup.Builder.tag_onChildren b change).symm

theorem Reads.createBelow (hd : d.WellFormed) (h : d.Reads b r) (hfresh : b.Fresh)
    (hnew : new.Fresh) : r.document.createBelow (r.stack.head?.getD d.nextId) new =
      .ok (d.plant (enclose (b.add (.tree new .nil)).opened .nil), d.nextIn b.opened) := by
  obtain ⟨c, outer, hc, hself, hparent, hopened⟩ := h.exists_innermost
  have hproper := properNodes_opened hfresh
  rw [hself] at hproper
  have hne : new ≠ .fragment := by
    rintro rfl
    exact hnew
  have hmade := createBelow_plant hd hproper hc hnew.proper hne
  rw [h.document, hparent, hself, hmade]
  exact congrArg (fun stack => Except.ok (d.plant (enclose stack .nil), _))
    (hopened (· ++ Forest.tree new .nil)).symm

theorem Reads.pushText (hd : d.WellFormed) (h : d.Reads b r) (hfresh : b.Fresh)
    (harranged : Markup.Arranged b.children) {s : String} (hs : s ≠ "") :
    r.document.pushText (r.stack.head?.getD d.nextId) s =
      .ok (d.plant (enclose (b.onChildren (Markup.appendText s)).opened .nil)) := by
  obtain ⟨c, outer, hc, hself, hparent, hopened⟩ := h.exists_innermost
  have hproper := properNodes_opened hfresh
  rw [hself] at hproper
  have hpushed := pushText_plant hd hproper hc harranged hs
  rw [h.document, hparent, hself, hpushed]
  exact congrArg (fun stack => Except.ok (d.plant (enclose stack .nil))) (hopened _).symm

/-! ### Closing -/

theorem Reads.close (h : d.Reads b r) : d.Reads b.close { r with stack := r.stack.tail } where
  document := by rw [Markup.Builder.enclose_opened_close, ← h.document]
  stack := by
    obtain ⟨top, stack, tag⟩ := b
    have hstack := h.stack
    cases stack with
    | nil =>
      have hlength : r.stack.length + 1 = 1 :=
        List.length_append.symm.trans (congrArg List.length hstack)
      have hnil : r.stack = [] := List.length_eq_zero_iff.1 (Nat.succ.inj hlength)
      rw [hnil] at hstack ⊢
      exact hstack
    | cons inner outer =>
      obtain ⟨c, front, around, hopen, hclose⟩ :=
        Markup.Builder.exists_opened_close top inner outer tag
      rw [hopen, openNames_cons, openNames_cons] at hstack
      rw [hclose, openNames_cons]
      cases hr : r.stack with
      | nil =>
        rw [hr] at hstack
        exact absurd (List.cons.inj hstack).2.symm (List.cons_ne_nil _ _)
      | cons id ids =>
        rw [hr] at hstack
        exact (List.cons.inj hstack).2
  tag := h.tag.trans b.tag_close.symm

theorem Reads.closeMany (h : d.Reads b r) (n : Nat) :
    d.Reads (b.closeMany n) { r with stack := r.stack.drop n } := by
  induction n generalizing b r with
  | zero => exact h
  | succ n ih =>
    have hrest := ih h.close
    rwa [List.drop_tail] at hrest

theorem mem_sprouts_of_mem_openNames {id : NodeId} (h : id ∈ d.openNames stack)
    (f : Forest Content) : id ∈ (d.sprouts (enclose stack f)).labels := by
  rw [mem_labels_sprouts, Forest.size_enclose]
  induction stack generalizing f with
  | nil => exact absurd h List.not_mem_nil
  | cons node outer ih =>
    obtain ⟨c, before⟩ := node
    rw [extent]
    rcases List.mem_cons.1 h with rfl | h
    · show d.records.size ≤ d.records.size + extent outer ∧
        d.records.size + extent outer < d.records.size + (extent outer + 1 + before.size + f.size)
      omega
    · have hbounds := ih h f
      omega

/-- **Open elements are found by their tags in the document as in the builder.** -/
theorem Reads.findIdx?_eq (hd : d.WellFormed) (h : d.Reads b r) (hfresh : b.Fresh) (name : String) :
    (r.stack.findIdx? fun id => r.document.tag? id == some name) =
      b.stack.findIdx? fun o => o.element.tag == name := by
  have hcontents := d.map_contentAt_openNames b.opened .nil
  rw [← h.stack, ← h.document, Markup.Builder.opened, List.map_append, List.map_append,
    List.map_map] at hcontents
  have hstack := (List.append_inj' hcontents rfl).1
  have htags : r.stack.map r.document.tag? = b.stack.map fun o => some o.element.tag := by
    have hread : ∀ id ∈ r.stack, r.document.tag? id =
        ((r.document.contentAt id).element?).map Element.tag := by
      intro id hid
      have hname : id ∈ d.openNames b.opened := h.stack ▸ List.mem_append_left _ hid
      have hlive : r.document.contains id = true := by
        rw [contains_iff, h.document, forest_plant, Forest.labels_append]
        exact List.mem_append_right _ (mem_sprouts_of_mem_openNames hname .nil)
      have hwf := hd.plant_enclose (properNodes_opened hfresh)
      rw [← h.document] at hwf
      unfold tag? element?
      rw [hwf.content?_eq hlive]
      rfl
    have hmap := congrArg (List.map fun c : Content => c.element?.map Element.tag) hstack
    rw [List.map_map, List.map_map] at hmap
    rw [List.map_congr_left hread]
    exact hmap
  have hleft : (r.stack.findIdx? fun id => r.document.tag? id == some name) =
      (r.stack.map r.document.tag?).findIdx? (· == some name) := by
    rw [List.findIdx?_map]
    rfl
  rw [hleft, htags, List.findIdx?_map]
  rfl

/-! ### All tokens -/

/-- What the builder does with a token the reader does too, and it is not refused. -/
theorem Reads.step (hd : d.WellFormed) (h : d.Reads b r) (hfresh : b.Fresh)
    (harranged : b.Holds Markup.Arranged fun e => e.isVoid = false) (token : Markup.Token) :
    ∃ r', r.step d.nextId token = .ok r' ∧ d.Reads (b.step token) r' := by
  cases token with
  | startTag name => exact ⟨_, rfl, h.document, h.stack, rfl⟩
  | attributeName name =>
    exact ⟨_, rfl, h.document, h.stack, congrArg (Option.map _) h.tag⟩
  | attributeValue value =>
    exact ⟨_, rfl, h.document, h.stack, congrArg (Option.map _) h.tag⟩
  | startTagEnd selfClosing =>
    unfold Reader.step Markup.Builder.step Markup.Builder.completeTag
    simp only
    rw [h.tag]
    cases htag : b.tag with
    | none => exact ⟨r, rfl, h.document, h.stack, h.tag⟩
    | some tag =>
      have hread : d.Reads { b with tag := none } { r with tag := none } :=
        ⟨h.document, h.stack, rfl⟩
      have hreadFresh : Markup.Builder.Fresh { b with tag := none } :=
        hfresh.withTag fun _ hnone => by cases hnone
      have helement : (Content.element (tag.settle "").element).Fresh :=
        Markup.PendingTag.fresh_settle (hfresh.tag tag htag) ""
      have hmade := hread.createBelow hd hreadFresh helement
      simp only at hmade ⊢
      rw [hmade]
      refine ⟨_, rfl, ?_⟩
      split
      · exact hread.onChildren _
      · -- The element is made when its start tag ends, and stays open.
        obtain ⟨c, outer, -, hself, -, hopened⟩ := hread.exists_innermost
        have hadded := hopened (· ++ Forest.tree (.element (tag.settle "").element) .nil)
        refine ⟨?_, congrArg (d.nextIn b.opened :: ·) h.stack, rfl⟩
        rw [Markup.Builder.add, hadded, Forest.enclose_concat, ← hself]
        rfl
  | endTag name =>
    have hread : d.Reads { b with tag := none } { r with tag := none } :=
      ⟨h.document, h.stack, rfl⟩
    have hfound := h.findIdx?_eq hd hfresh name
    unfold Reader.step Markup.Builder.step Markup.Builder.closeThrough
    simp only
    rw [hfound]
    cases b.stack.findIdx? fun o => o.element.tag == name with
    | none => exact ⟨_, rfl, hread⟩
    | some depth => exact ⟨_, rfl, hread.closeMany (depth + 1)⟩
  | text s =>
    unfold Reader.step Markup.Builder.step
    simp only
    split
    · next hempty =>
      refine ⟨r, ?_, h⟩
      unfold Document.pushText
      rw [if_pos hempty]
      rfl
    · next hs =>
      rw [String.isEmpty_iff] at hs
      rw [h.pushText hd hfresh harranged.children hs]
      exact ⟨_, rfl, h.onChildren _⟩
  | comment s =>
    have hcomment : (Content.comment s).Fresh := trivial
    unfold Reader.step Markup.Builder.step
    simp only
    rw [h.createBelow hd hfresh hcomment]
    exact ⟨_, rfl, h.onChildren _⟩

theorem Reads.foldlM (hd : d.WellFormed) (h : d.Reads b r) (hfresh : b.Fresh)
    (harranged : b.Holds Markup.Arranged fun e => e.isVoid = false) (tokens : List Markup.Token) :
    ∃ r', tokens.foldlM (Reader.step d.nextId) r = .ok r' ∧
      d.Reads (tokens.foldl Markup.Builder.step b) r' := by
  induction tokens generalizing b r with
  | nil => exact ⟨r, rfl, h⟩
  | cons token rest ih =>
    obtain ⟨r₁, hstep, h₁⟩ := h.step hd hfresh harranged token
    obtain ⟨r', hrest, h'⟩ := ih h₁ (hfresh.step token) (Markup.arranged_step harranged token)
    refine ⟨r', ?_, h'⟩
    rw [List.foldlM_cons, hstep]
    exact hrest

/-- **Reading node by node is never refused, whatever the tokens, and makes the fragment that is
planted at once.** -/
theorem readTokens_eq (hd : d.WellFormed) (tokens : List Markup.Token) :
    d.readTokens tokens = .ok (d.plant (.tree .fragment (Markup.build tokens)), d.nextId) := by
  have hstart : d.Reads {} { document := (d.create .fragment).1 } := ⟨rfl, rfl, rfl⟩
  obtain ⟨r, hread, hend⟩ := hstart.foldlM hd Markup.Builder.fresh_empty
    ⟨Markup.arranged_nil, nofun⟩ tokens
  have hdocument := hend.document
  rw [← Markup.Builder.tree_finish] at hdocument
  show (tokens.foldlM (Reader.step d.nextId) { document := (d.create .fragment).1 }).map _ = _
  rw [hread]
  exact congrArg (fun document => Except.ok (document, d.nextId)) hdocument

end Document

end LiveMarkup
