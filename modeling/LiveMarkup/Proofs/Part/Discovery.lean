/-
Which parts a tree has.

Discovery goes over the nodes of a tree and stops at the first marker it cannot use.
There is nothing else that can stop it: it goes through exactly when every token names a
slot that is there (`Content.MarkersBelow`), and then each node has the part that can
be read off its content, `Part.of?`.

Parts made in this way are as the rest of the development wants them: they fit what they
were made of, bind no attribute twice, and read the slots that their texts name.
-/
import LiveMarkup.Proofs.Marker
import LiveMarkup.Proofs.Part.Writing

namespace LiveMarkup

open Marker (Found scan replaced isMarker isPropertyBinding)

namespace Content

/-- The texts in which markers stand for slots. -/
def markedTexts : Content → List String
  | .text s => [s]
  | .element e => e.attributes.entries.map Prod.snd
  | .fragment | .comment _ | .shadowRoot => []

/-- Every token in these texts names one of the first `slots` slots. -/
def MarkersBelow (slots : Nat) (c : Content) : Prop :=
  ∀ s ∈ c.markedTexts, ∀ found ∈ scan s, ∃ index, found.index? = some index ∧ index < slots

instance (slots : Nat) (c : Content) : Decidable (c.MarkersBelow slots) :=
  decidable_of_iff
    (∀ s ∈ c.markedTexts, ∀ found ∈ scan s, (found.index?.any (· < slots)) = true)
    (by simp [MarkersBelow, Option.any_eq_true])

/-- The slots that these texts name, in order. -/
def slotsRead (c : Content) : List Nat := c.markedTexts.flatMap replaced

/-- Being usable is two things: every token is a number, and the numbers are small enough. -/
theorem markersBelow_iff {slots : Nat} {c : Content} :
    c.MarkersBelow slots ↔
      (∀ s ∈ c.markedTexts, ∀ found ∈ scan s, found.index?.isSome = true) ∧
        ∀ index ∈ c.slotsRead, index < slots := by
  constructor
  · intro h
    refine ⟨fun s hs found hfound => ?_, fun index hindex => ?_⟩
    · obtain ⟨index, hindex, -⟩ := h s hs found hfound
      rw [hindex]
      rfl
    · obtain ⟨s, hs, hindex⟩ := List.mem_flatMap.1 hindex
      obtain ⟨found, hfound, hsome⟩ := List.mem_filterMap.1 hindex
      obtain ⟨index', hindex', hlt⟩ := h s hs found hfound
      rw [hsome, Option.some.injEq] at hindex'
      exact hindex' ▸ hlt
  · rintro ⟨hsome, hlt⟩ s hs found hfound
    obtain ⟨index, hindex⟩ := Option.isSome_iff_exists.1 (hsome s hs found hfound)
    refine ⟨index, hindex, hlt index (List.mem_flatMap.2 ⟨s, hs, ?_⟩)⟩
    exact List.mem_filterMap.2 ⟨found, hfound, hindex⟩

end Content

/-! ### Bindings -/

namespace Binding

/-- Whether an attribute is bound. -/
def isBound (name value : String) : Bool := isMarker value || isPropertyBinding name

/-- The binding of an attribute whose tokens are all numbers. -/
def ofMarked (name value : String) : Binding :=
  ⟨value, replaced value, Marker.cleanName name, isPropertyBinding name⟩

end Binding

namespace AttributePart

/-- The bindings of a list of attributes whose tokens are all numbers. -/
def boundEntries (entries : List (String × String)) : List (String × Binding) :=
  (entries.filter fun entry => Binding.isBound entry.1 entry.2).map fun entry =>
    (entry.1, Binding.ofMarked entry.1 entry.2)

theorem bindingsOf_eq_ok_iff (entries : List (String × String))
    (bindings : List (String × Binding)) :
    bindingsOf entries = .ok bindings ↔
      (∀ entry ∈ entries, ∀ found ∈ scan entry.2, found.index?.isSome = true) ∧
        bindings = boundEntries entries := by
  induction entries generalizing bindings with
  | nil =>
    show Except.ok [] = Except.ok bindings ↔ _
    rw [Except.ok.injEq]
    exact ⟨fun h => ⟨fun e he => absurd he List.not_mem_nil, h.symm⟩, fun h => h.2.symm⟩
  | cons entry rest ih =>
    obtain ⟨name, value⟩ := entry
    cases hbound : isMarker value || isPropertyBinding name with
    | false =>
      -- Such a value has no token at all.
      obtain ⟨hmarker, hproperty⟩ := Bool.or_eq_false_iff.1 hbound
      have hscan : scan value = [] := by simpa [isMarker] using hmarker
      have hstep : bindingsOf ((name, value) :: rest) = bindingsOf rest := by
        simp [bindingsOf, Binding.ofAttribute?, hbound, Except.bind]
      rw [hstep, ih]
      simp [boundEntries, Binding.isBound, hbound, hscan]
    | true =>
      cases hindices : Marker.indices value with
      | error e =>
        have hbad : ¬ ∀ found ∈ scan value, found.index?.isSome = true := by
          intro hall
          have hok := (Marker.indices_eq_ok_iff value _).2 ⟨hall, rfl⟩
          rw [hindices] at hok
          cases hok
        simp only [bindingsOf, Binding.ofAttribute?, hbound, if_true, hindices, Except.bind,
          reduceCtorEq, List.mem_cons, forall_eq_or_imp, hbad, false_and]
      | ok slots =>
        obtain ⟨hall, rfl⟩ := (Marker.indices_eq_ok_iff value slots).1 hindices
        have hentries : boundEntries ((name, value) :: rest) =
            (name, Binding.ofMarked name value) :: boundEntries rest := by
          simp [boundEntries, Binding.isBound, hbound]
        have hstep : bindingsOf ((name, value) :: rest) =
            (bindingsOf rest).map ((name, Binding.ofMarked name value) :: ·) := by
          simp [bindingsOf, Binding.ofAttribute?, hbound, hindices, Except.bind, Binding.ofMarked]
        rw [hstep, hentries]
        constructor
        · intro h
          cases hrest : bindingsOf rest with
          | error e => rw [hrest] at h; cases h
          | ok bound =>
            obtain ⟨hothers, rfl⟩ := (ih bound).1 hrest
            rw [hrest] at h
            cases h
            exact ⟨List.forall_mem_cons.2 ⟨hall, hothers⟩, rfl⟩
        · rintro ⟨hentry, rfl⟩
          rw [(ih _).2 ⟨(List.forall_mem_cons.1 hentry).2, rfl⟩]
          rfl

theorem map_fst_boundEntries_sublist (entries : List (String × String)) :
    ((boundEntries entries).map Prod.fst).Sublist (entries.map Prod.fst) := by
  unfold boundEntries
  rw [List.map_map]
  exact List.filter_sublist.map _

end AttributePart

/-! ### The part of a node -/

namespace Part

/-- The part of a node whose tokens are all numbers. -/
def of? (id : NodeId) : Content → Option Part
  | .text s => if isMarker s then some (content ⟨id, s, replaced s⟩) else none
  | .element e =>
    let bindings := AttributePart.boundEntries e.attributes.entries
    if bindings.isEmpty then none else some (attributes ⟨id, ⟨bindings⟩⟩)
  | .fragment | .comment _ | .shadowRoot => none

variable {id : NodeId} {c : Content} {p : Part}

theorem ofContent?_eq_ok_iff (id : NodeId) (c : Content) (found? : Option Part) :
    ofContent? id c = .ok found? ↔
      (∀ s ∈ c.markedTexts, ∀ found ∈ scan s, found.index?.isSome = true) ∧
        found? = of? id c := by
  cases c with
  | fragment | comment | shadowRoot =>
    show Except.ok none = Except.ok found? ↔ _
    rw [Except.ok.injEq]
    exact ⟨fun h => ⟨fun s hs => absurd hs List.not_mem_nil, h.symm⟩, fun h => h.2.symm⟩
  | text s =>
    cases hmarker : isMarker s with
    | false =>
      have hscan : scan s = [] := by simpa [isMarker] using hmarker
      have hof : ofContent? id (.text s) = .ok none := by simp [ofContent?, hmarker]
      have hnone : of? id (.text s) = none := by simp [of?, hmarker]
      rw [hof, hnone, Except.ok.injEq]
      refine ⟨fun h => ⟨fun s' hs' => ?_, h.symm⟩, fun h => h.2.symm⟩
      rw [List.mem_singleton.1 hs', hscan]
      exact fun found hfound => absurd hfound List.not_mem_nil
    | true =>
      cases hindices : Marker.indices s with
      | error e =>
        have hbad : ¬ ∀ found ∈ scan s, found.index?.isSome = true := by
          intro hall
          have hok := (Marker.indices_eq_ok_iff s _).2 ⟨hall, rfl⟩
          rw [hindices] at hok
          cases hok
        simp only [ofContent?, hmarker, if_true, ContentPart.ofText, hindices, Except.map,
          reduceCtorEq, Content.markedTexts, List.mem_cons, List.not_mem_nil, or_false,
          forall_eq, hbad, false_and]
      | ok slots =>
        obtain ⟨hall, rfl⟩ := (Marker.indices_eq_ok_iff s slots).1 hindices
        simp only [ofContent?, hmarker, if_true, ContentPart.ofText, hindices, Except.map,
          Except.ok.injEq, of?, Content.markedTexts, List.mem_cons, List.not_mem_nil, or_false,
          forall_eq]
        exact ⟨fun h => ⟨hall, h.symm⟩, fun h => h.2.symm⟩
  | element e =>
    have hall : (∀ s ∈ (Content.element e).markedTexts, ∀ found ∈ scan s,
          found.index?.isSome = true) ↔
        ∀ entry ∈ e.attributes.entries, ∀ found ∈ scan entry.2, found.index?.isSome = true :=
      List.forall_mem_map
    have hof : ofContent? id (.element e) =
        (AttributePart.bindingsOf e.attributes.entries).map fun bindings =>
          if bindings.isEmpty then none else some (attributes ⟨id, ⟨bindings⟩⟩) := by
      show (AttributePart.ofElement? id e).map (Option.map attributes) = _
      unfold AttributePart.ofElement?
      generalize AttributePart.bindingsOf e.attributes.entries = bindings
      cases bindings with
      | error err => rfl
      | ok bound =>
        show Except.ok (Option.map attributes (if bound.isEmpty then none else _)) =
          Except.ok (if bound.isEmpty then none else _)
        split <;> rfl
    rw [hall, hof]
    constructor
    · intro h
      cases hbindings : AttributePart.bindingsOf e.attributes.entries with
      | error err => rw [hbindings] at h; cases h
      | ok bound =>
        obtain ⟨hentries, rfl⟩ := (AttributePart.bindingsOf_eq_ok_iff _ _).1 hbindings
        rw [hbindings] at h
        cases h
        exact ⟨hentries, rfl⟩
    · rintro ⟨hentries, rfl⟩
      rw [(AttributePart.bindingsOf_eq_ok_iff _ _).2 ⟨hentries, rfl⟩]
      rfl

theorem node_of? (h : of? id c = some p) : p.node = id := by
  cases c with
  | fragment | comment | shadowRoot => cases h
  | text s =>
    simp only [of?, Option.ite_none_right_eq_some, Option.some.injEq] at h
    rw [← h.2]
    rfl
  | element e =>
    simp only [of?, Option.ite_none_left_eq_some, Option.some.injEq] at h
    rw [← h.2]
    rfl

theorem fits_of? (h : of? id c = some p) : p.Fits c := by
  cases c with
  | fragment | comment | shadowRoot => cases h
  | text s =>
    simp only [of?, Option.ite_none_right_eq_some, Option.some.injEq] at h
    rw [← h.2]
    trivial
  | element e =>
    simp only [of?, Option.ite_none_left_eq_some, Option.some.injEq] at h
    rw [← h.2]
    trivial

theorem proper_of? (hc : c.Proper) (h : of? id c = some p) : p.Proper := by
  cases c with
  | fragment | comment | shadowRoot => cases h
  | text s =>
    simp only [of?, Option.ite_none_right_eq_some, Option.some.injEq] at h
    rw [← h.2]
    exact rfl
  | element e =>
    simp only [of?, Option.ite_none_left_eq_some, Option.some.injEq] at h
    rw [← h.2]
    refine ⟨hc.1.sublist (AttributePart.map_fst_boundEntries_sublist _), fun entry hentry => ?_⟩
    obtain ⟨held, -, rfl⟩ := List.mem_map.1 hentry
    rfl

theorem replaced_of_not_isBound {name value : String} (h : Binding.isBound name value = false) :
    replaced value = [] :=
  Marker.replaced_of_not_isMarker (Bool.or_eq_false_iff.1 h).1

/-- The slots of a bound attribute are those of its text, and an attribute that is not bound
has none. -/
theorem flatMap_indices_boundEntries (entries : List (String × String)) :
    (AttributePart.boundEntries entries).flatMap (fun entry => entry.2.indices) =
      (entries.map Prod.snd).flatMap replaced := by
  induction entries with
  | nil => rfl
  | cons entry rest ih =>
    rw [List.map_cons, List.flatMap_cons, ← ih]
    cases hbound : Binding.isBound entry.1 entry.2 with
    | false => simp [AttributePart.boundEntries, hbound, replaced_of_not_isBound hbound]
    | true => simp [AttributePart.boundEntries, hbound, Binding.ofMarked]

/-- **The part of a node reads the slots that its texts name.** -/
theorem indices_of? (h : of? id c = some p) : p.indices = c.slotsRead := by
  cases c with
  | fragment | comment | shadowRoot => cases h
  | text s =>
    simp only [of?, Option.ite_none_right_eq_some, Option.some.injEq] at h
    rw [← h.2]
    simp [indices, Content.slotsRead, Content.markedTexts]
  | element e =>
    simp only [of?, Option.ite_none_left_eq_some, Option.some.injEq] at h
    rw [← h.2]
    exact flatMap_indices_boundEntries _

theorem slotsRead_of_of?_eq_none (h : of? id c = none) : c.slotsRead = [] := by
  cases c with
  | fragment | comment | shadowRoot => rfl
  | text s =>
    have hmarker : isMarker s = false := by simpa [of?] using h
    simp [Content.slotsRead, Content.markedTexts, Marker.replaced_of_not_isMarker hmarker]
  | element e =>
    have hempty : AttributePart.boundEntries e.attributes.entries = [] := by simpa [of?] using h
    show (e.attributes.entries.map Prod.snd).flatMap replaced = []
    rw [← flatMap_indices_boundEntries, hempty]
    rfl

/-! ### All parts -/

theorem checkSlots_eq_ok_iff (slots : Nat) (p : Part) :
    p.checkSlots slots = .ok () ↔ ∀ index ∈ p.indices, index < slots := by
  unfold checkSlots
  cases hfind : p.indices.find? (slots ≤ ·) with
  | none =>
    rw [List.find?_eq_none] at hfind
    simpa using hfind
  | some index =>
    have hmem := List.mem_of_find?_eq_some hfind
    have hle : slots ≤ index := by simpa using List.find?_some hfind
    simp only [reduceCtorEq, false_iff]
    intro hall
    have hlt := hall index hmem
    omega

/-- **Discovery goes through exactly when every token names a slot that is there**, and then
it finds the part of every node. -/
theorem discoverIn_eq_ok_iff (slots : Nat) (nodes : List (NodeId × Content)) (parts : List Part) :
    discoverIn slots nodes = .ok parts ↔
      (∀ n ∈ nodes, n.2.MarkersBelow slots) ∧
        parts = nodes.filterMap fun n => of? n.1 n.2 := by
  induction nodes generalizing parts with
  | nil =>
    show Except.ok [] = Except.ok parts ↔ _
    rw [Except.ok.injEq]
    exact ⟨fun h => ⟨fun n hn => absurd hn List.not_mem_nil, h.symm⟩, fun h => h.2.symm⟩
  | cons n rest ih =>
    obtain ⟨id, c⟩ := n
    rw [List.forall_mem_cons, List.filterMap_cons]
    by_cases htokens : ∀ s ∈ c.markedTexts, ∀ found ∈ scan s, found.index?.isSome = true
    · have hof : ofContent? id c = .ok (of? id c) :=
        (ofContent?_eq_ok_iff id c _).2 ⟨htokens, rfl⟩
      cases hpart : of? id c with
      | none =>
        have hbelow : c.MarkersBelow slots :=
          Content.markersBelow_iff.2 ⟨htokens, by simp [slotsRead_of_of?_eq_none hpart]⟩
        have hstep : discoverIn slots ((id, c) :: rest) = discoverIn slots rest := by
          simp only [discoverIn, hof, hpart]
          rfl
        rw [hstep, ih]
        simp [hbelow]
      | some p =>
        by_cases hslots : ∀ index ∈ p.indices, index < slots
        · have hbelow : c.MarkersBelow slots :=
            Content.markersBelow_iff.2 ⟨htokens, by rw [← indices_of? hpart]; exact hslots⟩
          have hstep : discoverIn slots ((id, c) :: rest) =
              (discoverIn slots rest).map (p :: ·) := by
            simp only [discoverIn, hof, hpart]
            show (do p.checkSlots slots; return p :: (← discoverIn slots rest)) = _
            rw [(checkSlots_eq_ok_iff slots p).2 hslots]
            rfl
          rw [hstep]
          constructor
          · intro h
            cases hrest : discoverIn slots rest with
            | error e => rw [hrest] at h; cases h
            | ok others =>
              obtain ⟨hothers, rfl⟩ := (ih others).1 hrest
              rw [hrest] at h
              cases h
              exact ⟨⟨hbelow, hothers⟩, rfl⟩
          · rintro ⟨⟨-, hothers⟩, rfl⟩
            rw [(ih _).2 ⟨hothers, rfl⟩]
            rfl
        · have hbad : ¬ c.MarkersBelow slots := fun hc =>
            hslots (by rw [indices_of? hpart]; exact (Content.markersBelow_iff.1 hc).2)
          simp only [hbad, false_and, iff_false]
          intro h
          simp only [discoverIn, hof, hpart] at h
          cases hcheck : p.checkSlots slots with
          | ok u => exact hslots ((checkSlots_eq_ok_iff slots p).1 hcheck)
          | error e =>
            change (do p.checkSlots slots; return p :: (← discoverIn slots rest)) = _ at h
            rw [hcheck] at h
            cases h
    · have hbad : ¬ c.MarkersBelow slots := fun hc => htokens (Content.markersBelow_iff.1 hc).1
      simp only [hbad, false_and, iff_false]
      intro h
      cases hof : ofContent? id c with
      | ok found? => exact htokens ((ofContent?_eq_ok_iff id c found?).1 hof).1
      | error e =>
        simp only [discoverIn, hof] at h
        cases h

/-- Parts that are found fit what they are found in. -/
theorem fits_of_discover {L : Type} {d : Document L} {x : NodeId} {slots : Nat}
    {parts : List Part} (h : discover d x slots = .ok parts) : ∀ p ∈ parts, p.Fits (d.contentAt p.node) := by
  obtain ⟨-, rfl⟩ := (discoverIn_eq_ok_iff _ _ _).1 h
  intro p hp
  obtain ⟨⟨other, c⟩, hfound, hpart⟩ := List.mem_filterMap.1 hp
  obtain ⟨_, -, heq⟩ := List.mem_map.1 hfound
  cases heq
  rw [node_of? hpart]
  exact fits_of? hpart

end Part

end LiveMarkup
