/-
Why discovery stops.

`discoverIn_eq_ok_iff` says when discovery goes through; here is what it stops with when it
does not.  Every content has at most one fault (`Content.fault?`): its first token without
an index, or else its first index that is too large.  Discovery stops with the first
fault on its way (`discoverIn_eq_error_iff`).

So the reason depends on what the nodes hold and not on which nodes they are.  The same
markup, parsed once more somewhere else, stops discovery for the same reason.
-/
import LiveMarkup.Proofs.Part.Discovery

namespace LiveMarkup

namespace TemplateError

/-- Whether the reason is a marker that cannot be used. -/
def isBadMarker : TemplateError → Bool
  | malformedMarker _ | slotOutOfRange _ _ => true
  | document _ | notRendered | alreadyRendered => false

end TemplateError

/-! ### Faults of a content -/

namespace Content

/-- The first token without an index in the texts where markers stand for slots. -/
def malformed? (c : Content) : Option Marker.Malformed :=
  c.markedTexts.findSome? Marker.malformed?

/-- What is wrong with the markers of a content.  A number that is too large only counts when
all tokens are numbers. -/
def fault? (slots : Nat) (c : Content) : Option TemplateError :=
  match c.malformed? with
  | some e => some (.ofMalformed e)
  | none => (c.slotsRead.find? (slots ≤ ·)).map fun index => .slotOutOfRange index slots

variable {slots : Nat} {c : Content} {e : TemplateError}

theorem malformed?_eq_none_iff :
    c.malformed? = none ↔
      ∀ s ∈ c.markedTexts, ∀ found ∈ Marker.scan s, found.index?.isSome = true := by
  unfold malformed?
  rw [List.findSome?_eq_none_iff]
  exact forall₂_congr fun s _ => Marker.malformed?_eq_none_iff s

/-- **A content has no fault exactly when every token names a slot that is there.** -/
theorem fault?_eq_none_iff : c.fault? slots = none ↔ c.MarkersBelow slots := by
  rw [markersBelow_iff, ← malformed?_eq_none_iff]
  unfold fault?
  cases c.malformed? with
  | some e => simp
  | none => simp

theorem isBadMarker_of_fault? (h : c.fault? slots = some e) : e.isBadMarker = true := by
  unfold fault? at h
  split at h
  · cases h
    rfl
  · obtain ⟨index, -, rfl⟩ := Option.map_eq_some_iff.1 h
    rfl

end Content

/-! ### The reason -/

namespace AttributePart

theorem bindingsOf_eq_error_iff (entries : List (String × String)) (e : TemplateError) :
    bindingsOf entries = .error e ↔
      ((entries.map Prod.snd).findSome? Marker.malformed?).map .ofMalformed = some e := by
  induction entries with
  | nil => simp [bindingsOf]
  | cons entry rest ih =>
    obtain ⟨name, value⟩ := entry
    rw [List.map_cons, List.findSome?_cons]
    cases hbound : Marker.isMarker value || Marker.isPropertyBinding name with
    | false =>
      -- Such a value has no token at all.
      have hscan : Marker.scan value = [] := by
        simpa [Marker.isMarker] using (Bool.or_eq_false_iff.1 hbound).1
      have hnone : Marker.malformed? value = none := by simp [Marker.malformed?, hscan]
      have hstep : bindingsOf ((name, value) :: rest) = bindingsOf rest := by
        simp [bindingsOf, Binding.ofAttribute?, hbound, Except.bind]
      rw [hstep, hnone]
      exact ih
    | true =>
      cases hindices : Marker.indices value with
      | error malformed =>
        rw [(Marker.indices_eq_error_iff value malformed).1 hindices]
        simp [bindingsOf, Binding.ofAttribute?, hbound, hindices, Except.bind]
      | ok slots =>
        have hnone : Marker.malformed? value = none :=
          (Marker.malformed?_eq_none_iff value).2 ((Marker.indices_eq_ok_iff value slots).1 hindices).1
        have hstep : bindingsOf ((name, value) :: rest) = (bindingsOf rest).map
            ((name, ⟨value, slots, Marker.cleanName name, Marker.isPropertyBinding name⟩) :: ·) := by
          simp [bindingsOf, Binding.ofAttribute?, hbound, hindices, Except.bind]
        rw [hstep, hnone]
        cases hrest : bindingsOf rest with
        | error err => rw [hrest] at ih; exact ih
        | ok bound =>
          rw [hrest] at ih
          simp only [Except.map, reduceCtorEq, false_iff] at ih ⊢
          exact ih

end AttributePart

namespace Part

theorem ofContent?_eq_error_iff (id : NodeId) (c : Content) (e : TemplateError) :
    ofContent? id c = .error e ↔ c.malformed?.map .ofMalformed = some e := by
  cases c with
  | fragment | comment | shadowRoot =>
    simp [ofContent?, Content.malformed?, Content.markedTexts]
  | text s =>
    have hmalformed : (Content.text s).malformed? = Marker.malformed? s := by
      simp [Content.malformed?, Content.markedTexts]
    rw [hmalformed]
    cases hmarker : Marker.isMarker s with
    | false =>
      have hscan : Marker.scan s = [] := by simpa [Marker.isMarker] using hmarker
      simp [ofContent?, hmarker, Marker.malformed?, hscan]
    | true =>
      cases hindices : Marker.indices s with
      | error malformed =>
        rw [(Marker.indices_eq_error_iff s malformed).1 hindices]
        simp [ofContent?, hmarker, ContentPart.ofText, hindices, Except.map]
      | ok slots =>
        rw [(Marker.malformed?_eq_none_iff s).2 ((Marker.indices_eq_ok_iff s slots).1 hindices).1]
        simp [ofContent?, hmarker, ContentPart.ofText, hindices, Except.map]
  | element element =>
    show (AttributePart.ofElement? id element).map (Option.map attributes) = .error e ↔
      ((element.attributes.entries.map Prod.snd).findSome? Marker.malformed?).map _ = some e
    rw [← AttributePart.bindingsOf_eq_error_iff]
    unfold AttributePart.ofElement?
    cases AttributePart.bindingsOf element.attributes.entries with
    | error err =>
      constructor
      · intro h
        cases h
        rfl
      · intro h
        cases h
        rfl
    | ok bound =>
      constructor
      · intro h
        cases h
      · intro h
        cases h

/-- What one node contributes: it stops discovery by its fault, or else its part is listed if
there is one. -/
theorem discoverIn_cons (slots : Nat) (id : NodeId) (c : Content)
    (rest : List (NodeId × Content)) :
    discoverIn slots ((id, c) :: rest) =
      match c.fault? slots with
      | some e => .error e
      | none => (discoverIn slots rest).map ((of? id c).toList ++ ·) := by
  unfold Content.fault?
  cases hmalformed : c.malformed? with
  | some malformed =>
    have herror := (ofContent?_eq_error_iff id c (.ofMalformed malformed)).2 (by rw [hmalformed]; rfl)
    simp only [discoverIn, herror]
    rfl
  | none =>
    have hok : ofContent? id c = .ok (of? id c) :=
      (ofContent?_eq_ok_iff id c _).2 ⟨Content.malformed?_eq_none_iff.1 hmalformed, rfl⟩
    simp only [discoverIn, hok]
    cases hpart : of? id c with
    | none =>
      rw [slotsRead_of_of?_eq_none hpart]
      show discoverIn slots rest = (discoverIn slots rest).map _
      cases discoverIn slots rest <;> rfl
    | some p =>
      rw [← indices_of? hpart]
      show (do p.checkSlots slots; return p :: (← discoverIn slots rest)) = _
      unfold checkSlots
      cases p.indices.find? (slots ≤ ·) with
      | some index => rfl
      | none =>
        show (do return p :: (← discoverIn slots rest)) = (discoverIn slots rest).map _
        cases discoverIn slots rest <;> rfl

/-- **Discovery stops with the first fault on its way.** -/
theorem discoverIn_eq_error_iff (slots : Nat) (nodes : List (NodeId × Content))
    (e : TemplateError) :
    discoverIn slots nodes = .error e ↔
      (nodes.map Prod.snd).findSome? (Content.fault? slots) = some e := by
  induction nodes with
  | nil => exact ⟨nofun, nofun⟩
  | cons n rest ih =>
    obtain ⟨id, c⟩ := n
    rw [discoverIn_cons, List.map_cons, List.findSome?_cons]
    cases c.fault? slots with
    | some fault => simp
    | none =>
      simp only
      rw [← ih]
      cases discoverIn slots rest with
      | error err => exact Iff.rfl
      | ok parts => exact ⟨nofun, nofun⟩

theorem discoverIn_map_eq_error_iff (slots : Nat) (nodes : List NodeId)
    (content : NodeId → Content) (e : TemplateError) :
    discoverIn slots (nodes.map fun id => (id, content id)) = .error e ↔
      (nodes.map content).findSome? (Content.fault? slots) = some e := by
  rw [discoverIn_eq_error_iff, List.map_map]
  rfl

/-- Whatever stops discovery, it is not the document. -/
theorem discoverIn_ne_document (slots : Nat) (nodes : List (NodeId × Content))
    (e : DocumentError) : discoverIn slots nodes ≠ .error (.document e) := by
  intro h
  obtain ⟨c, -, hfault⟩ := List.exists_of_findSome?_eq_some
    ((discoverIn_eq_error_iff slots nodes _).1 h)
  exact absurd (Content.isBadMarker_of_fault? hfault) nofun

/-- Nodes that have no part may be passed over. -/
theorem discoverIn_filter (slots : Nat) (keep : NodeId × Content → Bool)
    (nodes : List (NodeId × Content))
    (hpassed : ∀ n ∈ nodes, keep n = false → n.2.markedTexts = []) :
    discoverIn slots (nodes.filter keep) = discoverIn slots nodes := by
  induction nodes with
  | nil => rfl
  | cons n rest ih =>
    have hrest := ih fun n hn => hpassed n (List.mem_cons_of_mem _ hn)
    cases hkeep : keep n with
    | true =>
      rw [List.filter_cons_of_pos hkeep, discoverIn_cons, discoverIn_cons, hrest]
    | false =>
      have hempty := hpassed n (List.mem_cons_self ..) hkeep
      obtain ⟨id, c⟩ := n
      rw [List.filter_cons_of_neg (by simp [hkeep]), hrest]
      cases c with
      | fragment | comment | shadowRoot => rfl
      | text s => cases hempty
      | element e =>
        have hnone : e.attributes.entries = [] := List.map_eq_nil_iff.1 hempty
        simp only [discoverIn, ofContent?, AttributePart.ofElement?, hnone]
        rfl

end Part

end LiveMarkup
