/-
What a text refers to.

`indices`, `replaced` and `substitute` each go over the segments of a text on their own.
Here they are tied together: a text whose tokens all have an index refers to exactly the
slots that replacing looks up (`indices_eq_ok_iff`), and what replacing makes of a text
depends on what those slots give and on nothing else (`substitute_congr`).
-/
import LiveMarkup.Marker
import Mathlib.Tactic.Common

namespace LiveMarkup.Marker

/-- The texts between the delimiters of the tokens among `segs`. -/
def bodies (segs : List Segment) : List (List Char) :=
  segs.filterMap fun
    | .plain _ => none
    | .token body => some body

theorem map_body_foundFrom (offset : Nat) (segs : List Segment) :
    (foundFrom offset segs).map Found.body = bodies segs := by
  induction segs generalizing offset with
  | nil => rfl
  | cons seg rest ih =>
    cases seg with
    | plain text => exact ih _
    | token body => exact congrArg (body :: ·) (ih _)

theorem map_body_scan (text : String) : (scan text).map Found.body = bodies (segments text.toList) :=
  map_body_foundFrom 0 _

theorem replaced_eq (text : String) :
    replaced text = (bodies (segments text.toList)).filterMap index? := by
  rw [← map_body_scan, List.filterMap_map]
  rfl

theorem isMarker_eq_false_iff (text : String) :
    isMarker text = false ↔ bodies (segments text.toList) = [] := by
  rw [← map_body_scan, List.map_eq_nil_iff]
  simp [isMarker]

/-! ### Listing slots -/

theorem indicesOf_eq_ok_iff (segs : List Segment) (slots : List Nat) :
    indicesOf segs = .ok slots ↔
      (∀ body ∈ bodies segs, (index? body).isSome = true) ∧
        slots = (bodies segs).filterMap index? := by
  induction segs generalizing slots with
  | nil =>
    show Except.ok [] = Except.ok slots ↔ _
    rw [Except.ok.injEq]
    exact ⟨fun h => ⟨fun body hbody => absurd hbody List.not_mem_nil, h.symm⟩, fun h => h.2.symm⟩
  | cons seg rest ih =>
    cases seg with
    | plain text => simpa [indicesOf, bodies] using ih slots
    | token body =>
      have hbodies : bodies (.token body :: rest) = body :: bodies rest := rfl
      rw [hbodies]
      cases hindex : index? body with
      | none => simp [indicesOf, hindex]
      | some index =>
        cases hrest : indicesOf rest with
        | error e =>
          have hbad : ¬ ∀ b ∈ bodies rest, (index? b).isSome = true := by
            intro hall
            have hok := (ih _).2 ⟨hall, rfl⟩
            rw [hrest] at hok
            cases hok
          simp only [indicesOf, hindex, hrest, Except.map, reduceCtorEq, List.mem_cons,
            forall_eq_or_imp, hbad, and_false, false_and]
        | ok listed =>
          obtain ⟨hall, rfl⟩ := (ih listed).1 hrest
          simp only [indicesOf, hindex, hrest, Except.map, Except.ok.injEq, List.mem_cons,
            forall_eq_or_imp, Option.isSome_some, true_and, List.filterMap_cons]
          exact ⟨fun h => ⟨hall, h.symm⟩, fun h => h.2.symm⟩

/-- **A text lists its slots exactly when every token has an index**, and then it lists the
slots that replacing looks up. -/
theorem indices_eq_ok_iff (text : String) (slots : List Nat) :
    indices text = .ok slots ↔
      (∀ found ∈ scan text, found.index?.isSome = true) ∧ slots = replaced text := by
  unfold indices
  rw [indicesOf_eq_ok_iff, replaced_eq, ← map_body_scan]
  simp [Found.index?]

theorem replaced_of_not_isMarker {text : String} (h : isMarker text = false) :
    replaced text = [] := by
  rw [replaced_eq, (isMarker_eq_false_iff text).1 h]
  rfl

/-! ### Tokens without an index -/

/-- The first token of a text that has no index. -/
def malformed? (text : String) : Option Malformed :=
  ((scan text).find? fun found => found.index?.isNone).map fun found =>
    ⟨String.ofList (Segment.token found.body).chars⟩

theorem malformed?_eq_none_iff (text : String) :
    malformed? text = none ↔ ∀ found ∈ scan text, found.index?.isSome = true := by
  unfold malformed?
  rw [Option.map_eq_none_iff, List.find?_eq_none]
  refine forall₂_congr fun found _ => ?_
  rw [Bool.not_eq_true, Option.isNone_eq_false_iff]

theorem indicesOf_eq_error_iff (segs : List Segment) (e : Malformed) :
    indicesOf segs = .error e ↔
      ((bodies segs).find? fun body => (index? body).isNone).map
        (fun body => ⟨String.ofList (Segment.token body).chars⟩) = some e := by
  induction segs with
  | nil => simp [indicesOf, bodies]
  | cons seg rest ih =>
    cases seg with
    | plain text => exact ih
    | token body =>
      have hbodies : bodies (.token body :: rest) = body :: bodies rest := rfl
      rw [hbodies]
      cases hindex : index? body with
      | none => simp [indicesOf, hindex]
      | some index =>
        rw [List.find?_cons_of_neg (by simp [hindex]), ← ih]
        simp only [indicesOf, hindex]
        cases indicesOf rest with
        | error err => rfl
        | ok listed => simp [Except.map]

theorem indices_eq_error_iff (text : String) (e : Malformed) :
    indices text = .error e ↔ malformed? text = some e := by
  unfold indices malformed?
  rw [indicesOf_eq_error_iff, ← map_body_scan, List.find?_map, Option.map_map]
  rfl

/-! ### Replacing slots -/

/-- **What becomes of a text depends on the slots it refers to, and on nothing else.** -/
theorem substitute_congr {text : String} {value value' : Nat → String}
    (h : ∀ index ∈ replaced text, value index = value' index) :
    substitute text value = substitute text value' := by
  unfold substitute
  rw [replaced_eq] at h
  congr 1
  generalize segments text.toList = segs at h
  induction segs with
  | nil => rfl
  | cons seg rest ih =>
    rw [List.flatMap_cons, List.flatMap_cons]
    cases seg with
    | plain plain => rw [ih h]; rfl
    | token body =>
      have hrest : ∀ index ∈ (bodies rest).filterMap index?, value index = value' index := by
        intro index hindex
        refine h index ?_
        have hbodies : bodies (.token body :: rest) = body :: bodies rest := rfl
        rw [hbodies, List.filterMap_cons]
        split
        · exact hindex
        · exact List.mem_cons_of_mem _ hindex
      rw [ih hrest]
      congr 1
      cases hindex : index? body with
      | none => simp only [Segment.fill, hindex]
      | some index =>
        simp only [Segment.fill, hindex]
        have hmem : index ∈ (bodies (.token body :: rest)).filterMap index? :=
          List.mem_filterMap.2 ⟨body, List.mem_cons_self .., hindex⟩
        exact congrArg String.toList (h index hmem)

/-- A text without a token stays as it is. -/
theorem substitute_of_not_isMarker {text : String} (h : isMarker text = false)
    (value : Nat → String) : substitute text value = text := by
  rw [isMarker_eq_false_iff] at h
  unfold substitute
  have hplain : ∀ segs : List Segment, bodies segs = [] →
      segs.flatMap (Segment.fill value) = segs.flatMap Segment.chars := by
    intro segs hsegs
    induction segs with
    | nil => rfl
    | cons seg rest ih =>
      cases seg with
      | plain plain => rw [List.flatMap_cons, List.flatMap_cons, ih hsegs]; rfl
      | token body => cases hsegs
  rw [hplain _ h, flatMap_chars_segments, String.ofList_toList]

/-! ### Sizes in bytes -/

theorem byteSize_append (a b : List Char) : byteSize (a ++ b) = byteSize a + byteSize b := by
  induction a with
  | nil => exact (Nat.zero_add _).symm
  | cons c a ih =>
    show c.utf8Size + byteSize (a ++ b) = c.utf8Size + byteSize a + byteSize b
    rw [ih, Nat.add_assoc]

theorem byteSize_toList (text : String) : byteSize text.toList = text.utf8ByteSize := by
  have hlist : ∀ cs : List Char, byteSize cs = (String.ofList cs).utf8ByteSize := by
    intro cs
    induction cs with
    | nil => rfl
    | cons c cs ih =>
      rw [String.ofList_cons, String.utf8ByteSize_append, String.utf8ByteSize_singleton, ← ih]
      rfl
  rw [hlist, String.ofList_toList]

end LiveMarkup.Marker
