/-
Markers found where they were written.

A text is woven from stretches and marks: each stretch is followed by the mark of an index, and
a last stretch ends it (`weave`).  If the marks are markers and no stretch holds an opening
delimiter, the markers are cut out again just as they were put in (`segments_weave`), and
finding, listing and replacing markers can be read off that.

Neither delimiter ends with what it begins with (`Unbordered`).  So a delimiter never begins in
the stretch before it, however that ends, and the first one in the text is the one that was
written.  An opening delimiter that stands at a seam between two stretches is another matter:
the static strings of a template that have no slot between them are one stretch.
-/
import LiveMarkup.Proofs.Marker
import LiveMarkup.Template

namespace LiveMarkup

namespace Text

variable {pat before after x y : List Char} {c : Char}

/-! ### The first occurrence -/

/-- No proper part of the text is both at its front and at its end. -/
def Unbordered (pat : List Char) : Prop :=
  ∀ n < pat.length, 0 < n → pat.take n ≠ pat.drop (pat.length - n)

instance (pat : List Char) : Decidable (Unbordered pat) :=
  inferInstanceAs (Decidable (∀ n < pat.length, 0 < n → pat.take n ≠ pat.drop (pat.length - n)))

/-- A text without a border does not begin inside what it stands behind. -/
theorem Unbordered.not_isPrefix (hpat : Unbordered pat) (hx : ¬ pat <:+: x) (hne : x ≠ [])
    (after : List Char) : ¬ pat <+: x ++ (pat ++ after) := by
  intro h
  rcases Nat.le_total pat.length x.length with hle | hle
  · exact hx (List.prefix_of_prefix_length_le h (List.prefix_append x _) hle).isInfix
  · obtain ⟨u, hu⟩ := List.prefix_of_prefix_length_le (List.prefix_append x _) h hle
    have hlength : pat.length = x.length + u.length := by rw [← hu, List.length_append]
    have hpos : 0 < x.length := List.length_pos_iff.2 hne
    have hfront : u <+: pat := by
      rw [← hu, List.prefix_append_right_inj] at h
      rw [hu] at h
      exact List.prefix_of_prefix_length_le h (List.prefix_append pat after) (by omega)
    have huPos : 0 < u.length := by
      rw [List.length_pos_iff]
      rintro rfl
      rw [List.append_nil] at hu
      exact hx (hu ▸ List.infix_rfl)
    refine hpat u.length (by omega) huPos ?_
    rw [← List.prefix_iff_eq_take.1 hfront]
    have hskip : pat.length - u.length = x.length := by omega
    rw [hskip, ← hu, List.drop_left]

theorem breakAt_of_isPrefix (hne : pat ≠ []) (after : List Char) :
    breakAt pat (pat ++ after) = some ([], after) := by
  obtain ⟨first, rest, rfl⟩ := List.exists_cons_of_ne_nil hne
  have hfront : (first :: rest).isPrefixOf (first :: (rest ++ after)) = true :=
    List.isPrefixOf_iff_prefix.2 (List.prefix_append (first :: rest) after)
  rw [List.cons_append, breakAt, if_pos hfront, ← List.cons_append, List.drop_left]

theorem breakAt_cons_of_not_isPrefix (h : ¬ pat <+: c :: x) :
    breakAt pat (c :: x) = (breakAt pat x).map fun cut => (c :: cut.1, cut.2) := by
  rw [← List.isPrefixOf_iff_prefix] at h
  rw [breakAt, if_neg h]

/-- **A text without a border is first found where it was put.** -/
theorem breakAt_append (hpat : Unbordered pat) (hne : pat ≠ []) (hbefore : ¬ pat <:+: before)
    (after : List Char) : breakAt pat (before ++ (pat ++ after)) = some (before, after) := by
  induction before with
  | nil => exact breakAt_of_isPrefix hne after
  | cons c before ih =>
    have hfront := hpat.not_isPrefix hbefore (List.cons_ne_nil c before) after
    have hrest : ¬ pat <:+: before := fun h => hbefore (List.infix_cons h)
    rw [List.cons_append] at hfront ⊢
    rw [breakAt_cons_of_not_isPrefix hfront, ih hrest]
    rfl

/-- Nothing that lacks a character stands across it. -/
theorem prefix_of_append_cons (hc : c ∉ pat) (h : pat <+: x ++ c :: y) : pat <+: x := by
  refine List.prefix_of_prefix_length_le h (List.prefix_append x _) ?_
  by_contra hlong
  obtain ⟨rest, hrest⟩ := List.prefix_of_prefix_length_le (List.prefix_append x _) h (by omega)
  cases rest with
  | nil =>
    rw [List.append_nil] at hrest
    exact hlong (hrest ▸ Nat.le_refl _)
  | cons first rest =>
    rw [← hrest, List.prefix_append_right_inj, List.cons_prefix_cons] at h
    refine hc ?_
    rw [← hrest, h.1]
    simp

theorem infix_append_cons_iff (hc : c ∉ pat) :
    pat <:+: x ++ c :: y ↔ pat <:+: x ∨ pat <:+: y := by
  constructor
  · intro h
    induction x with
    | nil =>
      rcases List.infix_cons_iff.1 h with hfront | hrest
      · have hnil := prefix_of_append_cons (x := []) hc hfront
        exact Or.inl hnil.isInfix
      · exact Or.inr hrest
    | cons a x ih =>
      rcases List.infix_cons_iff.1 h with hfront | hrest
      · exact Or.inl (prefix_of_append_cons (x := a :: x) hc hfront).isInfix
      · exact (ih hrest).imp_left List.infix_cons
  · rintro (h | h)
    · exact h.trans (List.prefix_append x _).isInfix
    · exact (List.infix_cons h).trans (List.suffix_append x _).isInfix

/-- What stands before such a character only comes to the text before the occurrence. -/
theorem breakAt_append_cons (hc : c ∉ pat) (hx : ¬ pat <:+: x) (y : List Char) :
    breakAt pat (x ++ c :: y) =
      (breakAt pat y).map fun cut => (x ++ c :: cut.1, cut.2) := by
  induction x with
  | nil =>
    have hfront : ¬ pat <+: c :: y := fun h =>
      hx (prefix_of_append_cons (x := []) hc h).isInfix
    exact breakAt_cons_of_not_isPrefix hfront
  | cons a x ih =>
    have hfront : ¬ pat <+: a :: (x ++ c :: y) := fun h =>
      hx (prefix_of_append_cons (x := a :: x) hc h).isInfix
    have hrest : ¬ pat <:+: x := fun h => hx (List.infix_cons h)
    rw [List.cons_append, breakAt_cons_of_not_isPrefix hfront, ih hrest, Option.map_map]
    rfl

end Text

namespace Marker

open LiveMarkup.Text

theorem unbordered_opening : Unbordered opening := by decide

theorem unbordered_closing : Unbordered closing := by decide

/-! ### Cutting at a marker -/

theorem segments_of_breakAt {text gap rest body after : List Char}
    (hopen : breakAt opening text = some (gap, rest))
    (hclose : breakAt closing rest = some (body, after)) :
    segments text = .plain gap :: .token body :: segments after := by
  rw [segments]
  split
  · next hnone => rw [hopen] at hnone; cases hnone
  · next hsome =>
    rw [hopen] at hsome
    cases hsome
    split
    · next hnone => rw [hclose] at hnone; cases hnone
    · next hsome =>
      rw [hclose] at hsome
      cases hsome
      rfl

theorem segments_of_not_isInfix {text : List Char} (h : ¬ opening <:+: text) :
    segments text = [.plain text] := by
  rw [segments]
  split
  · rfl
  · next hsome => rw [breakAt_eq_none_iff.2 h] at hsome; cases hsome

/-- An opening delimiter that is never closed opens nothing. -/
theorem segments_of_unclosed {text : List Char} {cut : List Char × List Char}
    (hopen : breakAt opening text = some cut) (hclose : breakAt closing cut.2 = none) :
    segments text = [.plain text] := by
  rw [segments]
  split
  · rfl
  · next hsome =>
    rw [hopen] at hsome
    cases hsome
    split
    · rfl
    · next hsome => rw [hclose] at hsome; cases hsome

theorem not_infix_toDigits (index : Nat) : ¬ closing <:+: Nat.toDigits 10 index := by
  intro h
  have hmem : '\x7d' ∈ Nat.toDigits 10 index := h.subset (by simp [closing])
  have hdigit := Nat.isDigit_of_mem_toDigits (by decide) (by decide) hmem
  exact absurd hdigit (by decide)

theorem index?_toDigits {index : Nat} (h : index < indexLimit) :
    index? (Nat.toDigits 10 index) = some index := by
  have hne : (Nat.toDigits 10 index).isEmpty = false := by
    simp [Nat.toDigits_ne_nil]
  have hall : (Nat.toDigits 10 index).all Char.isDigit = true := by
    rw [List.all_eq_true]
    intro c hc
    exact Nat.isDigit_of_mem_toDigits (by decide) (by decide) hc
  unfold index?
  rw [hne, hall]
  simp [Nat.ofDigitChars_toDigits, h]

/-- **The first marker of a text is cut out as it was written.** -/
theorem segments_append {text : List Char} (h : ¬ opening <:+: text) (index : Nat)
    (rest : List Char) :
    segments (text ++ (encodeChars index ++ rest)) =
      .plain text :: .token (Nat.toDigits 10 index) :: segments rest := by
  have hmarker : encodeChars index ++ rest =
      opening ++ (Nat.toDigits 10 index ++ (closing ++ rest)) := by
    simp only [encodeChars, List.append_assoc]
  rw [hmarker]
  exact segments_of_breakAt (breakAt_append unbordered_opening (by simp [opening]) h _)
    (breakAt_append unbordered_closing (by simp [closing]) (not_infix_toDigits index) rest)

/-! ### Woven texts -/

/-- Stretches of text, each followed by the mark of an index, and a last one. -/
def weave (mark : Nat → String) (pieces : List (String × Nat)) (last : String) : String :=
  pieces.foldr (fun piece rest => piece.1 ++ (mark piece.2 ++ rest)) last

/-- No opening delimiter is in the text. -/
def Clear (text : String) : Prop := ¬ opening <:+: text.toList

instance (text : String) : Decidable (Clear text) :=
  inferInstanceAs (Decidable (¬ opening <:+: text.toList))

section

variable {pieces : List (String × Nat)} {last : String}

theorem weave_cons (mark : Nat → String) (piece : String × Nat) (pieces : List (String × Nat))
    (last : String) :
    weave mark (piece :: pieces) last = piece.1 ++ (mark piece.2 ++ weave mark pieces last) := rfl

/-- **What is woven of clear stretches and markers comes apart into these.** -/
theorem segments_weave (hpieces : ∀ piece ∈ pieces, Clear piece.1) (last : String) :
    segments (weave encode pieces last).toList =
      pieces.flatMap (fun piece =>
        [.plain piece.1.toList, .token (Nat.toDigits 10 piece.2)]) ++ segments last.toList := by
  induction pieces with
  | nil => rfl
  | cons piece rest ih =>
    obtain ⟨hpiece, hrest⟩ := List.forall_mem_cons.1 hpieces
    have hencode : (encode piece.2).toList = encodeChars piece.2 := by
      rw [encode, String.toList_ofList]
    rw [weave_cons, String.toList_append, String.toList_append, hencode,
      segments_append hpiece, ih hrest]
    rfl

/-- Where the tokens stand: each behind its stretch and all that comes before. -/
theorem getElem?_foundFrom_weave (hpieces : ∀ piece ∈ pieces, Clear piece.1)
    (hlast : Clear last) (offset j : Nat) :
    (foundFrom offset (segments (weave encode pieces last).toList))[j]? =
      pieces[j]?.map fun piece =>
        let start := offset + (weave encode (pieces.take j) piece.1).utf8ByteSize
        ⟨start, start + (encode piece.2).utf8ByteSize, Nat.toDigits 10 piece.2⟩ := by
  induction pieces generalizing offset j with
  | nil =>
    have hplain : segments (weave encode [] last).toList = [.plain last.toList] :=
      segments_of_not_isInfix hlast
    rw [hplain]
    rfl
  | cons piece rest ih =>
    obtain ⟨hpiece, hrest⟩ := List.forall_mem_cons.1 hpieces
    have htoken : byteSize (Segment.token (Nat.toDigits 10 piece.2)).chars =
        (encode piece.2).utf8ByteSize := by
      rw [← byteSize_toList, encode, String.toList_ofList]
      rfl
    have hfound : foundFrom offset (segments (weave encode (piece :: rest) last).toList) =
        ⟨offset + piece.1.utf8ByteSize,
          offset + piece.1.utf8ByteSize + (encode piece.2).utf8ByteSize,
          Nat.toDigits 10 piece.2⟩ ::
        foundFrom (offset + piece.1.utf8ByteSize + (encode piece.2).utf8ByteSize)
          (segments (weave encode rest last).toList) := by
      rw [segments_weave hpieces, segments_weave hrest, List.flatMap_cons]
      simp only [List.cons_append, List.nil_append, foundFrom, htoken]
      simp only [Segment.chars, byteSize_toList]
    rw [hfound]
    cases j with
    | zero => rfl
    | succ j =>
      rw [List.getElem?_cons_succ, List.getElem?_cons_succ, ih hrest]
      simp only [List.take_succ_cons, weave_cons, String.utf8ByteSize_append, Nat.add_assoc]

theorem bodies_append (segs segs' : List Segment) :
    bodies (segs ++ segs') = bodies segs ++ bodies segs' := List.filterMap_append

theorem bodies_weave (hpieces : ∀ piece ∈ pieces, Clear piece.1) (last : String) :
    bodies (segments (weave encode pieces last).toList) =
      pieces.map (fun piece => Nat.toDigits 10 piece.2) ++ bodies (segments last.toList) := by
  rw [segments_weave hpieces, bodies_append]
  congr 1
  induction pieces with
  | nil => rfl
  | cons piece rest ih =>
    exact congrArg (Nat.toDigits 10 piece.2 :: ·) (ih (List.forall_mem_cons.1 hpieces).2)

theorem bodies_of_clear {text : String} (h : Clear text) : bodies (segments text.toList) = [] := by
  rw [segments_of_not_isInfix h]
  rfl

/-- Tokens that are markers have the indices that were written. -/
theorem map_index?_toDigits {indices : List Nat} (h : ∀ index ∈ indices, index < indexLimit) :
    (indices.map (Nat.toDigits 10)).map index? = indices.map some := by
  rw [List.map_map]
  exact List.map_congr_left fun index hindex => index?_toDigits (h index hindex)

theorem map_index?_scan (text : String) :
    (scan text).map Found.index? = (bodies (segments text.toList)).map index? := by
  rw [← map_body_scan, List.map_map]
  rfl

theorem map_index?_scan_weave (hpieces : ∀ piece ∈ pieces, Clear piece.1)
    (hindices : ∀ piece ∈ pieces, piece.2 < indexLimit) (last : String) :
    (scan (weave encode pieces last)).map Found.index? =
      (pieces.map Prod.snd).map some ++ (scan last).map Found.index? := by
  have hlimit : ∀ index ∈ pieces.map Prod.snd, index < indexLimit := by
    intro index hindex
    obtain ⟨piece, hpiece, rfl⟩ := List.mem_map.1 hindex
    exact hindices piece hpiece
  rw [map_index?_scan, map_index?_scan, bodies_weave hpieces, List.map_append,
    ← map_index?_toDigits hlimit]
  simp only [List.map_map]
  rfl

theorem indices_weave (hpieces : ∀ piece ∈ pieces, Clear piece.1)
    (hindices : ∀ piece ∈ pieces, piece.2 < indexLimit) (hlast : Clear last) :
    indices (weave encode pieces last) = .ok (pieces.map Prod.snd) := by
  have hscan := map_index?_scan_weave hpieces hindices last
  have hnone : (scan last).map Found.index? = [] := by
    rw [map_index?_scan, bodies_of_clear hlast]
    rfl
  rw [hnone, List.append_nil] at hscan
  refine (indices_eq_ok_iff _ _).2 ⟨fun found hfound => ?_, ?_⟩
  · have hmem := hscan ▸ List.mem_map_of_mem hfound
    obtain ⟨index, -, hindex⟩ := List.mem_map.1 hmem
    rw [← hindex]
    rfl
  · have hreplaced : replaced (weave encode pieces last) =
        ((scan (weave encode pieces last)).map Found.index?).filterMap id := by
      rw [List.filterMap_map]
      rfl
    rw [hreplaced, hscan, List.filterMap_map]
    exact (List.filterMap_some).symm

/-- **Replacing the markers of a woven text weaves it anew.** -/
theorem substitute_weave (hpieces : ∀ piece ∈ pieces, Clear piece.1)
    (hindices : ∀ piece ∈ pieces, piece.2 < indexLimit) (hlast : Clear last)
    (value : Nat → String) :
    substitute (weave encode pieces last) value = weave value pieces last := by
  unfold substitute
  rw [segments_weave hpieces, segments_of_not_isInfix hlast]
  induction pieces with
  | nil => simp [weave, Segment.fill]
  | cons piece rest ih =>
    obtain ⟨hindex, hrest⟩ := List.forall_mem_cons.1 hindices
    have hih := ih (List.forall_mem_cons.1 hpieces).2 hrest
    rw [weave_cons, ← hih]
    simp [Segment.fill, index?_toDigits hindex, String.ofList_append]

end

/-- What was woven with markers is read as it was woven. -/
structure Faithful (pieces : List (String × Nat)) (last : String) : Prop where
  /-- The tokens are the markers, each in its place. -/
  tokens : ∀ j, (scan (weave encode pieces last))[j]? = pieces[j]?.map fun piece =>
    let start := (weave encode (pieces.take j) piece.1).utf8ByteSize
    ⟨start, start + (encode piece.2).utf8ByteSize, Nat.toDigits 10 piece.2⟩
  named : (scan (weave encode pieces last)).map Found.index? = (pieces.map Prod.snd).map some
  listed : indices (weave encode pieces last) = .ok (pieces.map Prod.snd)
  /-- Whatever replaces the markers stands where they stood. -/
  refilled : ∀ value, substitute (weave encode pieces last) value = weave value pieces last

theorem faithful_weave {pieces : List (String × Nat)} {last : String}
    (hpieces : ∀ piece ∈ pieces, Clear piece.1 ∧ piece.2 < indexLimit) (hlast : Clear last) :
    Faithful pieces last := by
  have hclear : ∀ piece ∈ pieces, Clear piece.1 := fun piece hpiece => (hpieces piece hpiece).1
  have hindices : ∀ piece ∈ pieces, piece.2 < indexLimit := fun piece hpiece =>
    (hpieces piece hpiece).2
  refine ⟨fun j => ?_, ?_, indices_weave hclear hindices hlast,
    substitute_weave hclear hindices hlast⟩
  · have hfound := getElem?_foundFrom_weave hclear hlast 0 j
    simp only [Nat.zero_add] at hfound
    exact hfound
  · rw [map_index?_scan_weave hclear hindices, map_index?_scan last, bodies_of_clear hlast]
    exact List.append_nil _

end Marker

/-! ### The markup of a template -/

namespace Template

open LiveMarkup.Text LiveMarkup.Marker

variable {H : Type} {strings : List String} {values : List (Value H)}

/-- What a slot has in front of its marker. -/
def fore (v : Value H) : String := if v.isUndefined then "<!-- " else ""

/-- What a slot has behind its marker. -/
def aft (v : Value H) : String := if v.isUndefined then " -->" else ""

theorem mark_eq (index : Nat) (v : Value H) : mark index v = fore v ++ (encode index ++ aft v) := by
  unfold mark fore aft
  split
  · rw [encodeAnchor, String.append_assoc]
  · rw [String.empty_append, String.append_empty]

theorem annotateFrom_nil (index : Nat) (strings : List String) :
    annotateFrom index strings ([] : List (Value H)) = String.join strings := by
  induction strings generalizing index with
  | nil => rfl
  | cons s rest ih => rw [annotateFrom, ih, String.join_cons]

/-- The end of an anchor, or nothing. -/
def AnchorEnd (text : String) : Prop := text = "" ∨ text = " -->"

theorem anchorEnd_aft (v : Value H) : AnchorEnd (aft v) := by
  unfold aft
  split
  · exact Or.inr rfl
  · exact Or.inl rfl

/-- No opening delimiter comes about between a string and what anchors put around it. -/
theorem clear_between {tail s : String} (htail : AnchorEnd tail) (hs : Clear s) (v : Value H) :
    Clear (tail ++ (s ++ fore v)) := by
  have hfore : Clear (s ++ fore v) := by
    unfold fore
    split
    · have hchars : (s ++ "<!-- ").toList = s.toList ++ '<' :: "!-- ".toList := by
        rw [String.toList_append]
        rfl
      unfold Clear
      rw [hchars, infix_append_cons_iff (by decide)]
      exact not_or.2 ⟨hs, by decide⟩
    · rwa [String.append_empty]
  rcases htail with rfl | rfl
  · rwa [String.empty_append]
  · have hchars : (" -->" ++ (s ++ fore v)).toList = " --".toList ++ '>' :: (s ++ fore v).toList := by
      rw [String.toList_append]
      rfl
    unfold Clear
    rw [hchars, infix_append_cons_iff (by decide)]
    exact not_or.2 ⟨by decide, hfore⟩

/-- Nor does one come about behind the last anchor. -/
theorem bodies_behind_anchor {tail : String} (htail : AnchorEnd tail) (text : String) :
    bodies (segments (tail ++ text).toList) = bodies (segments text.toList) := by
  rcases htail with rfl | rfl
  · rw [String.empty_append]
  · have hchars : (" -->" ++ text).toList = " --".toList ++ '>' :: text.toList := by
      rw [String.toList_append]
      rfl
    have hcut : breakAt opening (" --".toList ++ '>' :: text.toList) =
        (breakAt opening text.toList).map fun cut => (" --".toList ++ '>' :: cut.1, cut.2) :=
      breakAt_append_cons (by decide) (by decide) text.toList
    rw [hchars]
    cases hopen : breakAt opening text.toList with
    | none =>
      rw [hopen] at hcut
      rw [segments_of_not_isInfix (breakAt_eq_none_iff.1 hcut),
        segments_of_not_isInfix (breakAt_eq_none_iff.1 hopen)]
      rfl
    | some cut =>
      rw [hopen] at hcut
      cases hclose : breakAt closing cut.2 with
      | none => rw [segments_of_unclosed hcut hclose, segments_of_unclosed hopen hclose]; rfl
      | some cut' => rw [segments_of_breakAt hcut hclose, segments_of_breakAt hopen hclose]; rfl

/-- **The markup of a template is woven of its strings and the markers of its slots.**  Strings
that no slot follows make one stretch. -/
theorem exists_weave_annotateFrom (index : Nat) {lead : String} (hlead : AnchorEnd lead)
    (hstrings : ∀ s ∈ strings, Clear s) (values : List (Value H)) :
    ∃ pieces tail, AnchorEnd tail ∧ (∀ piece ∈ pieces, Clear piece.1) ∧
      pieces.map Prod.snd = List.range' index (min strings.length values.length) ∧
      lead ++ annotateFrom index strings values =
        weave encode pieces (tail ++ String.join (strings.drop values.length)) := by
  induction strings generalizing index lead values with
  | nil => exact ⟨[], lead, hlead, nofun, by simp, by simp [annotateFrom, weave]⟩
  | cons s rest ih =>
    obtain ⟨hs, hrest⟩ := List.forall_mem_cons.1 hstrings
    cases values with
    | nil =>
      refine ⟨[], lead, hlead, nofun, by simp, ?_⟩
      rw [annotateFrom_nil]
      rfl
    | cons v values =>
      obtain ⟨pieces, tail, htail, hclear, hindices, heq⟩ :=
        ih (index + 1) (anchorEnd_aft v) hrest values
      refine ⟨(lead ++ (s ++ fore v), index) :: pieces, tail, htail, ?_, ?_, ?_⟩
      · exact List.forall_mem_cons.2 ⟨clear_between hlead hs v, hclear⟩
      · rw [List.map_cons, hindices, List.length_cons, List.length_cons, Nat.succ_min_succ,
          List.range'_succ]
      · rw [weave_cons, List.length_cons, List.drop_succ_cons, ← heq, annotateFrom, mark_eq]
        simp only [String.append_assoc]

theorem map_index?_scan_annotate (hstrings : ∀ s ∈ strings, Clear s)
    (hsize : min strings.length values.length ≤ indexLimit) :
    (scan (annotate strings values)).map Found.index? =
      (List.range (min strings.length values.length)).map some ++
        (scan (String.join (strings.drop values.length))).map Found.index? := by
  obtain ⟨pieces, tail, htail, hclear, hindices, heq⟩ :=
    exists_weave_annotateFrom 0 (Or.inl rfl) hstrings values
  have hlimit : ∀ piece ∈ pieces, piece.2 < indexLimit := by
    intro piece hpiece
    have hmem := hindices ▸ List.mem_map_of_mem (f := Prod.snd) hpiece
    have hlt := List.mem_range'_1.1 hmem
    omega
  rw [String.empty_append] at heq
  rw [annotate, heq, map_index?_scan_weave hclear hlimit, hindices, ← List.range_eq_range']
  congr 1
  rw [map_index?_scan, map_index?_scan, bodies_behind_anchor htail]

/-- Strings with a slot after each but the last have nothing to join. -/
theorem not_isMarker_of_length (hstrings : ∀ s ∈ strings, Clear s)
    (hlength : strings.length ≤ values.length + 1) :
    isMarker (String.join (strings.drop values.length)) = false := by
  rw [isMarker_eq_false_iff]
  have hdrop : (strings.drop values.length).length ≤ 1 := by
    rw [List.length_drop]
    omega
  have hclear : ∀ s ∈ strings.drop values.length, Clear s := fun s hs =>
    hstrings s (List.mem_of_mem_drop hs)
  generalize strings.drop values.length = rest at hdrop hclear
  cases rest with
  | nil => exact bodies_of_clear (by decide)
  | cons s rest =>
    obtain rfl : rest = [] := by simpa using hdrop
    rw [String.join_cons, String.join_nil, String.append_empty]
    exact bodies_of_clear (hclear s (List.mem_cons_self ..))

theorem map_index?_scan_annotate_iff (hstrings : ∀ s ∈ strings, Clear s)
    (hsize : min strings.length values.length ≤ indexLimit) :
    (scan (annotate strings values)).map Found.index? =
        (List.range (min strings.length values.length)).map some ↔
      isMarker (String.join (strings.drop values.length)) = false := by
  rw [map_index?_scan_annotate hstrings hsize, List.append_right_eq_self, List.map_eq_nil_iff]
  simp [isMarker]

/-- **Markers are found and replaced exactly where they were written.**  In a text woven of
stretches without an opening delimiter this is so for all markers.  In the markup of a template
whose strings have none, the markers of its slots are found and nothing else, unless strings
that no slot follows make a token when they are joined.  With a slot after every string but the
last there is nothing to join. -/
theorem faithful_annotate :
    (∀ pieces last, (∀ piece ∈ pieces, Clear piece.1 ∧ piece.2 < indexLimit) → Clear last →
      Faithful pieces last) ∧
    ∀ (H : Type) (strings : List String) (values : List (Value H)), (∀ s ∈ strings, Clear s) →
      min strings.length values.length ≤ indexLimit →
      ((scan (annotate strings values)).map Found.index? =
          (List.range (min strings.length values.length)).map some ↔
        isMarker (String.join (strings.drop values.length)) = false) ∧
      (strings.length ≤ values.length + 1 →
        (scan (annotate strings values)).map Found.index? =
          (List.range (min strings.length values.length)).map some) := by
  refine ⟨fun pieces last => faithful_weave, fun H strings values hstrings hsize => ?_⟩
  have hiff := map_index?_scan_annotate_iff hstrings hsize
  exact ⟨hiff, fun hlength => hiff.2 (not_isMarker_of_length hstrings hlength)⟩

/-- Stretches that end and begin like delimiters, and a greeting whose name is not there yet. -/
theorem faithful_annotate_sampleSeams :
    Faithful [("---!", 3), ("!---\x7d", 0)] "\x7b!---" ∧
      (scan (annotate ["<p>---!", "</p>"] [(.undefined : Value Nat)])).map Found.index? =
        [some 0] := by
  have hmarkup := faithful_annotate.2 Nat ["<p>---!", "</p>"] [.undefined] (by decide +kernel)
    (by decide +kernel)
  exact ⟨faithful_annotate.1 _ _ (by decide +kernel) (by decide +kernel),
    hmarkup.2 (by decide +kernel)⟩

/-- Two strings that no slot keeps apart make a marker that no slot has. -/
theorem scan_annotate_joined :
    ¬ ∀ (strings : List String) (values : List (Value Nat)), (∀ s ∈ strings, Clear s) →
      min strings.length values.length ≤ indexLimit →
      (scan (annotate strings values)).map Found.index? =
        (List.range (min strings.length values.length)).map some := by
  intro h
  have hjoined := h ["---", "!\x7b0\x7d!---"] [] (by decide +kernel) (Nat.zero_le _)
  have hfound : scan (annotate ["---", "!\x7b0\x7d!---"] ([] : List (Value Nat))) =
      [⟨0, 11, ['0']⟩] := by decide +kernel
  rw [hfound] at hjoined
  cases hjoined

end Template

end LiveMarkup
