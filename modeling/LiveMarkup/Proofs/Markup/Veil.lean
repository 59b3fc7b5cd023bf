/-
Markers behind a veil.

What the lexer makes of a marker depends on its dashes, but hardly on its braces.  So a
character that means nothing to the lexer can stand in for the brace that opens a marker: the
lexer comes the same way, and what it reads tells where the marker went.  Such a veil shows
the text around markers for what it is.  A character reference may spell a brace, and an end
tag that is ignored may leave two texts side by side, but none of them writes a veil.

Here are the texts of two runs, one with veils and one with markers.  Values and character
data are woven of the same stretches (`Woven`).  Names have stretches that come straight from
the markup, so that names are equal under veils exactly if they are equal with markers
(`Named.eq_iff`).
-/
import LiveMarkup.Proofs.Marker.Scanning
import LiveMarkup.Proofs.Marker.Weaving
import LiveMarkup.Proofs.Markup.Anchor

namespace LiveMarkup

namespace Marker

variable {mark : Nat → String} {pieces : List (String × Nat)} {last : String}

theorem weave_append (mark : Nat → String) (pieces : List (String × Nat)) (last s : String) :
    weave mark pieces (last ++ s) = weave mark pieces last ++ s := by
  induction pieces with
  | nil => rfl
  | cons piece rest ih => rw [weave_cons, weave_cons, ih, String.append_assoc, String.append_assoc]

/-- A mark more at the end. -/
theorem weave_concat (mark : Nat → String) (pieces : List (String × Nat)) (last : String)
    (index : Nat) :
    weave mark (pieces ++ [(last, index)]) "" = weave mark pieces last ++ mark index := by
  induction pieces with
  | nil =>
    show last ++ (mark index ++ "") = last ++ mark index
    rw [String.append_empty]
  | cons piece rest ih =>
    rw [List.cons_append, weave_cons, weave_cons, ih, String.append_assoc, String.append_assoc]

theorem toDigits_injective {m n : Nat} (h : Nat.toDigits 10 m = Nat.toDigits 10 n) : m = n := by
  rw [← Nat.ofDigitChars_toDigits (b := 10) (n := m) (by decide) (by decide), h,
    Nat.ofDigitChars_toDigits (by decide) (by decide)]

/-- **Texts that are woven alike were woven of the same.** -/
theorem eq_of_weave_eq {pieces' : List (String × Nat)} {last' : String}
    (hpieces : ∀ piece ∈ pieces, Clear piece.1) (hlast : Clear last)
    (hpieces' : ∀ piece ∈ pieces', Clear piece.1) (hlast' : Clear last')
    (h : weave encode pieces last = weave encode pieces' last') :
    pieces = pieces' ∧ last = last' := by
  have hsegs := congrArg (fun s : String => segments s.toList) h
  simp only [segments_weave hpieces, segments_weave hpieces', segments_of_not_isInfix hlast,
    segments_of_not_isInfix hlast'] at hsegs
  clear h hpieces hpieces'
  induction pieces generalizing pieces' with
  | nil =>
    cases pieces' with
    | nil =>
      simp only [List.flatMap_nil, List.nil_append, List.cons.injEq, Segment.plain.injEq,
        String.toList_inj] at hsegs
      exact ⟨rfl, hsegs.1⟩
    | cons => simp at hsegs
  | cons piece rest ih =>
    cases pieces' with
    | nil => simp at hsegs
    | cons piece' rest' =>
      simp only [List.flatMap_cons, List.cons_append, List.nil_append, List.cons.injEq,
        Segment.plain.injEq, Segment.token.injEq, String.toList_inj] at hsegs
      obtain ⟨hstretch, hdigits, hrest⟩ := hsegs
      obtain ⟨rfl, rfl⟩ := ih hrest
      exact ⟨by rw [Prod.ext hstretch (toDigits_injective hdigits)], rfl⟩

end Marker

namespace Markup

open Marker

/-! ### Characters without a meaning -/

/-- A character that is taken as it stands in names, in values and in text. -/
def isPlain (c : Char) : Bool := isNameChar c && ['&', '<', '"', '\'', '='].all (c != ·)

/-- A plain character that occurs in nothing that has a meaning, nor in what is left of a
marker without its opening brace. -/
def isInert (c : Char) : Bool :=
  isPlain c && !c.isAlphanum && ['-', '!', '\x7d', Reference.replacement].all (c != ·)

/-- A character to stand in for the opening brace of markers, those of the slots below a
bound. -/
structure Veil where
  brace : Char
  slots : Nat
  inert : isInert brace = true

variable {c brace : Char} {cs ds : List Char} {index : Nat}

theorem isInert_brace : isInert '\x7b' = true := rfl

theorem isPlain_of_isInert (h : isInert c = true) : isPlain c = true := by
  simp only [isInert, Bool.and_eq_true] at h
  exact h.1.1

theorem ne_of_isPlain {x : Char} (h : isPlain c = true) (hx : isPlain x = false) : c ≠ x := by
  rintro rfl
  rw [h] at hx
  cases hx

theorem ne_of_isInert {x : Char} (h : isInert c = true) (hx : isInert x = false) : c ≠ x := by
  rintro rfl
  rw [h] at hx
  cases hx

theorem isNameChar_of_isPlain (h : isPlain c = true) : isNameChar c = true := by
  simp only [isPlain, Bool.and_eq_true] at h
  exact h.1

theorem visible_of_isPlain (h : isPlain c = true) : visible c = c :=
  visible_of_ne (ne_of_isPlain h (by decide))

theorem isSpace_of_isPlain (h : isPlain c = true) : isSpace c = false :=
  (isNameChar_iff.1 (isNameChar_of_isPlain h)).2.1

theorem isPlain_of_isDigit (h : c.isDigit = true) : isPlain c = true := by
  have hupper : c.isUpper = false := by grind [Char.isDigit, Char.isUpper]
  have hother : ∀ x, x.isDigit = false → (c != x) = true := by
    intro x hx
    refine bne_iff_ne.2 ?_
    rintro rfl
    rw [h] at hx
    cases hx
  simp only [isPlain, isNameChar_of_kind h hupper (by decide), List.all_cons, List.all_nil,
    hother '&' rfl, hother '<' rfl, hother '"' rfl, hother '\'' rfl, hother '=' rfl, Bool.and_self]

/-! ### Markers -/

/-- A marker with any character in the place of its opening brace. -/
def markChars (brace : Char) (index : Nat) : List Char :=
  ['-', '-', '-', '!', brace] ++ Nat.toDigits 10 index ++ closing

theorem markChars_brace (index : Nat) : markChars '\x7b' index = encodeChars index := rfl

/-- What is between the first exclamation mark of a marker and its last dashes. -/
def markBody (brace : Char) (index : Nat) : List Char :=
  brace :: (Nat.toDigits 10 index ++ ['\x7d', '!'])

theorem markChars_eq (brace : Char) (index : Nat) :
    markChars brace index =
      ['-', '-', '-', '!'] ++ (markBody brace index ++ ['-', '-', '-']) := by
  simp [markChars, markBody, closing]

theorem isPlain_of_mem_markBody (hbrace : isInert brace = true) (hc : c ∈ markBody brace index) :
    isPlain c = true := by
  simp only [markBody, List.mem_cons, List.mem_append, List.not_mem_nil, or_false] at hc
  rcases hc with rfl | hc | rfl | rfl
  · exact isPlain_of_isInert hbrace
  · exact isPlain_of_isDigit (Nat.isDigit_of_mem_toDigits (by decide) (by decide) hc)
  · decide
  · decide

theorem ne_dash_of_mem_markBody (hbrace : isInert brace = true) (hc : c ∈ markBody brace index) :
    c ≠ '-' := by
  simp only [markBody, List.mem_cons, List.mem_append, List.not_mem_nil, or_false] at hc
  rcases hc with rfl | hc | rfl | rfl
  · exact ne_of_isInert hbrace (by decide)
  · rintro rfl
    exact absurd (Nat.isDigit_of_mem_toDigits (by decide) (by decide) hc) (by decide)
  · decide
  · decide

theorem isPlain_of_mem_markChars (hbrace : isInert brace = true)
    (hc : c ∈ markChars brace index) : isPlain c = true := by
  have hdashes : ∀ c ∈ ['-', '-', '-', '!'], isPlain c = true := List.all_eq_true.1 rfl
  rw [markChars_eq, List.mem_append, List.mem_append] at hc
  rcases hc with hc | hc | hc
  · exact hdashes c hc
  · exact isPlain_of_mem_markBody hbrace hc
  · exact hdashes c (List.mem_append_left ['!'] hc)

namespace Veil

variable (v : Veil)

/-- A marker with the veil. -/
def mark (index : Nat) : String := String.ofList (markChars v.brace index)

theorem toList_mark (index : Nat) : (v.mark index).toList = markChars v.brace index :=
  String.toList_ofList

/-- A stretch of markup without an opening delimiter and without the veil. -/
structure Free (cs : List Char) : Prop where
  clear : ¬ opening <:+: cs
  unveiled : v.brace ∉ cs

/-- Texts woven of the same stretches, with veils and with markers. -/
def Woven (s s' : String) : Prop :=
  ∃ pieces last, (∀ piece ∈ pieces, piece.2 < v.slots) ∧ s = weave v.mark pieces last ∧
    s' = weave encode pieces last

/-- The same of names, whose stretches are free. -/
def Named (s s' : String) : Prop :=
  ∃ pieces last, (∀ piece ∈ pieces, v.Free piece.1.toList ∧ piece.2 < v.slots) ∧
    v.Free last.toList ∧ s = weave v.mark pieces last ∧ s' = weave encode pieces last

/-- Names that are being read, the last marker being followed by characters `cs` and all
of these that belong to the name being at the end. -/
def Reading (cs : List Char) (s s' : String) : Prop :=
  ∃ pieces last, (∀ piece ∈ pieces, v.Free piece.1.toList ∧ piece.2 < v.slots) ∧
    last.toList <:+ cs.map nameChar ∧ s = weave v.mark pieces last ∧ s' = weave encode pieces last

end Veil

variable {v : Veil} {s s' r r' : String}

/-! ### Texts -/

namespace Veil

theorem Woven.refl (s : String) : v.Woven s s := ⟨[], s, nofun, rfl, rfl⟩

theorem Woven.append (h : v.Woven s s') (t : String) : v.Woven (s ++ t) (s' ++ t) := by
  obtain ⟨pieces, last, hslots, rfl, rfl⟩ := h
  exact ⟨pieces, last ++ t, hslots, (weave_append ..).symm, (weave_append ..).symm⟩

theorem Woven.push (h : v.Woven s s') (c : Char) : v.Woven (s.push c) (s'.push c) := by
  rw [String.push_eq_append, String.push_eq_append]
  exact h.append _

theorem Woven.mark (h : v.Woven s s') (hindex : index < v.slots) :
    v.Woven (s ++ v.mark index) (s' ++ encode index) := by
  obtain ⟨pieces, last, hslots, rfl, rfl⟩ := h
  refine ⟨pieces ++ [(last, index)], "", ?_, (weave_concat ..).symm, (weave_concat ..).symm⟩
  intro piece hpiece
  rcases List.mem_append.1 hpiece with hold | hnew
  · exact hslots piece hold
  · rw [List.mem_singleton.1 hnew]
    exact hindex

/-! ### Free stretches -/

theorem Free.part (h : v.Free ds) (hpart : cs <:+: ds) : v.Free cs where
  clear hopening := h.clear (hopening.trans hpart)
  unveiled hmem := h.unveiled (hpart.subset hmem)

end Veil

theorem eq_opening_of_map_nameChar (h : cs.map nameChar = opening) : cs = opening := by
  have hkept : ∀ xs : List Char, xs.all (fun x => !x.isAlpha && x != Reference.replacement) = true →
      ∀ cs, cs.map nameChar = xs → cs = xs := by
    intro xs
    induction xs with
    | nil => exact fun _ cs h => List.map_eq_nil_iff.1 h
    | cons x xs ih =>
      intro hxs cs h
      rw [List.all_cons, Bool.and_eq_true, Bool.and_eq_true, Bool.not_eq_true', bne_iff_ne] at hxs
      obtain ⟨c, rest, rfl, hc, hrest⟩ := List.map_eq_cons_iff.1 h
      rw [eq_of_nameChar_eq hxs.1.1 hxs.1.2 hc, ih hxs.2 rest hrest]
  exact hkept opening rfl cs h

theorem prefix_of_prefix_normalizeLines {pat : List Char} (hfeed : '\n' ∉ pat)
    (h : pat <+: normalizeLines cs) : pat <+: cs := by
  induction pat generalizing cs with
  | nil => exact List.nil_prefix
  | cons x pat ih =>
    have hfirst : ∀ rest, ¬ x :: pat <+: '\n' :: rest := fun rest hrest =>
      hfeed ((List.cons_prefix_cons.1 hrest).1 ▸ List.mem_cons_self)
    have hrest : '\n' ∉ pat := fun hmem => hfeed (List.mem_cons_of_mem x hmem)
    revert h
    fun_cases normalizeLines cs with
    | case1 => exact id
    | case2 cs => exact fun h => absurd h (hfirst _)
    | case3 cs => exact fun h => absurd h (hfirst _)
    | case4 c cs =>
      intro h
      obtain ⟨rfl, htail⟩ := List.cons_prefix_cons.1 h
      exact List.cons_prefix_cons.2 ⟨rfl, ih hrest htail⟩

/-- No text comes about where the end of a line was. -/
theorem infix_of_infix_normalizeLines {pat : List Char} (hfeed : '\n' ∉ pat)
    (h : pat <:+: normalizeLines cs) : pat <:+: cs := by
  have hfirst : ∀ {rest}, pat <:+: '\n' :: rest → pat <:+: rest := fun hrest =>
    ((Text.infix_append_cons_iff (x := []) hfeed).1 hrest).elim
      (fun hnil => hnil.trans (List.nil_infix)) id
  induction cs using normalizeLines.induct with
  | case1 => exact h
  | case2 cs ih => exact List.infix_cons (List.infix_cons (ih (hfirst h)))
  | case3 cs hnext ih =>
    rw [normalizeLines.eq_3 cs hnext] at h
    exact List.infix_cons (ih (hfirst h))
  | case4 c cs hnext hc ih =>
    rw [normalizeLines.eq_4 c cs hnext hc] at h
    rcases List.infix_cons_iff.1 h with hfront | hrest
    · rw [← normalizeLines.eq_4 c cs hnext hc] at hfront
      exact (prefix_of_prefix_normalizeLines hfeed hfront).isInfix
    · exact List.infix_cons (ih hrest)

namespace Veil

theorem Free.map_nameChar (h : v.Free cs) : v.Free (cs.map nameChar) where
  clear := by
    rintro ⟨before, after, hcs⟩
    obtain ⟨front, behind, rfl, hfront, -⟩ := List.map_eq_append_iff.1 hcs.symm
    obtain ⟨left, middle, rfl, -, hmiddle⟩ := List.map_eq_append_iff.1 hfront
    rw [eq_opening_of_map_nameChar hmiddle] at h
    exact h.clear ⟨left, behind, rfl⟩
  unveiled hmem := by
    obtain ⟨c, hc, hname⟩ := List.mem_map.1 hmem
    have hplain := isNameChar_of_isPlain (isPlain_of_isInert v.inert)
    refine h.unveiled (eq_of_nameChar_eq ?_ (ne_of_isInert v.inert (by decide)) hname ▸ hc)
    have hinert := v.inert
    simp only [isInert, Bool.and_eq_true, Bool.not_eq_true', Char.isAlphanum, Bool.or_eq_false_iff]
      at hinert
    exact hinert.1.2.1

theorem Free.normalizeLines (h : v.Free cs) : v.Free (normalizeLines cs) where
  clear hopening := h.clear (infix_of_infix_normalizeLines (by decide) hopening)
  unveiled hmem := by
    have hfeed : '\n' ∉ [v.brace] := fun hfeed =>
      ne_of_isInert v.inert (by decide) (List.mem_singleton.1 hfeed).symm
    exact h.unveiled ((List.singleton_infix_iff ..).1
      (infix_of_infix_normalizeLines hfeed ((List.singleton_infix_iff ..).2 hmem)))

/-! ### Names -/

theorem Reading.empty (cs : List Char) : v.Reading cs "" "" :=
  ⟨[], "", nofun, List.nil_suffix, rfl, rfl⟩

/-- One character of a name. -/
theorem Reading.push (h : v.Reading cs s s') (c : Char) :
    v.Reading (cs ++ [c]) (s.push (nameChar c)) (s'.push (nameChar c)) := by
  obtain ⟨pieces, last, hpieces, ⟨before, hlast⟩, rfl, rfl⟩ := h
  refine ⟨pieces, last.push (nameChar c), hpieces, ⟨before, ?_⟩, ?_, ?_⟩
  · rw [String.toList_push, ← List.append_assoc, hlast, List.map_append]
    rfl
  · rw [String.push_eq_append, String.push_eq_append, weave_append]
  · rw [String.push_eq_append, String.push_eq_append, weave_append]

theorem Reading.mark (h : v.Reading cs s s') (hcs : v.Free cs) (hindex : index < v.slots) :
    v.Reading [] (s ++ v.mark index) (s' ++ encode index) := by
  obtain ⟨pieces, last, hpieces, hlast, rfl, rfl⟩ := h
  refine ⟨pieces ++ [(last, index)], "", ?_, List.nil_suffix, (weave_concat ..).symm,
    (weave_concat ..).symm⟩
  intro piece hpiece
  rcases List.mem_append.1 hpiece with hold | hnew
  · exact hpieces piece hold
  · rw [List.mem_singleton.1 hnew]
    exact ⟨hcs.map_nameChar.part hlast.isInfix, hindex⟩

/-- A name that was read. -/
theorem Reading.named (h : v.Reading cs s s') (hcs : v.Free cs) : v.Named s s' := by
  obtain ⟨pieces, last, hpieces, hlast, hs, hs'⟩ := h
  exact ⟨pieces, last, hpieces, hcs.map_nameChar.part hlast.isInfix, hs, hs'⟩

/-- A name that no slot is in, or one of a kind that markup knows nothing about. -/
theorem Named.eq_or_mem (h : v.Named s s') : s = s' ∨ '!' ∈ s.toList ∧ '!' ∈ s'.toList := by
  obtain ⟨pieces, last, -, -, rfl, rfl⟩ := h
  cases pieces with
  | nil => exact Or.inl rfl
  | cons piece rest =>
    refine Or.inr ⟨?_, ?_⟩
    · simp [weave_cons, Veil.mark, markChars]
    · simp [weave_cons, encode, encodeChars, opening]

/-- A veil taken off. -/
def unveil (v : Veil) (c : Char) : Char := if c = v.brace then '\x7b' else c

theorem map_unveil_of_not_mem (h : v.brace ∉ cs) : cs.map v.unveil = cs := by
  calc cs.map v.unveil
      = cs.map id := List.map_congr_left fun c hc => if_neg (ne_of_mem_of_not_mem hc h)
    _ = cs := List.map_id cs

theorem map_unveil_mark (index : Nat) : (v.mark index).toList.map v.unveil = encodeChars index := by
  have hdashes : v.brace ∉ ['-', '-', '-', '!'] := by
    have hdash : v.brace ≠ '-' := ne_of_isInert v.inert (by decide)
    have hbang : v.brace ≠ '!' := ne_of_isInert v.inert (by decide)
    simp [hdash, hbang]
  have hrest : v.brace ∉ Nat.toDigits 10 index ++ closing := by
    intro hmem
    rcases List.mem_append.1 hmem with hdigit | hclosing
    · have hkind := Nat.isDigit_of_mem_toDigits (by decide) (by decide) hdigit
      have hinert := v.inert
      simp [isInert, Char.isAlphanum, hkind] at hinert
    · have hall := v.inert
      simp only [closing, List.mem_cons, List.not_mem_nil, or_false] at hclosing
      rcases hclosing with h | h | h | h | h <;> rw [h] at hall <;> exact absurd hall (by decide)
  have hchars : markChars v.brace index =
      ['-', '-', '-', '!'] ++ (v.brace :: (Nat.toDigits 10 index ++ closing)) := by
    simp [markChars]
  rw [toList_mark, hchars, List.map_append, map_unveil_of_not_mem hdashes, List.map_cons,
    map_unveil_of_not_mem hrest, unveil, if_pos rfl, ← markChars_brace]
  simp [markChars]

theorem Named.map_unveil (h : v.Named s s') : s.toList.map v.unveil = s'.toList := by
  obtain ⟨pieces, last, hpieces, hlast, rfl, rfl⟩ := h
  induction pieces with
  | nil => exact map_unveil_of_not_mem hlast.unveiled
  | cons piece rest ih =>
    obtain ⟨hpiece, hrest⟩ := List.forall_mem_cons.1 hpieces
    rw [weave_cons, weave_cons, String.toList_append, String.toList_append, String.toList_append,
      String.toList_append, List.map_append, List.map_append, ih hrest, map_unveil_mark,
      map_unveil_of_not_mem hpiece.1.unveiled, encode, String.toList_ofList]

/-- **Names are the same behind veils exactly if they are the same with markers.** -/
theorem Named.eq_iff (h : v.Named s s') (hr : v.Named r r') : s = r ↔ s' = r' := by
  constructor
  · rintro rfl
    exact String.toList_inj.1 (h.map_unveil.symm.trans hr.map_unveil)
  · intro heq
    obtain ⟨pieces, last, hpieces, hlast, rfl, rfl⟩ := h
    obtain ⟨pieces', last', hpieces', hlast', rfl, rfl⟩ := hr
    obtain ⟨rfl, rfl⟩ := eq_of_weave_eq (fun piece hpiece => (hpieces piece hpiece).1.clear)
      hlast.clear (fun piece hpiece => (hpieces' piece hpiece).1.clear) hlast'.clear heq
    rfl

end Veil

/-- Line ends are read in the stretches around a marker, each by itself. -/
theorem normalizeLines_append_markChars (hbrace : isInert brace = true) (cs ds : List Char)
    (index : Nat) :
    normalizeLines (cs ++ (markChars brace index ++ ds)) =
      normalizeLines cs ++ (markChars brace index ++ normalizeLines ds) := by
  have hreturn : '\r' ∉ markChars brace index := fun hmem =>
    absurd (isPlain_of_mem_markChars hbrace hmem) (by decide)
  rw [← normalizeLines_append hreturn]
  exact normalizeLines_append_cons (by decide) cs _

end Markup

end LiveMarkup
