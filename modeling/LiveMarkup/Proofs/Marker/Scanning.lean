/-
Scanning any text.

A text need not be markup with markers in it: delimiters may be missing, nest, overlap or stand
in the wrong order.  What scanning finds in it all the same is fixed by four facts (`Scanned`):
the tokens are in order, each is two delimiters around a body, and an opening delimiter that has
a closing one behind it starts in a token.  The last is what makes the cut the leftmost one, and
it is the only induction in which the place of an occurrence has to be compared with the cut.

Replacing goes over the tokens with two cursors.  One is where the next token is looked for; the
other is how far the text was copied, and it stays behind when a token has no index.  `copyFrom`
is this loop over what was found, in any monad, so that it can be seen which indices are asked
for and when (`copyFrom_scan`).
-/
import LiveMarkup.Proofs.Marker
import Mathlib.Data.String.Basic

namespace LiveMarkup

namespace Text

/-- No occurrence starts before the one that is cut out. -/
theorem prefix_of_breakAt {pat s before after x y : List Char}
    (h : breakAt pat s = some (before, after)) (hs : s = x ++ (pat ++ y)) : before <+: x := by
  induction s generalizing before x with
  | nil =>
    have hbefore : before = [] := by
      have heq := eq_of_breakAt h
      simp only [List.append_assoc, List.nil_eq, List.append_eq_nil_iff] at heq
      exact heq.1
    rw [hbefore]
    exact List.nil_prefix
  | cons c cs ih =>
    rw [breakAt] at h
    split at h
    · next hfront =>
      cases h
      exact List.nil_prefix
    · next hfront =>
      obtain ⟨cut, hcut, heq⟩ := Option.map_eq_some_iff.1 h
      cases heq
      cases x with
      | nil =>
        rw [List.nil_append] at hs
        rw [hs, List.isPrefixOf_iff_prefix] at hfront
        exact absurd (List.prefix_append pat y) hfront
      | cons a x =>
        obtain ⟨rfl, hcs⟩ := List.cons.inj hs
        exact (List.prefix_cons_inj c).2 (ih hcut hcs)

theorem not_infix_of_breakAt {pat s before after : List Char} (hne : pat ≠ [])
    (h : breakAt pat s = some (before, after)) : ¬ pat <:+: before := by
  rintro ⟨x, y, rfl⟩
  have hs := eq_of_breakAt h
  simp only [List.append_assoc] at hs
  have hle := (prefix_of_breakAt h hs).length_le
  have hpos : 0 < pat.length := List.length_pos_iff.2 hne
  simp only [List.length_append] at hle
  omega

end Text

namespace Marker

open LiveMarkup.Text

/-! ### Sizes in bytes -/

theorem byteSize_le_of_isPrefix {a b : List Char} (h : a <+: b) : byteSize a ≤ byteSize b := by
  obtain ⟨rest, rfl⟩ := h
  rw [byteSize_append]
  omega

/-- A text that goes on is larger. -/
theorem byteSize_lt_of_isPrefix {a b : List Char} (h : a <+: b) (hlength : a.length < b.length) :
    byteSize a < byteSize b := by
  obtain ⟨rest, rfl⟩ := h
  cases rest with
  | nil => simp at hlength
  | cons c rest =>
    have hpos : 0 < c.utf8Size := Char.utf8Size_pos c
    rw [byteSize_append]
    show byteSize a < byteSize a + (c.utf8Size + byteSize rest)
    omega

theorem byteSize_eq_utf8Len (cs : List Char) : byteSize cs = String.utf8Len cs := by
  induction cs with
  | nil => rfl
  | cons c cs ih =>
    rw [String.utf8Len_cons, ← ih, Nat.add_comm]
    rfl

/-! ### Where the tokens stand -/

/-- The characters of a token. -/
def Found.chars (t : Found) : List Char := opening ++ (t.body ++ closing)

theorem chars_token (body : List Char) :
    (Segment.token body).chars = opening ++ (body ++ closing) :=
  List.append_assoc ..

/-- What scanning finds in a text whose first byte has the number `offset`. -/
structure ScannedFrom (offset : Nat) (text : List Char) (tokens : List Found) : Prop where
  /-- Each token is a body between delimiters, and it starts and stops between characters.  The
  body holds no closing delimiter. -/
  stands : ∀ t ∈ tokens, ∃ before after, text = before ++ (t.chars ++ after) ∧
    t.start = offset + byteSize before ∧ t.stop = t.start + byteSize t.chars ∧
    ¬ closing <:+: t.body
  /-- No token starts before the one in front of it has stopped. -/
  ordered : tokens.Pairwise fun t u => t.stop ≤ u.start
  /-- Where an opening delimiter starts that has a closing one behind it, there is a token. -/
  covered : ∀ before body after, text = before ++ (opening ++ (body ++ (closing ++ after))) →
    ∃ t ∈ tokens, t.start ≤ offset + byteSize before ∧ offset + byteSize before < t.stop

variable {text gap rest body after : List Char} {offset : Nat} {tokens : List Found}

theorem scannedFrom_of_not_infix (h : ¬ opening <:+: text) : ScannedFrom offset text [] where
  stands t ht := absurd ht List.not_mem_nil
  ordered := List.Pairwise.nil
  covered before body after heq := by
    refine absurd ?_ h
    rw [heq]
    exact ⟨before, body ++ (closing ++ after), List.append_assoc ..⟩

/-- After the first opening delimiter there is no closing one. -/
theorem scannedFrom_of_unclosed (hopen : breakAt opening text = some (gap, rest))
    (hclose : ¬ closing <:+: rest) : ScannedFrom offset text [] where
  stands t ht := absurd ht List.not_mem_nil
  ordered := List.Pairwise.nil
  covered before body after heq := by
    -- The closing delimiter stands behind the given opening one, hence behind the first.
    obtain ⟨z, rfl⟩ := prefix_of_breakAt hopen heq
    have htext := eq_of_breakAt hopen
    rw [heq, List.append_assoc, List.append_assoc, List.append_cancel_left_eq] at htext
    have hbehind : body ++ (closing ++ after) <:+ opening ++ rest := by
      rw [← htext, ← List.append_assoc z]
      exact List.suffix_append _ _
    have hlength := congrArg List.length htext
    simp only [List.length_append] at hlength
    have hsuffix : body ++ (closing ++ after) <:+ rest := by
      refine List.suffix_of_suffix_length_le hbehind (List.suffix_append _ _) ?_
      simp only [List.length_append]
      omega
    refine absurd (List.IsInfix.trans ?_ hsuffix.isInfix) hclose
    exact ⟨body, after, List.append_assoc ..⟩

/-- A token is cut out, and the text behind it is scanned in the same way. -/
theorem ScannedFrom.cons (hopen : breakAt opening text = some (gap, rest))
    (hclose : breakAt closing rest = some (body, after))
    (h : ScannedFrom (offset + byteSize gap + byteSize (Segment.token body).chars) after tokens) :
    ScannedFrom offset text
      (⟨offset + byteSize gap, offset + byteSize gap + byteSize (Segment.token body).chars, body⟩ ::
        tokens) := by
  have htext : text = gap ++ ((Segment.token body).chars ++ after) := by
    rw [eq_of_breakAt hopen, eq_of_breakAt hclose]
    simp only [Segment.chars, List.append_assoc]
  refine ⟨?_, ?_, ?_⟩
  · refine List.forall_mem_cons.2 ⟨⟨gap, after, ?_, rfl, ?_, ?_⟩, fun t ht => ?_⟩
    · rw [htext, chars_token]
      rfl
    · rw [chars_token]
      rfl
    · exact not_infix_of_breakAt (by simp [closing]) hclose
    · obtain ⟨before, behind, heq, hstart, hstop, hbody⟩ := h.stands t ht
      refine ⟨gap ++ ((Segment.token body).chars ++ before), behind, ?_, ?_, hstop, hbody⟩
      · rw [htext, heq]
        simp only [List.append_assoc]
      · rw [hstart, byteSize_append, byteSize_append]
        omega
  · refine List.pairwise_cons.2 ⟨fun u hu => ?_, h.ordered⟩
    obtain ⟨before, -, -, hstart, -⟩ := h.stands u hu
    show offset + byteSize gap + byteSize (Segment.token body).chars ≤ u.start
    omega
  · intro before inner behind heq
    have hgap : gap <+: before := prefix_of_breakAt hopen heq
    have hbefore : before <+: text := ⟨_, heq.symm⟩
    have hcut : gap ++ (Segment.token body).chars <+: text :=
      ⟨after, by rw [htext, List.append_assoc]⟩
    by_cases hlength : before.length < (gap ++ (Segment.token body).chars).length
    · -- The opening delimiter starts in the token that was cut out.
      refine ⟨_, List.mem_cons_self, ?_, ?_⟩
      · have hle := byteSize_le_of_isPrefix hgap
        show offset + byteSize gap ≤ offset + byteSize before
        omega
      · have hinside := List.prefix_of_prefix_length_le hbefore hcut (Nat.le_of_lt hlength)
        have hlt := byteSize_lt_of_isPrefix hinside hlength
        rw [byteSize_append] at hlt
        show offset + byteSize before < offset + byteSize gap + byteSize (Segment.token body).chars
        omega
    · -- It starts behind that token, in the text that is still to be scanned.
      obtain ⟨z, rfl⟩ := List.prefix_of_prefix_length_le hcut hbefore (Nat.le_of_not_lt hlength)
      have hrest : after = z ++ (opening ++ (inner ++ (closing ++ behind))) := by
        rw [heq] at htext
        simpa only [List.append_assoc, List.append_cancel_left_eq] using htext.symm
      obtain ⟨t, ht, hstart, hstop⟩ := h.covered z inner behind hrest
      refine ⟨t, List.mem_cons_of_mem _ ht, ?_, ?_⟩
      · rw [byteSize_append, byteSize_append]
        omega
      · rw [byteSize_append, byteSize_append]
        omega

theorem scannedFrom_segments (offset : Nat) (text : List Char) :
    ScannedFrom offset text (foundFrom offset (segments text)) := by
  fun_induction segments text generalizing offset with
  | case1 text hopen => exact scannedFrom_of_not_infix (breakAt_eq_none_iff.1 hopen)
  | case2 text gap rest hopen hclose =>
    exact scannedFrom_of_unclosed hopen (breakAt_eq_none_iff.1 hclose)
  | case3 text gap rest hopen body after hclose ih => exact (ih _).cons hopen hclose

/-- An opening delimiter that starts in front of a token has a closing one behind it, that of the
token. -/
theorem exists_closing_of_lt {before behind front after : List Char} {t : Found}
    (hopens : text = before ++ (opening ++ behind)) (hstands : text = front ++ (t.chars ++ after))
    (hlt : byteSize before < byteSize front) :
    ∃ body, text = before ++ (opening ++ (body ++ (closing ++ after))) := by
  have hbefore : before <+: text := ⟨_, hopens.symm⟩
  have hfront : front <+: text := ⟨_, hstands.symm⟩
  have hlength : before.length ≤ front.length := by
    by_contra hlong
    have hle := byteSize_le_of_isPrefix
      (List.prefix_of_prefix_length_le hfront hbefore (Nat.le_of_not_le hlong))
    omega
  obtain ⟨w, rfl⟩ := List.prefix_of_prefix_length_le hbefore hfront hlength
  have heq : opening ++ behind = (w ++ (opening ++ t.body)) ++ (closing ++ after) := by
    rw [hopens] at hstands
    simpa only [Found.chars, List.append_assoc, List.append_cancel_left_eq] using hstands
  have hsuffix : closing ++ after <:+ behind := by
    have hlengths := congrArg List.length heq
    simp only [List.length_append] at hlengths
    refine List.suffix_of_suffix_length_le (heq ▸ List.suffix_append _ _)
      (List.suffix_append opening behind) ?_
    rw [List.length_append]
    omega
  obtain ⟨body, rfl⟩ := hsuffix
  exact ⟨body, hopens⟩

/-! ### Tokens with an index -/

/-- A run of digits, not empty, whose value is below the limit. -/
structure IsIndex (body : List Char) : Prop where
  nonempty : body ≠ []
  digits : ∀ c ∈ body, c.isDigit = true
  below : Nat.ofDigitChars 10 body 0 < indexLimit

theorem index?_eq_some_iff {body : List Char} {index : Nat} :
    index? body = some index ↔ IsIndex body ∧ index = Nat.ofDigitChars 10 body 0 := by
  unfold index?
  by_cases hrun : body ≠ [] ∧ ∀ c ∈ body, c.isDigit = true
  · have hcond : (body.isEmpty || !body.all Char.isDigit) = false := by simpa using hrun
    rw [hcond]
    by_cases hbelow : Nat.ofDigitChars 10 body 0 < indexLimit
    · simp only [hbelow, if_true, Option.some.injEq, Bool.false_eq_true, if_false]
      exact ⟨fun h => ⟨⟨hrun.1, hrun.2, hbelow⟩, h.symm⟩, fun h => h.2.symm⟩
    · simp only [hbelow, if_false, Bool.false_eq_true, reduceCtorEq, false_iff]
      exact fun h => hbelow h.1.below
  · have hcond : (body.isEmpty || !body.all Char.isDigit) = true := by
      rw [not_and_or] at hrun
      simpa [Bool.or_eq_true, imp_iff_not_or] using hrun
    rw [hcond]
    simp only [if_true, reduceCtorEq, false_iff]
    exact fun h => hrun ⟨h.1.nonempty, h.1.digits⟩

theorem isSome_index?_iff {body : List Char} : (index? body).isSome = true ↔ IsIndex body := by
  rw [Option.isSome_iff_exists]
  constructor
  · rintro ⟨index, hindex⟩
    exact (index?_eq_some_iff.1 hindex).1
  · intro h
    exact ⟨_, index?_eq_some_iff.2 ⟨h, rfl⟩⟩

/-! ### Copying with two cursors -/

/-- The text from one byte to another. -/
def bytes (text : String) (start stop : Nat) : String :=
  String.Pos.Raw.extract text ⟨start⟩ ⟨stop⟩

/-- Copy a text from byte `copied` on, over the tokens that come behind it.  For each token with
an index the answer to the index is put in its place; a token without one is left to be copied
with what follows it. -/
def copyFrom {m : Type → Type} [Monad m] (text : String) (ask : Nat → m String) (copied : Nat) :
    List Found → m String
  | [] => pure (bytes text copied text.utf8ByteSize)
  | t :: rest =>
    match t.index? with
    | none => copyFrom text ask copied rest
    | some index => do
      let answer ← ask index
      let others ← copyFrom text ask t.stop rest
      return bytes text copied t.start ++ (answer ++ others)

/-- The segments with answers in the places of the tokens that have an index. -/
def refill : List Segment → List String → List Char
  | [], _ => []
  | .plain text :: rest, answers => text ++ refill rest answers
  | .token body :: rest, answers =>
    match index? body, answers with
    | some _, answer :: others => answer.toList ++ refill rest others
    | _, _ => (Segment.token body).chars ++ refill rest answers

/-- Copying what stands between two places gives the characters that stand there. -/
theorem bytes_eq {text : String} {front kept behind : List Char}
    (h : text.toList = front ++ (kept ++ behind)) :
    bytes text (byteSize front) (byteSize (front ++ kept)) = String.ofList kept := by
  rw [← String.ofList_toList (s := text), h, bytes, byteSize_append, byteSize_eq_utf8Len,
    byteSize_eq_utf8Len, ← List.append_assoc]
  exact String.extract_of_valid front kept behind

variable {m : Type → Type} [Monad m]

/-- The loop goes on behind `front`, of which all is copied, and behind `kept`, which is left to
be copied. -/
theorem copyFrom_foundFrom [LawfulMonad m] (ask : Nat → m String) {text : String}
    {segs : List Segment} {front kept : List Char}
    (h : text.toList = front ++ (kept ++ segs.flatMap Segment.chars)) :
    copyFrom text ask (byteSize front) (foundFrom (byteSize (front ++ kept)) segs) =
      (fun answers => String.ofList (kept ++ refill segs answers)) <$>
        ((bodies segs).filterMap index?).mapM ask := by
  induction segs generalizing front kept with
  | nil =>
    have hall : text.utf8ByteSize = byteSize (front ++ kept) := by
      rw [← byteSize_toList, h, List.flatMap_nil, List.append_nil]
    show pure (bytes text (byteSize front) text.utf8ByteSize) = _
    rw [hall, bytes_eq h]
    simp [bodies, refill]
  | cons seg rest ih =>
    cases seg with
    | plain plain =>
      have hgo := @ih front (kept ++ plain) (by simpa [Segment.chars] using h)
      rw [← List.append_assoc, byteSize_append (front ++ kept)] at hgo
      simp only [List.append_assoc] at hgo
      exact hgo
    | token body =>
      have hfound : foundFrom (byteSize (front ++ kept)) (.token body :: rest) =
          ⟨byteSize (front ++ kept), byteSize (front ++ (kept ++ (Segment.token body).chars)),
            body⟩ ::
            foundFrom (byteSize (front ++ (kept ++ (Segment.token body).chars))) rest := by
        rw [← List.append_assoc, byteSize_append (front ++ kept)]
        rfl
      have hbodies : bodies (.token body :: rest) = body :: bodies rest := rfl
      rw [hfound, hbodies]
      cases hindex : index? body with
      | none =>
        have hgo := @ih front (kept ++ (Segment.token body).chars) (by simpa using h)
        simp only [copyFrom, Found.index?, hindex, List.filterMap_cons]
        rw [hgo]
        simp only [refill, hindex, List.append_assoc]
      | some index =>
        have hgo := @ih (front ++ (kept ++ (Segment.token body).chars)) [] (by simpa using h)
        rw [List.append_nil] at hgo
        have hkept := bytes_eq h
        simp only [copyFrom, Found.index?, hindex, List.filterMap_cons]
        rw [hgo, hkept, List.mapM_cons]
        simp [refill, hindex]

/-- Answers that are known beforehand fill the places as `substitute` does. -/
theorem refill_map (value : Nat → String) (segs : List Segment) :
    refill segs (((bodies segs).filterMap index?).map value) =
      segs.flatMap (Segment.fill value) := by
  induction segs with
  | nil => rfl
  | cons seg rest ih =>
    cases seg with
    | plain plain => exact congrArg (plain ++ ·) ih
    | token body =>
      have hbodies : bodies (.token body :: rest) = body :: bodies rest := rfl
      rw [hbodies, List.flatMap_cons, ← ih]
      cases hindex : index? body with
      | none => simp only [List.filterMap_cons, hindex, refill, Segment.fill]
      | some index => simp only [List.filterMap_cons, hindex, List.map_cons, refill, Segment.fill]

/-! ### Whatever the text -/

/-- How a text is read, whatever delimiters it holds and in whatever order. -/
structure Scanned (text : String) : Prop where
  /-- A token is a body between delimiters that holds no closing one.  It starts and stops
  between characters. -/
  stands : ∀ t ∈ scan text, ∃ before after, text.toList = before ++ (t.chars ++ after) ∧
    t.start = byteSize before ∧ t.stop = byteSize (before ++ t.chars) ∧ ¬ closing <:+: t.body
  /-- Tokens come in order and do not overlap. -/
  ordered : (scan text).Pairwise fun t u => t.stop ≤ u.start
  /-- An opening delimiter that starts in front of a token starts in a token. -/
  gaps : ∀ before after, text.toList = before ++ (opening ++ after) →
    (∃ t ∈ scan text, byteSize before < t.start) →
      ∃ t ∈ scan text, t.start ≤ byteSize before ∧ byteSize before < t.stop
  /-- Behind the last token no opening delimiter has a closing one behind it. -/
  rest : ∀ before body after, text.toList = before ++ (opening ++ (body ++ (closing ++ after))) →
    ∃ t ∈ scan text, byteSize before < t.stop
  /-- There is a token exactly if there is an opening delimiter with a closing one behind it. -/
  marked : isMarker text = true ↔
    ∃ before body after, text.toList = before ++ (opening ++ (body ++ (closing ++ after)))
  /-- An index is the value of a run of digits. -/
  valued : ∀ t ∈ scan text, ∀ index,
    t.index? = some index ↔ IsIndex t.body ∧ index = Nat.ofDigitChars 10 t.body 0
  /-- Slots cannot be listed exactly if some body is no such run. -/
  refused : (∃ e, indices text = .error e) ↔ ∃ t ∈ scan text, ¬ IsIndex t.body
  /-- The first token with such a body is named. -/
  named : ∀ e, indices text = .error e ↔ ∃ before t after, scan text = before ++ t :: after ∧
    (∀ u ∈ before, IsIndex u.body) ∧ ¬ IsIndex t.body ∧ e = ⟨String.ofList t.chars⟩
  /-- Replacing copies the text from token to token, with values in place of those that have an
  index. -/
  copied : ∀ value : Nat → String,
    substitute text value =
      Id.run (copyFrom text (fun index => pure (value index)) 0 (scan text))
  /-- It asks for the value of every such token once, from left to right, whatever else is done to
  answer. -/
  asked : ∀ (m : Type → Type) [Monad m] [LawfulMonad m] (ask : Nat → m String),
    copyFrom text ask 0 (scan text) =
      (fun answers => String.ofList (refill (segments text.toList) answers)) <$>
        ((scan text).filterMap Found.index?).mapM ask

theorem stands_scan {text : String} {t : Found} (ht : t ∈ scan text) :
    ∃ before after, text.toList = before ++ (t.chars ++ after) ∧
      t.start = byteSize before ∧ t.stop = byteSize (before ++ t.chars) ∧
      ¬ closing <:+: t.body := by
  obtain ⟨before, after, htext, hstart, hstop, hbody⟩ :=
    (scannedFrom_segments 0 text.toList).stands t ht
  rw [Nat.zero_add] at hstart
  refine ⟨before, after, htext, hstart, ?_, hbody⟩
  rw [hstop, hstart, byteSize_append]

theorem covered_scan {text : String} {before body after : List Char}
    (h : text.toList = before ++ (opening ++ (body ++ (closing ++ after)))) :
    ∃ t ∈ scan text, t.start ≤ byteSize before ∧ byteSize before < t.stop := by
  have hcovered := (scannedFrom_segments 0 text.toList).covered before body after h
  simp only [Nat.zero_add] at hcovered
  exact hcovered

theorem isMarker_iff (text : String) : isMarker text = true ↔
    ∃ before body after, text.toList = before ++ (opening ++ (body ++ (closing ++ after))) := by
  constructor
  · intro h
    have hne : scan text ≠ [] := by simpa [isMarker] using h
    obtain ⟨t, ht⟩ := List.exists_mem_of_ne_nil _ hne
    obtain ⟨before, after, htext, -⟩ := stands_scan ht
    refine ⟨before, t.body, after, ?_⟩
    simpa only [Found.chars, List.append_assoc] using htext
  · rintro ⟨before, body, after, htext⟩
    obtain ⟨t, ht, -⟩ := covered_scan htext
    have hne := List.ne_nil_of_mem ht
    simpa [isMarker] using hne

theorem indices_eq_error_iff_first (text : String) (e : Malformed) :
    indices text = .error e ↔ ∃ before t after, scan text = before ++ t :: after ∧
      (∀ u ∈ before, IsIndex u.body) ∧ ¬ IsIndex t.body ∧ e = ⟨String.ofList t.chars⟩ := by
  have hindex : ∀ u : Found, u.index?.isNone = true ↔ ¬ IsIndex u.body := by
    intro u
    rw [← isSome_index?_iff, Option.isNone_iff_eq_none, Bool.not_eq_true,
      Option.isSome_eq_false_iff, Option.isNone_iff_eq_none]
    rfl
  rw [indices_eq_error_iff, malformed?, Option.map_eq_some_iff]
  constructor
  · rintro ⟨t, hfind, rfl⟩
    obtain ⟨ht, before, after, hscan, hbefore⟩ := List.find?_eq_some_iff_append.1 hfind
    refine ⟨before, t, after, hscan, fun u hu => ?_, (hindex t).1 ht, by rw [chars_token]; rfl⟩
    have hsome := hbefore u hu
    rw [Bool.not_eq_true', ← Bool.not_eq_true, hindex, not_not] at hsome
    exact hsome
  · rintro ⟨before, t, after, hscan, hbefore, ht, rfl⟩
    refine ⟨t, List.find?_eq_some_iff_append.2 ⟨(hindex t).2 ht, before, after, hscan, ?_⟩,
      by rw [chars_token]; rfl⟩
    intro u hu
    rw [Bool.not_eq_true', ← Bool.not_eq_true, hindex, not_not]
    exact hbefore u hu

/-- **Every text is scanned.** -/
theorem scanned (text : String) : Scanned text := by
  have hasked : ∀ (m : Type → Type) [Monad m] [LawfulMonad m] (ask : Nat → m String),
      copyFrom text ask 0 (scan text) =
        (fun answers => String.ofList (refill (segments text.toList) answers)) <$>
          (replaced text).mapM ask := by
    intro m _ _ ask
    have h : text.toList = [] ++ ([] ++ (segments text.toList).flatMap Segment.chars) := by
      rw [flatMap_chars_segments]
      rfl
    rw [replaced_eq]
    exact copyFrom_foundFrom ask h
  refine
    { stands := fun t ht => stands_scan ht
      ordered := (scannedFrom_segments 0 text.toList).ordered
      gaps := ?_
      rest := ?_
      marked := isMarker_iff text
      valued := fun t _ index => index?_eq_some_iff
      refused := ?_
      named := indices_eq_error_iff_first text
      copied := ?_
      asked := hasked }
  · rintro before after htext ⟨t, ht, hlt⟩
    obtain ⟨front, behind, hstands, hstart, -⟩ := stands_scan ht
    obtain ⟨body, hcloses⟩ := exists_closing_of_lt htext hstands (hstart ▸ hlt)
    exact covered_scan hcloses
  · intro before body after htext
    obtain ⟨t, ht, -, hlt⟩ := covered_scan htext
    exact ⟨t, ht, hlt⟩
  · have hnone : (∃ e, indices text = .error e) ↔ ¬ malformed? text = none := by
      rw [exists_congr fun e => indices_eq_error_iff text e]
      exact Option.ne_none_iff_exists'.symm
    rw [hnone, malformed?_eq_none_iff, not_forall₂]
    refine exists_congr fun t => ?_
    rw [exists_prop, Found.index?, isSome_index?_iff]
  · intro value
    rw [hasked, List.mapM_pure, replaced_eq, map_pure, Id.run_pure, refill_map]
    rfl

/-- A delimiter that belongs to no marker takes the next marker into its token. -/
example : scan "price ---!\x7b ---!\x7b0\x7d!---" = [⟨6, 23, " ---!\x7b0".toList⟩] := by
  decide +kernel

end Marker

end LiveMarkup
