/-
Reading one marker.

A marker is read by taking the delimiters off both ends, while scanning looks for them in a text.
The two agree (`decode_bytes`), because all that matters of a token in the end is its body, and
what is between the delimiters is found either way.

The delimiters have characters in common, but they are taken off one after the other, the closing
one from what the opening one leaves.  So a text has room for both, and a marker is the
text of one opening delimiter, a body and one closing delimiter, in one way only.
-/
import LiveMarkup.Proofs.Marker.Scanning
import LiveMarkup.Proofs.Marker.Weaving
import Mathlib.Data.List.Induction

namespace LiveMarkup

namespace Text

variable {pat s rest : List Char}

theorem afterLead?_eq_some_iff : afterLead? pat s = some rest ↔ s = pat ++ rest := by
  unfold afterLead?
  constructor
  · intro h
    split at h
    · next hlead =>
      obtain ⟨after, rfl⟩ := List.isPrefixOf_iff_prefix.1 hlead
      rw [List.drop_left, Option.some.injEq] at h
      rw [h]
    · cases h
  · rintro rfl
    rw [if_pos (List.isPrefixOf_iff_prefix.2 (List.prefix_append pat rest)), List.drop_left]

theorem beforeTail?_eq_some_iff : beforeTail? pat s = some rest ↔ s = rest ++ pat := by
  unfold beforeTail?
  constructor
  · intro h
    split at h
    · next htail =>
      obtain ⟨before, rfl⟩ := List.isSuffixOf_iff_suffix.1 htail
      rw [List.length_append, Nat.add_sub_cancel, List.take_left, Option.some.injEq] at h
      rw [h]
    · cases h
  · rintro rfl
    rw [if_pos (List.isSuffixOf_iff_suffix.2 (List.suffix_append rest pat)), List.length_append,
      Nat.add_sub_cancel, List.take_left]

end Text

namespace Marker

open LiveMarkup.Text

variable {token text : String} {body : List Char} {index : Nat}

/-! ### Exactly one marker -/

theorem decode_eq_some_iff_index? : decode token = some index ↔
    ∃ body, token.toList = opening ++ (body ++ closing) ∧ index? body = some index := by
  unfold decode
  rw [Option.bind_eq_some_iff]
  constructor
  · rintro ⟨rest, hopen, h⟩
    obtain ⟨body, hclose, hindex⟩ := Option.bind_eq_some_iff.1 h
    rw [afterLead?_eq_some_iff] at hopen
    rw [beforeTail?_eq_some_iff] at hclose
    exact ⟨body, by rw [hopen, hclose], hindex⟩
  · rintro ⟨body, htoken, hindex⟩
    exact ⟨body ++ closing, afterLead?_eq_some_iff.2 htoken,
      Option.bind_eq_some_iff.2 ⟨body, beforeTail?_eq_some_iff.2 rfl, hindex⟩⟩

/-- Whatever stands between two delimiters is read as it is between any others. -/
theorem decode_of_toList (h : token.toList = opening ++ (body ++ closing)) :
    decode token = index? body := by
  refine Option.ext fun index =>
    decode_eq_some_iff_index?.trans ⟨?_, fun hindex => ⟨body, h, hindex⟩⟩
  rintro ⟨body', htoken, hindex⟩
  rw [h, List.append_cancel_left_eq, List.append_cancel_right_eq] at htoken
  rwa [htoken]

theorem decode_encode (h : index < indexLimit) : decode (encode index) = some index := by
  have htoken : (encode index).toList = opening ++ (Nat.toDigits 10 index ++ closing) := by
    rw [encode, String.toList_ofList, encodeChars, List.append_assoc]
  rw [decode_of_toList htoken, index?_toDigits h]

/-! ### Leading zeros -/

theorem toDigits_digit {c : Char} (h : c.isDigit = true) :
    c.toNat - '0'.toNat < 10 ∧ Nat.toDigits 10 (c.toNat - '0'.toNat) = [c] := by
  have hrange : 48 ≤ c.toNat ∧ c.toNat ≤ 57 := Char.isDigit_iff_toNat.1 h
  have hlt : c.toNat - 48 < 10 := by omega
  refine ⟨hlt, ?_⟩
  show Nat.toDigits 10 (c.toNat - 48) = [c]
  rw [Nat.toDigits_of_lt_base hlt, List.cons.injEq, ← Char.toNat_inj,
    Nat.toNat_digitChar_of_lt_ten hlt]
  exact ⟨by omega, rfl⟩

theorem ofDigitChars_zeros (zeros : Nat) :
    Nat.ofDigitChars 10 (List.replicate zeros '0') 0 = 0 := by
  induction zeros with
  | zero => rfl
  | succ zeros ih =>
    rw [List.replicate_succ, Nat.ofDigitChars_cons]
    exact ih

/-- **Digits spell their value, but for zeros in front.** -/
theorem exists_zeros (hne : body ≠ []) (hdigits : ∀ c ∈ body, c.isDigit = true) :
    ∃ zeros, body = List.replicate zeros '0' ++ Nat.toDigits 10 (Nat.ofDigitChars 10 body 0) := by
  induction body using List.reverseRecOn with
  | nil => exact absurd rfl hne
  | append_singleton front c ih =>
    obtain ⟨hlt, hdigit⟩ := toDigits_digit (hdigits c (by simp))
    have hvalue : Nat.ofDigitChars 10 (front ++ [c]) 0 =
        10 * Nat.ofDigitChars 10 front 0 + (c.toNat - '0'.toNat) := by
      rw [Nat.ofDigitChars_append, Nat.ofDigitChars_cons, Nat.ofDigitChars_nil]
    rw [hvalue]
    by_cases hfront : front = []
    · subst hfront
      rw [Nat.ofDigitChars_nil, Nat.mul_zero, Nat.zero_add, hdigit]
      exact ⟨0, rfl⟩
    · obtain ⟨zeros, hzeros⟩ := ih hfront fun c' hc' => hdigits c' (List.mem_append_left _ hc')
      generalize Nat.ofDigitChars 10 front 0 = value at hzeros
      rcases Nat.eq_zero_or_pos value with rfl | hpos
      · -- All of the front are zeros.
        refine ⟨zeros + 1, ?_⟩
        rw [hzeros, Nat.mul_zero, Nat.zero_add, hdigit, List.replicate_succ']
        rfl
      · refine ⟨zeros, ?_⟩
        rw [← Nat.toDigits_append_toDigits (by decide) hpos hlt, hdigit, ← List.append_assoc,
          ← hzeros]

/-- A run of digits names an index exactly if it is the index written out, with any number of
zeros in front. -/
theorem index?_eq_some_iff_zeros : index? body = some index ↔
    index < indexLimit ∧ ∃ zeros, body = List.replicate zeros '0' ++ Nat.toDigits 10 index := by
  rw [index?_eq_some_iff]
  constructor
  · rintro ⟨hbody, rfl⟩
    exact ⟨hbody.below, exists_zeros hbody.nonempty hbody.digits⟩
  · rintro ⟨hlimit, zeros, rfl⟩
    have hvalue : Nat.ofDigitChars 10 (List.replicate zeros '0' ++ Nat.toDigits 10 index) 0 =
        index := by
      rw [Nat.ofDigitChars_append, ofDigitChars_zeros,
        Nat.ofDigitChars_toDigits (by decide) (by decide)]
    refine ⟨⟨?_, fun c hc => ?_, hvalue.symm ▸ hlimit⟩, hvalue.symm⟩
    · simp [Nat.toDigits_ne_nil]
    · rcases List.mem_append.1 hc with hzero | hdigit
      · rw [List.eq_of_mem_replicate hzero]
        decide
      · exact Nat.isDigit_of_mem_toDigits (by decide) (by decide) hdigit

/-! ### One marker in a text -/

theorem bytes_of_mem_scan {t : Found} (ht : t ∈ scan text) :
    bytes text t.start t.stop = String.ofList t.chars := by
  obtain ⟨before, after, htext, hstart, hstop, -⟩ := stands_scan ht
  rw [hstart, hstop]
  exact bytes_eq htext

/-- **Scanning and decoding read a token alike.** -/
theorem decode_bytes {t : Found} (ht : t ∈ scan text) :
    decode (bytes text t.start t.stop) = t.index? := by
  rw [bytes_of_mem_scan ht]
  exact decode_of_toList String.toList_ofList

/-- **Decoding reads the text of one marker, and nothing else.**  What was written for an index is
read as this index.  A text is read exactly if it is a run of digits between two delimiters, with a
value below the limit, which is to say the index with any number of zeros in front.  And the
tokens that scanning finds are read as scanning reads them. -/
theorem decoded :
    (∀ index < indexLimit, decode (encode index) = some index) ∧
    (∀ token index, decode token = some index ↔
      ∃ body, token.toList = opening ++ (body ++ closing) ∧ IsIndex body ∧
        index = Nat.ofDigitChars 10 body 0) ∧
    (∀ token index, decode token = some index ↔
      index < indexLimit ∧ ∃ zeros, token.toList =
        opening ++ (List.replicate zeros '0' ++ Nat.toDigits 10 index ++ closing)) ∧
    ∀ text, ∀ t ∈ scan text, decode (bytes text t.start t.stop) = t.index? := by
  refine ⟨fun index h => decode_encode h, fun token index => ?_, fun token index => ?_,
    fun text t ht => decode_bytes ht⟩
  · rw [decode_eq_some_iff_index?]
    simp only [index?_eq_some_iff]
  · rw [decode_eq_some_iff_index?]
    constructor
    · rintro ⟨body, htoken, hindex⟩
      obtain ⟨hlimit, zeros, rfl⟩ := index?_eq_some_iff_zeros.1 hindex
      exact ⟨hlimit, zeros, htoken⟩
    · rintro ⟨hlimit, zeros, htoken⟩
      exact ⟨_, htoken, index?_eq_some_iff_zeros.2 ⟨hlimit, zeros, rfl⟩⟩

/-- The largest index is read back, and a token with a stray delimiter in it is read as nothing both
in its text and by itself. -/
theorem decoded_sampleLimit :
    decode (encode (Nat.pow 2 64 - 1)) = some (Nat.pow 2 64 - 1) ∧
      decode (bytes "price ---!\x7b ---!\x7b0\x7d!---" 6 23) = none := by
  obtain ⟨hwritten, -, -, hscan⟩ := decoded
  have htoken : (⟨6, 23, " ---!\x7b0".toList⟩ : Found) ∈
      scan "price ---!\x7b ---!\x7b0\x7d!---" := by decide +kernel
  refine ⟨hwritten _ (by decide +kernel), (hscan _ _ htoken).trans ?_⟩
  decide +kernel

end Marker

end LiveMarkup
