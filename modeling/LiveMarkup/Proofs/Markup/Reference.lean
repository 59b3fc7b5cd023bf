/-
What the names of references have in common.

Names are made of letters and digits, and what they stand for has no null character in it.
The table is gone through once for this, by the bytes of its strings, which are at hand where
the characters would have to be decoded first.  All else follows from how the table is looked
up: whatever begins a name with its semicolon is a beginning, nothing else than a letter, a
digit or a semicolon occurs in a beginning, and a name with its semicolon is the longest name
at its own front.
-/
import LiveMarkup.Markup.Reference

namespace LiveMarkup.Markup.Reference

variable {name rest chars : List Char} {text : String} {first c : Char}

/-! ### Characters and bytes -/

/-- The bytes of a string. -/
def bytes (s : String) : List UInt8 := s.toByteArray.data.toList

/-- The byte of a letter or a digit. -/
def isAlphanumByte (b : UInt8) : Bool :=
  (0x30 ≤ b && b ≤ 0x39) || (0x41 ≤ b && b ≤ 0x5a) || (0x61 ≤ b && b ≤ 0x7a)

theorem mem_bytes {s : String} {b : UInt8} (hc : c ∈ s.toList)
    (hb : b ∈ String.utf8EncodeChar c) : b ∈ bytes s := by
  have hencoded : bytes s = s.toList.flatMap String.utf8EncodeChar := by
    rw [bytes, ← String.utf8Encode_toList]
    simp [List.utf8Encode]
  rw [hencoded]
  exact List.mem_flatMap.2 ⟨c, hc, hb⟩

theorem isAlphanumByte_ofNat (n : Nat) : isAlphanumByte (UInt8.ofNat n) = true ↔
    0x30 ≤ n % 256 ∧ n % 256 ≤ 0x39 ∨ 0x41 ≤ n % 256 ∧ n % 256 ≤ 0x5a ∨
      0x61 ≤ n % 256 ∧ n % 256 ≤ 0x7a := by
  simp [isAlphanumByte, UInt8.le_iff_toNat_le, or_assoc]

/-- The first byte of a character beyond ASCII is the byte of no letter and of no digit. -/
theorem isAlphanum_of_utf8EncodeChar
    (h : (String.utf8EncodeChar c).all isAlphanumByte = true) : c.isAlphanum = true := by
  rw [List.all_eq_true] at h
  unfold String.utf8EncodeChar at h
  simp only [Char.toNat_val] at h
  split at h
  · have hbyte := (isAlphanumByte_ofNat _).1 (h _ List.mem_cons_self)
    unfold Char.isAlphanum Char.isAlpha Char.isUpper Char.isLower Char.isDigit
    simp only [Bool.or_eq_true, Bool.and_eq_true, decide_eq_true_eq, ge_iff_le,
      UInt32.le_iff_toNat_le, Char.toNat_val, UInt32.reduceToNat, Char.reduceVal]
    omega
  · exfalso
    split at h
    · have hfirst := (isAlphanumByte_ofNat _).1 (h _ List.mem_cons_self)
      omega
    · split at h
      · have hfirst := (isAlphanumByte_ofNat _).1 (h _ List.mem_cons_self)
        omega
      · have hfirst := (isAlphanumByte_ofNat _).1 (h _ List.mem_cons_self)
        omega

theorem isAlphanum_of_bytes {s : String} (h : (bytes s).all isAlphanumByte = true)
    (hc : c ∈ s.toList) : c.isAlphanum = true := by
  apply isAlphanum_of_utf8EncodeChar
  rw [List.all_eq_true] at h ⊢
  intro b hb
  exact h b (mem_bytes hc hb)

/-! ### What the table is made of -/

/-- The table, gone through. -/
theorem bytes_initials : ∀ group ∈ initials, group.1.isAlphanum = true ∧
    ∀ entry ∈ group.2, (bytes entry.1).all isAlphanumByte = true ∧ 0 ∉ bytes entry.2 := by
  decide +kernel

/-- Only letters have names under them. -/
theorem mem_initials_of_mem_under {entry : String × String} (h : entry ∈ under first) :
    (first, under first) ∈ initials := by
  cases hlookup : initials.lookup first with
  | none => simp [under, hlookup] at h
  | some group =>
    have hunder : under first = group := by simp [under, hlookup]
    obtain ⟨before, after, hinitials, -⟩ := List.lookup_eq_some_iff.1 hlookup
    rw [hunder, hinitials]
    simp

theorem isAlphanum_first {entry : String × String} (h : entry ∈ under first) :
    first.isAlphanum = true :=
  (bytes_initials _ (mem_initials_of_mem_under h)).1

theorem isAlphanum_of_mem_under {entry : String × String} (h : entry ∈ under first)
    (hc : c ∈ entry.1.toList) : c.isAlphanum = true :=
  isAlphanum_of_bytes ((bytes_initials _ (mem_initials_of_mem_under h)).2 entry h).1 hc

theorem ne_null_of_mem_under {entry : String × String} (h : entry ∈ under first) :
    '\x00' ∉ entry.2.toList := by
  intro hnull
  have hbytes := ((bytes_initials _ (mem_initials_of_mem_under h)).2 entry h).2
  exact hbytes (mem_bytes hnull (by decide))

/-! ### Looking up -/

theorem mem_under_of_named? (h : named? (first :: rest) = some text) :
    ∃ entry ∈ under first, entry.1.toList = rest ∧ entry.2 = text := by
  unfold named? at h
  obtain ⟨entry, hfound, htext⟩ := Option.map_eq_some_iff.1 h
  exact ⟨entry, List.mem_of_find?_eq_some hfound, by simpa using List.find?_some hfound, htext⟩

/-- Names are made of letters and digits. -/
theorem isAlphanum_of_named? (h : named? name = some text) (hc : c ∈ name) :
    c.isAlphanum = true := by
  cases name with
  | nil => cases hc
  | cons first rest =>
    obtain ⟨entry, hentry, rfl, -⟩ := mem_under_of_named? h
    cases List.mem_cons.1 hc with
    | inl heq => exact heq ▸ isAlphanum_first hentry
    | inr hrest => exact isAlphanum_of_mem_under hentry hrest

theorem semicolon_not_mem_of_named? (h : named? name = some text) : ';' ∉ name := by
  intro hc
  exact absurd (isAlphanum_of_named? h hc) (by decide)

/-- No name stands for a null character. -/
theorem ne_null_of_named? (h : named? name = some text) : '\x00' ∉ text.toList := by
  cases name with
  | nil => cases h
  | cons first rest =>
    obtain ⟨entry, hentry, -, rfl⟩ := mem_under_of_named? h
    exact ne_null_of_mem_under hentry

/-- Whatever begins a name with its semicolon is a beginning. -/
theorem isBeginning_of_named? (h : named? name = some text) (hchars : chars <+: name ++ [';']) :
    isBeginning chars = true := by
  cases chars with
  | nil => rfl
  | cons c chars =>
    cases name with
    | nil => cases h
    | cons first rest =>
      obtain ⟨entry, hentry, rfl, -⟩ := mem_under_of_named? h
      rw [List.cons_append, List.cons_prefix_cons] at hchars
      obtain ⟨rfl, hrest⟩ := hchars
      exact List.any_eq_true.2 ⟨entry, hentry, List.isPrefixOf_iff_prefix.2 hrest⟩

/-- There are only letters, digits and semicolons in the beginning of a name. -/
theorem isAlphanum_of_isBeginning (h : isBeginning chars = true) (hc : c ∈ chars) :
    c.isAlphanum = true ∨ c = ';' := by
  cases chars with
  | nil => cases hc
  | cons first rest =>
    obtain ⟨entry, hentry, hrest⟩ := List.any_eq_true.1 h
    cases List.mem_cons.1 hc with
    | inl heq => exact Or.inl (heq ▸ isAlphanum_first hentry)
    | inr hmem =>
      have hmem' := (List.isPrefixOf_iff_prefix.1 hrest).subset hmem
      rw [List.mem_append, List.mem_singleton] at hmem'
      exact hmem'.imp_left (isAlphanum_of_mem_under hentry)

/-- Any other character ends the name of a reference. -/
theorem isBeginning_concat (halphanum : c.isAlphanum = false) (hc : c ≠ ';')
    (chars : List Char) : isBeginning (chars ++ [c]) = false := by
  rw [Bool.eq_false_iff]
  intro h
  have hor : c.isAlphanum = true ∨ c = ';' := isAlphanum_of_isBeginning h (by simp)
  simp [halphanum, hc] at hor

theorem isBeginning_ne_null (h : isBeginning chars = true) : '\x00' ∉ chars := by
  intro hnull
  exact absurd (isAlphanum_of_isBeginning h hnull) (by decide)

/-! ### The longest name -/

/-- A name with its semicolon is the longest name at its own front. -/
theorem longest?_of_named? (h : named? name = some text) :
    longest? (name ++ [';']) = some (name ++ [';'], text) := by
  have hfront : (name ++ [';']).takeWhile (· != ';') = name := by
    have hall : ∀ c ∈ name, (c != ';') = true := by
      intro c hc
      have hne : c ≠ ';' := fun heq => semicolon_not_mem_of_named? h (heq ▸ hc)
      simpa using hne
    rw [List.takeWhile_append_of_pos hall]
    simp
  have hclosed : closed? (name ++ [';']) = some (name ++ [';'], text) := by
    simp [closed?, hfront, h]
  simp [longest?, hclosed]

/-- Whatever is found is the text of a name. -/
theorem named?_of_longest? {found : List Char} (h : longest? chars = some (found, text)) :
    ∃ name, named? name = some text := by
  unfold longest? at h
  cases Option.or_eq_some_iff.1 h with
  | inl hclosed =>
    unfold closed? at hclosed
    simp only at hclosed
    split at hclosed
    · obtain ⟨text', htext, heq⟩ := Option.map_eq_some_iff.1 hclosed
      exact ⟨_, (Prod.mk.inj heq).2 ▸ htext⟩
    · cases hclosed
  | inr hbare =>
    obtain ⟨name, -, hname⟩ := List.exists_of_findSome?_eq_some hbare.2
    split at hname
    · obtain ⟨text', htext, heq⟩ := Option.map_eq_some_iff.1 hname
      exact ⟨name, (Prod.mk.inj heq).2 ▸ htext⟩
    · cases hname

/-- The longest name stands for something without a null character. -/
theorem ne_null_of_longest? {found : List Char} (h : longest? chars = some (found, text)) :
    '\x00' ∉ text.toList := by
  obtain ⟨name, hname⟩ := named?_of_longest? h
  exact ne_null_of_named? hname

example : longest? "notit;".toList = some ("not".toList, "\u00ac") := by decide +kernel

example : longest? "notin;".toList = some ("notin;".toList, "\u2209") := by decide +kernel

end LiveMarkup.Markup.Reference
