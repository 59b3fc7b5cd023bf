/-
Parsing behind a veil.

The trees of veiled markup are those of the markup, with the markers in them veiled: node by
node the names are the same names and the texts and values the same texts, except for that
one character of each marker (`pairs_parse`).  For names the veil makes no difference to
whether two of them are equal, nor to whether markup knows one of them; so on both sides the
same elements are void, the same end tags find their elements, and the same attributes are
there already.
-/
import LiveMarkup.Proofs.Markup.Pairing
import LiveMarkup.Proofs.Markup.Veiling

namespace LiveMarkup.Markup

open Marker

namespace Veil

variable (v : Veil)

/-- Attributes of the two runs. -/
structure AlikeEntry (entry entry' : String × String) : Prop where
  name : v.Named entry.1 entry'.1
  value : v.Woven entry.2 entry'.2

structure AlikeElement (e e' : Element) : Prop where
  tag : v.Named e.tag e'.tag
  attributes : List.Forall₂ v.AlikeEntry e.attributes.entries e'.attributes.entries

/-- Nodes of the two runs. -/
inductive AlikeContent : Content → Content → Prop
  | text {s s' : String} (h : v.Woven s s') : AlikeContent (.text s) (.text s')
  | comment (s s' : String) : AlikeContent (.comment s) (.comment s')
  | element {e e' : Element} (h : v.AlikeElement e e') : AlikeContent (.element e) (.element e')

/-- Start tags of the two runs, as far as they were read. -/
structure AlikePending (t t' : PendingTag) : Prop where
  element : v.AlikeElement t.element t'.element
  waiting : Option.Rel v.Named t.waiting t'.waiting

end Veil

variable {v : Veil} {e e' : Element} {name name' value value' s s' : String} {t t' : PendingTag}
  {b b' : Builder} {ts ts' : List Token}

namespace Veil

/-! ### Names -/

theorem Named.isVoid_eq (h : v.Named name name') : isVoid name = isVoid name' := by
  have hnone : ∀ tag : String, '!' ∈ tag.toList → isVoid tag = false := by
    intro tag hmem
    have hlower : '!' ∈ tag.toLower.toList := by
      rw [String.toLower, String.toList_map]
      exact List.mem_map_of_mem hmem
    have hvoid : ∀ tag ∈ voidTags, '!' ∉ tag.toList := by decide +kernel
    rw [Bool.eq_false_iff]
    intro hcontains
    exact hvoid _ (List.contains_iff_mem.1 hcontains) hlower
  rcases h.eq_or_mem with rfl | ⟨hmem, hmem'⟩
  · rfl
  · rw [hnone _ hmem, hnone _ hmem']

theorem AlikeContent.isText_eq {c c' : Content} (h : v.AlikeContent c c') :
    c.isText = c'.isText := by
  cases h <;> rfl

theorem alikeElement_of_content (h : v.AlikeContent (.element e) (.element e')) :
    v.AlikeElement e e' := by
  cases h with
  | element h => exact h

theorem exists_alikeEntry {entries entries' : List (String × String)}
    (h : List.Forall₂ v.AlikeEntry entries entries') :
    ∀ entry' ∈ entries', ∃ entry ∈ entries, v.AlikeEntry entry entry' := by
  induction h with
  | nil => exact nofun
  | @cons entry entry' _ _ hentry _ ih =>
    intro other hother
    rcases List.mem_cons.1 hother with rfl | hrest
    · exact ⟨entry, List.mem_cons_self, hentry⟩
    · obtain ⟨found, hfound, halike⟩ := ih other hrest
      exact ⟨found, List.mem_cons_of_mem entry hfound, halike⟩

theorem mem_names_iff {entries entries' : List (String × String)}
    (h : List.Forall₂ v.AlikeEntry entries entries') (hname : v.Named name name') :
    name ∈ entries.map Prod.fst ↔ name' ∈ entries'.map Prod.fst := by
  induction h with
  | nil => exact iff_of_false List.not_mem_nil List.not_mem_nil
  | cons hentry _ ih =>
    rw [List.map_cons, List.map_cons, List.mem_cons, List.mem_cons, ih, hname.eq_iff hentry.name]

theorem AlikeElement.addAttribute (h : v.AlikeElement e e') (hname : v.Named name name')
    (hvalue : v.Woven value value') :
    v.AlikeElement (addAttribute e name value) (addAttribute e' name' value') := by
  by_cases hmem : name ∈ e.attributes.names
  · have hmem' : name' ∈ e'.attributes.names := (mem_names_iff h.attributes hname).1 hmem
    rw [addAttribute_of_mem hmem, addAttribute_of_mem hmem']
    exact h
  · have hmem' : name' ∉ e'.attributes.names := fun hmem' =>
      hmem ((mem_names_iff h.attributes hname).2 hmem')
    rw [addAttribute_of_not_mem hmem, addAttribute_of_not_mem hmem']
    exact ⟨h.tag, List.rel_append h.attributes (.cons ⟨hname, hvalue⟩ .nil)⟩

theorem AlikePending.settle (h : v.AlikePending t t') (hvalue : v.Woven value value') :
    v.AlikePending (t.settle value) (t'.settle value') := by
  obtain ⟨e, waiting⟩ := t
  obtain ⟨e', waiting'⟩ := t'
  obtain ⟨helement, hwaiting⟩ := h
  cases hwaiting with
  | none => exact ⟨helement, .none⟩
  | some hname => exact ⟨helement.addAttribute hname hvalue, .none⟩

/-! ### Builders -/

/-- As many elements are open, and all that is there is alike. -/
abbrev AlikeBuilder (v : Veil) : Builder → Builder → Prop :=
  Builder.Paired v.AlikeContent v.AlikePending

theorem alikeBuilder_text (h : v.AlikeBuilder b b') (hs : v.Woven s s')
    (happend : ∀ t t', v.Woven t t' → v.Woven (t ++ s) (t' ++ s')) (hempty : s = "" ↔ s' = "") :
    v.AlikeBuilder (b.step (.text s)) (b'.step (.text s')) := by
  by_cases hnil : s = ""
  · rw [hnil, hempty.1 hnil]
    exact h
  · rw [Builder.step_text hnil, Builder.step_text fun hnil' => hnil (hempty.2 hnil')]
    refine h.onChildren (pairs_appendText (fun c c' => AlikeContent.isText_eq) (.text hs)
      fun t t' ht => ?_)
    cases ht with
    | text ht => exact .text (happend t t' ht)

/-- One token. -/
theorem alikeBuilder_step (h : v.AlikeBuilder b b') {token token' : Token}
    (htoken : v.AlikeToken token token') : v.AlikeBuilder (b.step token) (b'.step token') := by
  have hnothing := Woven.refl (v := v) ""
  cases htoken with
  | startTag htag => exact h.withTag (.some ⟨⟨htag, .nil⟩, .none⟩)
  | attributeName hname => exact h.mapTag fun ht => ⟨(ht.settle hnothing).element, .some hname⟩
  | attributeValue hvalue => exact h.mapTag fun ht => ht.settle hvalue
  | startTagEnd selfClosing =>
    exact h.completeTag selfClosing (fun ht => .element (ht.settle hnothing).element) fun e e' he =>
      (alikeElement_of_content he).tag.isVoid_eq
  | endTag htag =>
    refine (h.withTag .none).closeThrough fun e e' he => ?_
    rw [Bool.eq_iff_iff, beq_iff_eq, beq_iff_eq]
    exact (alikeElement_of_content he).tag.eq_iff htag
  | text s => exact alikeBuilder_text h (.refl s) (fun t t' ht => ht.append s) Iff.rfl
  | comment s s' => exact h.add (.tree (.comment s s') .nil)

theorem foldl_textTokens (b : Builder) (cs : List Char) :
    (cs.map textToken).foldl Builder.step b = b.step (.text (String.ofList cs)) := by
  induction cs generalizing b with
  | nil => exact b.step_noText.symm
  | cons c cs ih =>
    rw [List.map_cons, List.foldl_cons, ih, textToken, Builder.step_text_text, String.ofList_cons]

theorem alikeBuilder_foldl (h : v.AlikeBuilder b b') (hts : v.AlikeTokens ts ts') :
    v.AlikeBuilder (ts.foldl Builder.step b) (ts'.foldl Builder.step b') := by
  induction hts generalizing b b' with
  | nil => exact h
  | cons htoken _ ih => exact ih (alikeBuilder_step h htoken)
  | @mark index ts ts' hindex _ ih =>
    rw [List.foldl_append, List.foldl_append, foldl_textTokens, foldl_textTokens]
    have hmark : v.Woven (v.mark index) (encode index) := by
      simpa using (Woven.refl "").mark hindex
    refine ih (alikeBuilder_text h hmark (fun t t' ht => ht.mark hindex) ?_)
    simp [markChars, encodeChars, opening]

/-- **The trees of veiled markup are those of the markup, with its markers veiled.** -/
theorem pairs_parse {pieces : List (String × Nat)} {last : String}
    (hpieces : ∀ piece ∈ pieces, v.Free piece.1.toList ∧ piece.2 < v.slots)
    (hlast : v.Free last.toList) :
    Forest.Pairs v.AlikeContent (parse (weave v.mark pieces last))
      (parse (weave encode pieces last)) :=
  (alikeBuilder_foldl .empty (alikeTokens_weave hpieces hlast)).finish

end Veil

end LiveMarkup.Markup
