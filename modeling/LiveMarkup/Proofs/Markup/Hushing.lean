/-
What hushed tokens build.

Hushed tokens make the same trees, node by node, but for the text of a comment and one more
attribute of an element.  That attribute has no value; but it is there, and a later one of
its name, which may have a value, is not added any more.  So the elements have the values
that they would have had, or fewer, and empty ones: they are no louder (`NoLouder`), and
that is what every token keeps of two builders, one beside the other.

No slot is named by an empty value or in a comment, and so hushed tokens do not build
anything that names more slots.
-/
import LiveMarkup.Proofs.Markup.Anchor
import LiveMarkup.Proofs.Markup.Pairing
import LiveMarkup.Proofs.Part.Discovery

namespace LiveMarkup

/-! ### Nodes that are no louder -/

/-- An element with the values of another or fewer, and perhaps empty ones. -/
structure Element.NoLouder (e e' : Element) : Prop where
  tag : e.tag = e'.tag
  names : e'.attributes.names ⊆ e.attributes.names
  values : ∀ entry ∈ e.attributes.entries, entry.2 = "" ∨ entry ∈ e'.attributes.entries

/-- A node that names no other slots than another. -/
inductive Content.NoLouder : Content → Content → Prop
  | text (s : String) : NoLouder (.text s) (.text s)
  | comment (s s' : String) : NoLouder (.comment s) (.comment s')
  | element {e e' : Element} (h : e.NoLouder e') : NoLouder (.element e) (.element e')

theorem Element.NoLouder.refl (e : Element) : e.NoLouder e :=
  ⟨rfl, List.Subset.refl _, fun _ hentry => Or.inr hentry⟩

theorem Content.NoLouder.slotsRead_subset {c c' : Content} (h : c.NoLouder c') :
    c.slotsRead ⊆ c'.slotsRead := by
  cases h with
  | text | comment => exact List.Subset.refl _
  | element h =>
    intro index hindex
    obtain ⟨s, hs, hslot⟩ := List.mem_flatMap.1 hindex
    obtain ⟨entry, hentry, rfl⟩ := List.mem_map.1 hs
    rcases h.values entry hentry with hempty | hmem
    · have hnone : Marker.replaced "" = [] := by decide +kernel
      rw [hempty, hnone] at hslot
      cases hslot
    · exact List.mem_flatMap.2 ⟨entry.2, List.mem_map_of_mem hmem, hslot⟩

namespace Markup

variable {e e' : Element}

theorem noLouder_addAttribute (h : e.NoLouder e') (name value : String) :
    (addAttribute e name value).NoLouder (addAttribute e' name value) where
  tag := h.tag
  names _ hother :=
    OrderedMap.mem_names_insertNew.2 ((OrderedMap.mem_names_insertNew.1 hother).imp_left (h.names ·))
  values entry hentry := by
    rcases OrderedMap.mem_entries_insertNew.1 hentry with hold | ⟨hname, rfl⟩
    · exact (h.values entry hold).imp_right fun hmem =>
        OrderedMap.mem_entries_insertNew.2 (Or.inl hmem)
    · exact Or.inr (OrderedMap.mem_entries_insertNew.2
        (Or.inr ⟨fun hmem => hname (h.names hmem), rfl⟩))

/-- One more attribute without a value. -/
theorem noLouder_addAttribute_empty (h : e.NoLouder e') (name : String) :
    (addAttribute e name "").NoLouder e' where
  tag := h.tag
  names _ hother := OrderedMap.mem_names_insertNew.2 (Or.inl (h.names hother))
  values entry hentry := by
    rcases OrderedMap.mem_entries_insertNew.1 hentry with hold | ⟨-, rfl⟩
    · exact h.values entry hold
    · exact Or.inl rfl

/-! ### Builders that are no louder -/

/-- A start tag that is being read, whose element is no louder. -/
structure PendingTag.NoLouder (t t' : PendingTag) : Prop where
  element : t.element.NoLouder t'.element
  waiting : t.waiting = t'.waiting

theorem PendingTag.NoLouder.settle {t t' : PendingTag} (h : t.NoLouder t') (value : String) :
    (t.settle value).NoLouder (t'.settle value) := by
  unfold PendingTag.settle
  rw [← h.waiting]
  cases t.waiting with
  | none => exact h
  | some name => exact ⟨noLouder_addAttribute h.element name value, rfl⟩

namespace Builder

/-- As many elements are open, and nothing is louder. -/
abbrev NoLouder : Builder → Builder → Prop := Paired Content.NoLouder PendingTag.NoLouder

variable {b b' : Builder}

theorem tag_eq_of_noLouder (h : Content.NoLouder (.element e) (.element e')) : e.tag = e'.tag := by
  cases h with
  | element h => exact h.tag

theorem NoLouder.text (h : b.NoLouder b') (s : String) :
    NoLouder (b.onChildren (appendText s)) (b'.onChildren (appendText s)) := by
  refine h.onChildren (pairs_appendText (fun c c' hc => ?_) (.text s) fun t t' ht => ?_)
  · cases hc <;> rfl
  · cases ht with
    | text => exact .text _

/-- One token. -/
theorem NoLouder.step (h : b.NoLouder b') (token : Token) :
    (b.step token).NoLouder (b'.step token) := by
  cases token with
  | startTag name => exact h.withTag (.some ⟨.refl _, rfl⟩)
  | attributeName name => exact h.mapTag fun ht => ⟨(ht.settle "").element, rfl⟩
  | attributeValue value => exact h.mapTag fun ht => ht.settle value
  | startTagEnd selfClosing =>
    exact h.completeTag selfClosing (fun ht => .element (ht.settle "").element) fun e e' he =>
      congrArg Markup.isVoid (tag_eq_of_noLouder he)
  | endTag name =>
    exact (h.withTag .none).closeThrough fun e e' he => by rw [tag_eq_of_noLouder he]
  | text s =>
    unfold Builder.step
    simp only
    split
    · exact h
    · exact h.text s
  | comment s => exact h.add (.tree (.comment s s) .nil)

theorem NoLouder.foldl (h : b.NoLouder b') (tokens : List Token) :
    (tokens.foldl Builder.step b).NoLouder (tokens.foldl Builder.step b') := by
  induction tokens generalizing b b' with
  | nil => exact h
  | cons token rest ih => exact ih (h.step token)

/-- **Hushed tokens leave a builder no louder.** -/
theorem NoLouder.hushed (h : b.NoLouder b') {ts us : List Token} (hhushed : Hushed ts us) :
    (ts.foldl Builder.step b).NoLouder (us.foldl Builder.step b') := by
  cases hhushed with
  | same => exact h.foldl _
  | comment before after s s' =>
    rw [List.foldl_append, List.foldl_append]
    exact NoLouder.foldl ((h.foldl before).add (.tree (.comment s s') .nil)) after
  | name before after name next =>
    rw [List.foldl_append, List.foldl_append]
    refine NoLouder.foldl ?_ after
    simp only [Builder.step, Option.map_map]
    exact (h.foldl before).mapTag fun ht =>
      ⟨noLouder_addAttribute_empty (ht.settle "").element name, rfl⟩

end Builder

/-- **Hushed tokens build nothing that names more slots.** -/
theorem slotsRead_subset_of_hushed {ts us : List Token} (h : Hushed ts us) :
    ∀ c ∈ (build ts).labels, ∃ c' ∈ (build us).labels, c.slotsRead ⊆ c'.slotsRead := by
  have hempty : Builder.NoLouder {} {} := .empty
  intro c hc
  obtain ⟨c', hc', hlouder⟩ := (hempty.hushed h).finish.exists_mem c hc
  exact ⟨c', hc', hlouder.slotsRead_subset⟩

end Markup

end LiveMarkup
