/-
Slots that were undefined at first.

A slot without a value is marked by a comment, and no part comes of a comment.  So the slot
stays silent: whatever values it is given later, the document goes the way it would have
gone without them.

That is how it is meant, but the comment is put into the markup as text, and it is only a
comment where markup is read.  Between quotes, and in elements whose content is no markup,
it is as good as any other marker.  `silent_of_undefined` asks that the slot stands
elsewhere, and that the static strings do not spell a marker of it.
-/
import LiveMarkup.Proofs.Markup.Hushing
import LiveMarkup.Proofs.Part.Dependence
import LiveMarkup.Proofs.Template.BadMarkers
import LiveMarkup.Proofs.Template.Conversion

namespace LiveMarkup

variable {L H : Type}

/-! ### The comment of a slot -/

namespace Marker

theorem toList_encodeAnchor (index : Nat) :
    (encodeAnchor index).toList = Markup.anchorChars (encode index) := by
  simp [encodeAnchor, Markup.anchorChars, Markup.anchorOpening, Markup.anchorClosing]

theorem anchorName_encode (index : Nat) : Markup.AnchorName (encode index) := by
  have hchars : ∀ c ∈ (encode index).toList, Markup.isNameChar c = true ∧ c ≠ '=' := by
    intro c hc
    have hfixed : ∀ c ∈ opening ++ closing, Markup.isNameChar c = true ∧ c ≠ '=' := by
      simp [opening, closing, Markup.isNameChar, Markup.isSpace]
    simp only [encode, encodeChars, String.toList_ofList, List.mem_append] at hc
    rcases hc with (hc | hc) | hc
    · exact hfixed c (List.mem_append_left _ hc)
    · have hdigit := Nat.isDigit_of_mem_toDigits (by decide) (by decide) hc
      have hupper : c.isUpper = false := by grind [Char.isDigit, Char.isUpper]
      refine ⟨Markup.isNameChar_of_kind hdigit hupper (by decide), ?_⟩
      rintro rfl
      exact absurd hdigit (by decide)
    · exact hfixed c (List.mem_append_right _ hc)
  refine ⟨?_, fun c hc => (hchars c hc).1, fun hc => (hchars '=' hc).2 rfl⟩
  intro hempty
  have hnil : (encode index).toList = [] := by rw [hempty]; rfl
  simp [encode, encodeChars, opening] at hnil

end Marker

namespace Template

variable {t : Template L H} {d : Document L} {i : Nat}

/-- The markup up to the mark of a slot. -/
def before (t : Template L H) (i : Nat) : String :=
  annotateFrom 0 (t.strings.take (i + 1)) (t.values.take i)

/-- The markup behind the mark of a slot. -/
def behind (t : Template L H) (i : Nat) : String :=
  annotateFrom (i + 1) (t.strings.drop (i + 1)) (t.values.drop (i + 1))

/-- The markup with an empty comment for a slot. -/
def sourceWithout (t : Template L H) (i : Nat) : String := t.before i ++ "<!--  -->" ++ t.behind i

/-- Where the lexer stands when it comes to the mark of a slot. -/
def place (t : Template L H) (i : Nat) : Markup.State :=
  ((Markup.State.text .data).run (Markup.normalizeLines (t.before i).toList)).1

theorem annotateFrom_eq (index i : Nat) {strings : List String} {values : List (Value H)}
    {v : Value H} (hi : i < strings.length) (hv : values[i]? = some v) :
    annotateFrom index strings values =
      annotateFrom index (strings.take (i + 1)) (values.take i) ++ mark (index + i) v ++
        annotateFrom (index + i + 1) (strings.drop (i + 1)) (values.drop (i + 1)) := by
  induction i generalizing index strings values with
  | zero =>
    obtain ⟨s, rest, rfl⟩ := List.exists_cons_of_length_pos hi
    obtain ⟨values', rfl⟩ := List.head?_eq_some_iff.1 (List.head?_eq_getElem? ▸ hv)
    simp [annotateFrom, String.append_assoc]
  | succ i ih =>
    obtain ⟨s, rest, rfl⟩ := List.exists_cons_of_length_pos (Nat.zero_lt_of_lt hi)
    cases values with
    | nil => cases hv
    | cons w values' =>
      have hrest := ih (index + 1) (Nat.lt_of_succ_lt_succ hi) hv
      have hindex : index + 1 + i = index + (i + 1) := by omega
      rw [hindex] at hrest
      simp only [annotateFrom, List.take_succ_cons, List.drop_succ_cons, hrest, String.append_assoc]

/-- The comment of a slot where markup is read adds nothing that names a slot. -/
theorem exists_slotsRead_superset (hi : i < t.strings.length)
    (hundefined : t.values[i]? = some .undefined) (hplace : (t.place i).verbatim = false) :
    ∀ c ∈ (Markup.parse t.source).labels,
      ∃ c' ∈ (Markup.parse (t.sourceWithout i)).labels, c.slotsRead ⊆ c'.slotsRead := by
  have hsource : t.source.toList = (t.before i).toList ++
      Markup.anchorChars (Marker.encode i) ++ (t.behind i).toList := by
    have hall := annotateFrom_eq 0 i hi hundefined
    rw [Nat.zero_add] at hall
    rw [← Marker.toList_encodeAnchor, ← String.toList_append, ← String.toList_append]
    exact congrArg String.toList hall
  have hwithout : (t.sourceWithout i).toList = (t.before i).toList ++
      Markup.anchorChars "" ++ (t.behind i).toList := by
    simp [sourceWithout, Markup.anchorChars, Markup.anchorOpening, Markup.anchorClosing]
  unfold Markup.parse
  rw [hsource, hwithout]
  exact Markup.slotsRead_subset_of_hushed
    (Markup.hushed_tokens (Marker.anchorName_encode i) _ _ hplace)

/-! ### What a render finds -/

/-- The markup is that of the strings and values, and the fragment, if there is one, is as it was
parsed. -/
structure Intact (t : Template L H) (d : Document L) : Prop where
  markup : t.compile.2 = t.source
  fragment : ∀ markup x, t.stage = .materialized markup x →
    ∃ kids, d.forest.below? x = some kids ∧ kids.map d.contentAt = Markup.parse t.source

theorem intact_ofStrings (strings : List String) (values : List (Value H)) (d : Document L) :
    (ofStrings strings values : Template L H).Intact d :=
  ⟨rfl, nofun⟩

theorem Intact.map_contentAt (ht : t.Intact d) (hd : d.WellFormed) {t₁ : Template L H}
    {d₁ : Document L} {x : NodeId} {kids : Forest NodeId}
    (hmade : t.materialize d = ((t₁, d₁), .ok x)) (hk : d₁.forest.below? x = some kids) :
    kids.map d₁.contentAt = Markup.parse t.source := by
  have hunbuilt : t.Unbuilt → kids.map d₁.contentAt = Markup.parse t.source := by
    intro hunbuilt
    rw [hunbuilt.materialize_eq d, ht.markup] at hmade
    cases hmade
    rw [Document.below?_nextId_parseFragment hd, Option.some.injEq] at hk
    rw [← hk]
    exact Document.map_contentAt_parsed d t.source
  cases hstage : t.stage with
  | uncompiled => exact hunbuilt (Or.inl hstage)
  | compiled markup => exact hunbuilt (Or.inr ⟨markup, hstage⟩)
  | materialized markup x =>
    obtain ⟨kids', hk', hkids⟩ := ht.fragment markup x hstage
    unfold materialize compile markup? at hmade
    simp only [hstage, Stage.markup?] at hmade
    cases hmade
    rw [hk, Option.some.injEq] at hk'
    rw [hk']
    exact hkids
  | rendered markup tree =>
    unfold materialize compile markup? at hmade
    simp only [hstage, Stage.markup?] at hmade
    cases hmade

/-- The parts that a render finds read what the markup names. -/
theorem Intact.exists_content (ht : t.Intact d) (hd : d.WellFormed) {context : Context L H}
    {mount : Option NodeId} {s : Template L H × Document L}
    (hrender : t.render d context mount = .done s) {parts : List Part}
    (hfound : t.discovered d = .ok parts) {p : Part} (hp : p ∈ parts) :
    ∃ c ∈ (Markup.parse t.source).labels, p.indices = c.slotsRead := by
  obtain ⟨t₁, d₁, x, kids, hmade, hd₁, hk, -⟩ := exists_of_render hd hrender
  unfold discovered at hfound
  rw [hmade] at hfound
  obtain ⟨-, rfl⟩ := (Document.discover_eq_ok_iff hd₁ hk t₁.slots parts).1 hfound
  obtain ⟨id, hid, hpart⟩ := Document.mem_partsOf.1 hp
  refine ⟨d₁.contentAt id, ?_, Part.indices_of? hpart⟩
  rw [← ht.map_contentAt hd hmade hk, Forest.labels_map]
  exact List.mem_map_of_mem hid

/-! ### Two runs -/

/-- Nothing of a rendered tree reads slot `i`. -/
structure Deaf (i : Nat) (tree : Rendered L H) : Prop where
  proper : ∀ p ∈ tree.parts, p.Proper
  parts : ∀ p ∈ tree.parts, i ∉ p.indices
  registry : tree.registry.partsFor i = []

theorem deaf_ofParts {parts : List Part} (hproper : ∀ p ∈ parts, p.Proper)
    (hsilent : ∀ p ∈ parts, i ∉ p.indices) (mount : NodeId) (context : Context L H) :
    Deaf i ⟨parts, .ofParts parts, mount, context⟩ where
  proper := hproper
  parts := hsilent
  registry := by
    refine List.eq_nil_iff_forall_not_mem.2 fun position hposition => ?_
    obtain ⟨p, hp, hindex⟩ := (Registry.mem_partsFor_ofParts parts i position).1 hposition
    exact hsilent p (List.mem_of_getElem? hp) hindex

/-- What is left of parts reads nothing else. -/
theorem Deaf.leftOf {tree : Rendered L H} (h : Deaf i tree) {parts : List Part}
    (hleft : ∀ q ∈ parts, ∃ p ∈ tree.parts, q.LeftOf p) : Deaf i { tree with parts } where
  proper := by
    intro q hq
    obtain ⟨p, hp, hqp⟩ := hleft q hq
    exact hqp.proper (h.proper p hp)
  parts := by
    intro q hq hindex
    obtain ⟨p, hp, hqp⟩ := hleft q hq
    exact h.parts p hp (hqp.indices_subset hindex)
  registry := h.registry

/-- The same document, and templates in the same stage that do not read slot `i`; the values
they hold need not be the same. -/
structure Twins (i : Nat) (s s' : Template L H × Document L) : Prop where
  stage : s'.1.stage = s.1.stage
  document : s'.2 = s.2
  deaf : ∀ markup tree, s.1.stage = .rendered markup tree → Deaf i tree

/-- Calls that differ in the value of slot `i`, and perhaps in whether they list it. -/
inductive Call.AgreeBut (i : Nat) : Call L H → Call L H → Prop
  | update {values values' : List (Value H)}
    (hvalues : ∀ index, index ≠ i → values'[index]? = values[index]?) :
    AgreeBut i (.update values) (.update values')
  | updateSlots {values values' : List (Value H)} {changed changed' : List Nat}
    (hvalues : ∀ index, index ≠ i → values'[index]? = values[index]?)
    (hchanged : ∀ index, index ≠ i → (index ∈ changed' ↔ index ∈ changed)) :
    AgreeBut i (.updateSlots values changed) (.updateSlots values' changed')
  | elsewhere (change : Document L → Document L) :
    AgreeBut i (.elsewhere change) (.elsewhere change)

variable {s s' : Template L H × Document L}

theorem Twins.updateWith (h : Twins i s s') {chosen chosen' : Registry → Nat → Bool}
    {values values' : List (Value H)}
    (hvalues : ∀ index, index ≠ i → values'[index]? = values[index]?)
    (hchosen : ∀ registry, registry.partsFor i = [] →
      ∀ position, chosen' registry position = chosen registry position) :
    Twins i (s.1.updateWith chosen s.2 values).state (s'.1.updateWith chosen' s'.2 values').state := by
  obtain ⟨t, d⟩ := s
  obtain ⟨t', d'⟩ := s'
  have hstage' : t'.stage = t.stage := h.stage
  obtain rfl : d' = d := h.document
  cases hstage : t.stage with
  | uncompiled | compiled | materialized =>
    rw [hstage] at hstage'
    unfold Template.updateWith
    rw [hstage, hstage']
    exact h
  | rendered markup tree =>
    have hdeaf := h.deaf markup tree hstage
    have hparts : ∀ p ∈ tree.parts, p.Proper ∧ AgreeAt p.indices values values' := by
      intro p hp
      refine ⟨hdeaf.proper p hp, fun index hindex => hvalues index ?_⟩
      rintro rfl
      exact hdeaf.parts p hp hindex
    have hwritten := Part.updateChosen_congr tree.context
      (hchosen tree.registry hdeaf.registry) hparts 0 d'
    rw [updateWith_eq hstage, updateWith_eq (hstage'.trans hstage), hwritten]
    refine ⟨rfl, rfl, fun markup' tree' hafter => ?_⟩
    cases hafter
    exact hdeaf.leftOf (Part.exists_leftOf_of_mem_updateChosen tree.context values _ 0 tree.parts d')

/-- **One call.** -/
theorem Twins.step (h : Twins i s s') {call call' : Call L H} (hcall : call.AgreeBut i call') :
    Twins i (call.run s) (call'.run s') := by
  cases hcall with
  | update hvalues => exact h.updateWith hvalues fun _ _ _ => rfl
  | updateSlots hvalues hchanged =>
    exact h.updateWith hvalues fun registry hregistry => registry.concerns_congr hregistry hchanged
  | elsewhere change =>
    exact ⟨h.stage, congrArg change h.document, h.deaf⟩

theorem Twins.run (h : Twins i s s') {calls calls' : List (Call L H)}
    (hcalls : List.Forall₂ (Call.AgreeBut i) calls calls') :
    Twins i (run s calls) (run s' calls') := by
  induction hcalls generalizing s s' with
  | nil => exact h
  | cons hcall _ ih => exact ih (h.step hcall)

/-- **A slot that was undefined at first stays silent where markup is read.**  No part is found
that reads it, and whatever it is given later, alone or in several updates and among any other
changes, the document is after every call as it would have been without it. -/
theorem silent_of_undefined {d : Document L} (hd : d.Reachable) {t : Template L H}
    (ht : t.Intact d) {context : Context L H} {mount : Option NodeId}
    {s : Template L H × Document L} (hrender : t.render d context mount = .done s) {i : Nat}
    (hi : i < t.strings.length) (hundefined : t.values[i]? = some .undefined)
    (hplace : (t.place i).verbatim = false)
    (hunspelled : ∀ c ∈ (Markup.parse (t.sourceWithout i)).labels, i ∉ c.slotsRead) :
    (∃ parts, t.discovered d = .ok parts ∧ ∀ p ∈ parts, i ∉ p.indices) ∧
      (∀ p ∈ s.1.parts, i ∉ p.indices) ∧
      ∀ calls calls', List.Forall₂ (Call.AgreeBut i) calls calls' →
        ∀ n, (run s (calls'.take n)).2 = (run s (calls.take n)).2 := by
  obtain ⟨parts, hfound, hfollowing, -⟩ := following_render hd hrender
  have hsilent : ∀ p ∈ parts, i ∉ p.indices := by
    intro p hp hindex
    obtain ⟨c, hc, hindices⟩ := ht.exists_content hd.wellFormed hrender hfound hp
    obtain ⟨c', hc', hsubset⟩ := exists_slotsRead_superset hi hundefined hplace c hc
    exact hunspelled c' hc' (hsubset (hindices ▸ hindex))
  obtain ⟨markup, mount, hstage⟩ := hfollowing.rendered
  have hdeaf : Deaf i ⟨parts.map fun p => p.remaining [t.values], .ofParts parts, mount, context⟩ :=
    (deaf_ofParts hfollowing.proper hsilent mount context).leftOf
      (List.forall_mem_map.2 fun p hp => ⟨p, hp, Part.leftOf_remaining _ p⟩)
  have htwins : Twins i s s := by
    refine ⟨rfl, rfl, fun markup' tree hstage' => ?_⟩
    rw [hstage, Stage.rendered.injEq] at hstage'
    exact hstage'.2 ▸ hdeaf
  refine ⟨⟨parts, hfound, hsilent⟩, hfollowing.parts_eq ▸ hdeaf.parts,
    fun calls calls' hcalls n => ?_⟩
  exact (htwins.run (List.forall₂_take n hcalls)).document

/-- A paragraph without a text yet. -/
def sampleSilent : Template Nat Nat :=
  ofStrings ["<p>", "", "</p>"] [.undefined, .text "Ada"]

/-- The text comes, and then a handler. -/
def sampleLate : List (Call Nat Nat) :=
  [.update [.text "late", .text "Bob"], .updateSlots [.handler 7, .text "Eve"] [0, 1]]

/-- Nothing comes. -/
def sampleNever : List (Call Nat Nat) :=
  [.update [.undefined, .text "Bob"], .updateSlots [.undefined, .text "Eve"] [1]]

theorem agreeBut_sampleNever :
    List.Forall₂ (Call.AgreeBut 0) sampleNever sampleLate := by
  have hlater : ∀ (v w x : Value Nat) (index : Nat), index ≠ 0 → [v, w][index]? = [x, w][index]? := by
    intro v w x index hindex
    obtain ⟨index, rfl⟩ := Nat.exists_eq_succ_of_ne_zero hindex
    rfl
  refine .cons (.update (hlater _ _ _)) (.cons (.updateSlots (hlater _ _ _) fun index hindex => ?_) .nil)
  simp [hindex]

/-- The paragraph shows the comment that it had, and the name. -/
theorem silent_of_undefined_sampleSilent :
    ∃ s, sampleSilent.render samplePage ⟨⟨0⟩, id⟩ none = .done s ∧
      (run s sampleLate).2 = (run s sampleNever).2 ∧
      (run s sampleLate).2.outline? ⟨2⟩ = some
        (.tree (.element { tag := "p" }) (.node (.comment (" " ++ Marker.encode 0 ++ " ")) .nil
          (.tree (.text "Eve") .nil))) := by
  obtain ⟨s, hs⟩ : ∃ s, s = (sampleSilent.render samplePage ⟨⟨0⟩, id⟩ none).state := ⟨_, rfl⟩
  have hrender : sampleSilent.render samplePage ⟨⟨0⟩, id⟩ none = .done s := by
    rw [hs]
    exact Attempt.eq_done (by decide +kernel)
  have hplace : (sampleSilent.place 0).verbatim = false := by decide +kernel
  have hunspelled : ∀ c ∈ (Markup.parse (sampleSilent.sourceWithout 0)).labels,
      0 ∉ c.slotsRead := by decide +kernel
  obtain ⟨-, -, hsame⟩ := silent_of_undefined reachable_samplePage (intact_ofStrings _ _ _) hrender
    (by decide) rfl hplace hunspelled
  refine ⟨s, hrender, hsame _ _ agreeBut_sampleNever 2, ?_⟩
  rw [hs]
  decide +kernel

/-- Between quotes the comment is a marker like any other. -/
example : (ofStrings ["<p title=\"", "\"></p>"] [.undefined] : Template Nat Nat).discovered
    samplePage = .ok [.attributes ⟨⟨2⟩, ⟨[("title", ⟨Marker.encodeAnchor 0, [0], "title", false⟩)]⟩⟩] := by
  decide +kernel

end Template

end LiveMarkup
