/-
Markers that no template has written.

A template has no say in where its slots end up, but its markup could hold marker-shaped tokens
of its own.  It is not enough that its strings have no opening delimiter in them.  A parser
decodes character references, drops end tags and joins the texts on their two sides, and in what
it comes up with there may be a token that no string holds.

What the parser comes up with can be told by veiling the markers that compiling wrote
(`veiled`).  If there are no tokens in the texts and values then, there are only those markers
when they are not veiled, and no render stops at a marker (`own_markers_of_veiled`).
-/
import LiveMarkup.Proofs.Markup.Unveiling
import LiveMarkup.Proofs.Template.BadMarkers
import LiveMarkup.Proofs.Template.Updating

namespace LiveMarkup

variable {L H : Type}

namespace Template

open Marker Markup

variable {z c : Char} {strings : List String} {values : List (Value H)}

/-! ### The veiled markup of a template -/

/-- The markup of a template, with `z` in the place of the brace that opens a marker. -/
def veiled (z : Char) (strings : List String) (values : List (Value H)) : String :=
  substitute (annotate strings values) fun index => String.ofList (markChars z index)

/-- What stands for the brace in the markers of a template. -/
def veil (hz : isInert z = true) (strings : List String) (values : List (Value H)) : Veil :=
  ⟨z, min strings.length values.length, hz⟩

theorem mem_mark {index : Nat} {x : Value H} (h : c ∈ (mark index x).toList) :
    c = '\x7b' ∨ isInert c = false := by
  have hfixed : ∀ cs : List Char, cs.all (fun c => c == '\x7b' || !isInert c) = true →
      c ∈ cs → c = '\x7b' ∨ isInert c = false := by
    intro cs hall hc
    simpa using List.all_eq_true.1 hall c hc
  have hencode : c ∈ (encode index).toList → c = '\x7b' ∨ isInert c = false := by
    intro hc
    simp only [encode, encodeChars, String.toList_ofList, List.mem_append] at hc
    rcases hc with (hc | hc) | hc
    · exact hfixed opening rfl hc
    · have hdigit := Nat.isDigit_of_mem_toDigits (by decide) (by decide) hc
      refine Or.inr ?_
      simp [isInert, Char.isAlphanum, hdigit]
    · exact hfixed closing rfl hc
  unfold mark at h
  split at h
  · simp only [encodeAnchor, String.toList_append, List.mem_append] at h
    rcases h with (h | h) | h
    · exact hfixed _ rfl h
    · exact hencode h
    · exact hfixed _ rfl h
  · exact hencode h

theorem mem_annotateFrom {index : Nat} (h : c ∈ (annotateFrom index strings values).toList) :
    (∃ s ∈ strings, c ∈ s.toList) ∨ c = '\x7b' ∨ isInert c = false := by
  induction strings generalizing index values with
  | nil => cases h
  | cons s rest ih =>
    have hlater : ∀ {index values}, c ∈ (annotateFrom index rest values).toList →
        (∃ r ∈ s :: rest, c ∈ r.toList) ∨ c = '\x7b' ∨ isInert c = false := fun h =>
      (ih h).imp_left fun ⟨r, hr, hc⟩ => ⟨r, List.mem_cons_of_mem s hr, hc⟩
    cases values with
    | nil =>
      rw [annotateFrom, String.toList_append, List.mem_append] at h
      rcases h with h | h
      · exact Or.inl ⟨s, List.mem_cons_self, h⟩
      · exact hlater h
    | cons x values =>
      rw [annotateFrom, String.toList_append, String.toList_append, List.mem_append,
        List.mem_append] at h
      rcases h with (h | h) | h
      · exact Or.inl ⟨s, List.mem_cons_self, h⟩
      · exact Or.inr (mem_mark h)
      · exact hlater h

theorem not_mem_weave_iff {mark : Nat → String} {pieces : List (String × Nat)} {last : String} :
    c ∉ (weave mark pieces last).toList ↔
      (∀ piece ∈ pieces, c ∉ piece.1.toList ∧ c ∉ (mark piece.2).toList) ∧ c ∉ last.toList := by
  induction pieces with
  | nil => exact ⟨fun h => ⟨nofun, h⟩, fun h => h.2⟩
  | cons piece rest ih =>
    rw [weave_cons, String.toList_append, String.toList_append, List.mem_append, List.mem_append,
      not_or, not_or, ih, List.forall_mem_cons, and_assoc, and_assoc]

/-- **The trees of the markup are those of the veiled markup, unveiled.** -/
theorem pairs_parse_annotate (hz : isInert z = true) (hbrace : z ≠ '\x7b')
    (hstrings : ∀ s ∈ strings, Clear s ∧ z ∉ s.toList)
    (hrest : Clear (String.join (strings.drop values.length)))
    (hsize : min strings.length values.length ≤ indexLimit) :
    Forest.Pairs (veil hz strings values).AlikeContent (parse (veiled z strings values))
      (parse (annotate strings values)) := by
  obtain ⟨pieces, tail, htail, hclear, hindices, heq⟩ :=
    exists_weave_annotateFrom 0 (Or.inl rfl) (fun s hs => (hstrings s hs).1) values
  rw [String.empty_append] at heq
  have hlast : Clear (tail ++ String.join (strings.drop values.length)) := by
    have hbetween := clear_between htail hrest (.null : Value H)
    have hfore : fore (.null : Value H) = "" := rfl
    rwa [hfore, String.append_empty] at hbetween
  have hbelow : ∀ piece ∈ pieces, piece.2 < min strings.length values.length := by
    intro piece hpiece
    have hmem := hindices ▸ List.mem_map_of_mem (f := Prod.snd) hpiece
    have hrange := List.mem_range'_1.1 hmem
    omega
  have hout :
      z ∉ (weave encode pieces (tail ++ String.join (strings.drop values.length))).toList := by
    rw [← heq]
    intro hmem
    rcases mem_annotateFrom hmem with ⟨s, hs, hc⟩ | hopen | hinert
    · exact (hstrings s hs).2 hc
    · exact hbrace hopen
    · rw [hz] at hinert
      cases hinert
  obtain ⟨hpieces, hlastOut⟩ := not_mem_weave_iff.1 hout
  have hveiled : veiled z strings values = weave (veil hz strings values).mark pieces
      (tail ++ String.join (strings.drop values.length)) := by
    unfold veiled annotate
    rw [heq, substitute_weave hclear
      (fun piece hpiece => Nat.lt_of_lt_of_le (hbelow piece hpiece) hsize) hlast]
    rfl
  rw [hveiled, annotate, heq]
  exact Veil.pairs_parse
    (fun piece hpiece =>
      ⟨⟨hclear piece hpiece, (hpieces piece hpiece).1⟩, hbelow piece hpiece⟩)
    ⟨hlast, hlastOut⟩

/-! ### Tokens of the markup -/

theorem not_isMarker_of_append {s s' : String} (h : isMarker (s ++ s') = false) :
    isMarker s' = false := by
  rw [← Bool.not_eq_true, isMarker_iff] at h ⊢
  rintro ⟨before, body, after, heq⟩
  exact h ⟨s.toList ++ before, body, after, by rw [String.toList_append, heq, List.append_assoc]⟩

/-- A veiled marker closes what is opened before it. -/
theorem clear_of_not_isMarker (v : Veil) {s rest : String} {index : Nat}
    (h : isMarker (s ++ (v.mark index ++ rest)) = false) : Clear s := by
  rintro ⟨before, after, heq⟩
  rw [← Bool.not_eq_true, isMarker_iff] at h
  refine h ⟨before, after ++ (['-', '-', '-', '!', v.brace] ++ Nat.toDigits 10 index),
    rest.toList, ?_⟩
  rw [String.toList_append, String.toList_append, v.toList_mark, ← heq]
  simp [markChars]

theorem clear_of_quiet {v : Veil} {pieces : List (String × Nat)} {last : String}
    (h : isMarker (weave v.mark pieces last) = false) :
    (∀ piece ∈ pieces, Clear piece.1) ∧ isMarker last = false := by
  induction pieces with
  | nil => exact ⟨nofun, h⟩
  | cons piece rest ih =>
    rw [weave_cons] at h
    obtain ⟨hrest, hlast⟩ := ih (not_isMarker_of_append (not_isMarker_of_append h))
    exact ⟨List.forall_mem_cons.2 ⟨clear_of_not_isMarker v h, hrest⟩, hlast⟩

/-- **If a text has no tokens behind the veil, it has only markers.** -/
theorem body_of_woven {v : Veil} {s s' : String} (h : v.Woven s s') (hquiet : isMarker s = false) :
    ∀ found ∈ scan s', ∃ index < v.slots, found.body = Nat.toDigits 10 index := by
  obtain ⟨pieces, last, hslots, rfl, rfl⟩ := h
  obtain ⟨hclear, hlast⟩ := clear_of_quiet hquiet
  intro found hfound
  have hbody := List.mem_map_of_mem (f := Found.body) hfound
  rw [map_body_scan, bodies_weave hclear, (isMarker_eq_false_iff last).1 hlast,
    List.append_nil] at hbody
  obtain ⟨piece, hpiece, heq⟩ := List.mem_map.1 hbody
  exact ⟨piece.2, hslots piece hpiece, heq.symm⟩

/-- The texts of a node and of the veiled one come in pairs. -/
theorem exists_woven {v : Veil} {a b : Content} (h : v.AlikeContent a b) :
    ∀ s' ∈ b.markedTexts, ∃ s ∈ a.markedTexts, v.Woven s s' := by
  cases h with
  | text h => exact fun s' hs' => ⟨_, List.mem_singleton_self _, List.mem_singleton.1 hs' ▸ h⟩
  | comment => exact nofun
  | element h =>
    intro s' hs'
    obtain ⟨entry', hentry', rfl⟩ := List.mem_map.1 hs'
    obtain ⟨entry, hentry, halike⟩ := Veil.exists_alikeEntry h.attributes entry' hentry'
    exact ⟨entry.2, List.mem_map_of_mem hentry, halike.value⟩

/-! ### Renders that do not stop at a marker -/

/-- What a template goes on with when it is rendered is what was parsed for it: it has no
fragment yet, or one that is as it was made. -/
inductive Pristine (d : Document L) (t : Template L H) : Prop
  | unmade (ht : t.Unmade)
  | made {markup : String} {x : NodeId} {kids : Forest NodeId} (hslots : t.slots = t.values.length)
    (hstage : t.stage = .materialized markup x) (hbelow : d.forest.below? x = some kids)
    (hparsed : kids.map d.contentAt = parse t.source)
  | rendered (ht : t.isRendered = true)

variable {d d' : Document L} {t : Template L H}

/-- A template that was just made into a fragment. -/
theorem Pristine.materialize (hd : d.WellFormed) (ht : t.Unmade) :
    Pristine (t.materialize d).1.2 (t.materialize d).1.1 := by
  rw [ht.materialize_eq d]
  exact .made ht.slots rfl (Document.below?_nextId_parseFragment hd t.source)
    (Document.map_contentAt_parsed d t.source)

/-- A fragment is as it was made as long as nothing is done to it. -/
theorem Pristine.untouched (hd : d.WellFormed) (h : Pristine d t)
    (hsame : ∀ markup x, t.stage = .materialized markup x → d.Untouched [x] d') :
    Pristine d' t := by
  cases h with
  | unmade ht => exact .unmade ht
  | rendered ht => exact .rendered ht
  | @made markup x kids hslots hstage hbelow hparsed =>
    obtain ⟨htree, hcontent⟩ := hsame markup x hstage x List.mem_cons_self
    have hbelow' : d'.forest.below? x = some kids := by
      unfold Document.subtree? at htree
      rw [hbelow, Option.map_some, Option.map_eq_some_iff] at htree
      obtain ⟨kids', hkids', heq⟩ := htree
      rw [hkids', (Forest.node.inj heq).2.1]
    refine .made hslots hstage hbelow' (Eq.trans (Forest.map_congr fun id hid => ?_) hparsed)
    have hdescendant : id ∈ d.descendants x := by
      unfold Document.descendants Document.below
      rw [hbelow]
      exact List.mem_cons_of_mem x hid
    obtain ⟨r, hr⟩ := hd.exists_record?
      (Document.contains_iff.2 (Forest.mem_labels_of_below? hbelow hid))
    have hheld : d.content? id = some r.content := by
      unfold Document.content?
      rw [hr]
      rfl
    rw [Document.contentAt_of_content? hheld,
      Document.contentAt_of_content? ((hcontent id hdescendant).trans hheld)]

theorem exists_document_of_pristine (hd : d.WellFormed) (ht : Pristine d t)
    (hmarkers : ∀ c ∈ (parse t.source).labels, c.MarkersBelow t.values.length)
    {context : Context L H} {mount : Option NodeId} {e : TemplateError}
    (hstop : (t.render d context mount).stopped = some e) :
    e = .alreadyRendered ∨ ∃ e', e = .document e' := by
  cases ht with
  | unmade ht =>
    rw [← ht.slots] at hmarkers
    exact Or.inr (exists_document_of_fragment ht.isRendered (ht.materialize_eq d)
      (hd.parseFragment t.source) (Document.below?_nextId_parseFragment hd t.source)
      (markersBelow_parsed hmarkers d) hstop)
  | @made markup x kids hslots hstage hbelow hparsed =>
    have hmade : t.materialize d = ((t, d), .ok x) := by
      unfold materialize compile markup?
      simp only [hstage, Stage.markup?]
    have hrendered : t.isRendered = false := by
      unfold isRendered rendered?
      rw [hstage]
      rfl
    refine Or.inr (exists_document_of_fragment hrendered hmade hd hbelow (fun id hid => ?_) hstop)
    rw [hslots]
    refine hmarkers _ ?_
    rw [← hparsed, Forest.labels_map]
    exact List.mem_map_of_mem hid
  | rendered ht =>
    unfold render at hstop
    rw [if_pos ht] at hstop
    exact Or.inl (Option.some.inj hstop).symm

/-- **A template that makes no markers of its own has no bad ones.**  If there are no tokens in the
texts and values that the parser makes of the veiled markup, then all tokens of the markup
itself are markers that compiling wrote, and no render stops at a marker. -/
theorem own_markers_of_veiled {d : Document L} (hd : d.Reachable) {t : Template L H}
    (ht : Pristine d t) {z : Char} (hz : isInert z = true) (hbrace : z ≠ '\x7b')
    (hstrings : ∀ s ∈ t.strings, Clear s ∧ z ∉ s.toList)
    (hrest : Clear (String.join (t.strings.drop t.values.length)))
    (hsize : min t.strings.length t.values.length ≤ indexLimit)
    (hquiet : ∀ c ∈ (parse (veiled z t.strings t.values)).labels, ∀ s ∈ c.markedTexts,
      isMarker s = false) :
    (∀ c ∈ (parse t.source).labels, ∀ s ∈ c.markedTexts, ∀ found ∈ scan s,
      ∃ index < min t.strings.length t.values.length, found.body = Nat.toDigits 10 index) ∧
    ∀ (context : Context L H) (mount : Option NodeId) (e : TemplateError),
      (t.render d context mount).stopped = some e → e.isBadMarker = false := by
  have hpairs := pairs_parse_annotate hz hbrace hstrings hrest hsize
  have htokens : ∀ c ∈ (parse t.source).labels, ∀ s ∈ c.markedTexts, ∀ found ∈ scan s,
      ∃ index < min t.strings.length t.values.length, found.body = Nat.toDigits 10 index := by
    intro c hc s hs found hfound
    obtain ⟨c', hc', halike⟩ := hpairs.flip.exists_mem c hc
    obtain ⟨s', hs', hwoven⟩ := exists_woven halike s hs
    exact body_of_woven hwoven (hquiet c' hc' s' hs') found hfound
  refine ⟨htokens, fun context mount e hstop => ?_⟩
  have hmarkers : ∀ c ∈ (parse t.source).labels, c.MarkersBelow t.values.length := by
    intro c hc s hs found hfound
    obtain ⟨index, hindex, hbody⟩ := htokens c hc s hs found hfound
    refine ⟨index, ?_, Nat.lt_of_lt_of_le hindex (Nat.min_le_right _ _)⟩
    rw [Found.index?, hbody, index?_toDigits (Nat.lt_of_lt_of_le hindex hsize)]
  rcases exists_document_of_pristine hd.wellFormed ht hmarkers hstop with rfl | ⟨e', rfl⟩
  · rfl
  · rfl

/-- A greeting whose strings look like delimiters beside the marker of its name. -/
def sampleDashed : Template Nat Nat :=
  ofStrings ["<p title=\"---!", "\">---!", "\x7d!---</p>"] [.text "Ada", .undefined]

/-- The parser keeps them apart, so it can be made into a fragment and rendered. -/
theorem own_markers_of_veiled_sampleDashed :
    (∀ c ∈ (parse sampleDashed.source).labels, ∀ s ∈ c.markedTexts, ∀ found ∈ scan s,
      ∃ index < 2, found.body = Nat.toDigits 10 index) ∧
    ∀ mount e, ((sampleDashed.materialize samplePage).1.1.render
      (sampleDashed.materialize samplePage).1.2 ⟨⟨0⟩, id⟩ mount).stopped = some e →
        e.isBadMarker = false := by
  have hunmade : sampleDashed.Unmade := unmade_ofStrings _ _
  have hmade := hunmade.materialize_eq samplePage
  obtain ⟨htokens, hrender⟩ := own_markers_of_veiled (z := '*')
    (reachable_samplePage.operations (Document.operations_materialize samplePage sampleDashed))
    (Pristine.materialize reachable_samplePage.wellFormed hunmade) rfl (by decide)
    (by rw [hmade]; decide +kernel) (by rw [hmade]; decide +kernel) (by rw [hmade]; decide +kernel)
    (by rw [hmade]; decide +kernel)
  rw [hmade] at htokens
  exact ⟨htokens, hrender ⟨⟨0⟩, id⟩⟩

/-- A greeting without slots. -/
def samplePlain : Template Nat Nat := ofStrings ["<p>Hello</p>"] []

/-- What a parser decodes, joins or gets in one piece can be a token that no string holds, and
so can what is written into a fragment before it is rendered. -/
theorem stopped_at_own_marker :
    (∀ sample ∈ [(["<p>---!&#123;x&#125;!---</p>"],
          TemplateError.malformedMarker "---!\x7bx\x7d!---"),
        (["<p>---!</i>\x7b7\x7d</i>!---</p>"], .slotOutOfRange 7 0),
        (["---!", "\x7bx\x7d", "!---"], .malformedMarker "---!\x7bx\x7d!---")],
      (∀ s ∈ sample.1, ¬ opening <:+: s.toList ∧ ¬ closing <:+: s.toList) ∧
        ((ofStrings sample.1 [] : Template Nat Nat).render samplePage ⟨⟨0⟩, id⟩ none).stopped =
          some sample.2) ∧
      ((samplePlain.materialize samplePage).1.2.setText ⟨3⟩ "---!\x7bx\x7d!---").toOption.map
          (fun d => ((samplePlain.materialize samplePage).1.1.render d ⟨⟨0⟩, id⟩ none).stopped) =
        some (some (.malformedMarker "---!\x7bx\x7d!---")) := by
  decide +kernel

end Template

end LiveMarkup
