/-
Serializing and parsing.

The markup of a fragment, parsed anywhere, gives the fragment again, up to what markup does
not show.  There are conditions: names, comments and the content of some elements have to
be such that their markup is not read as something else (`PlainTrees`), and no text may be
in an element whose content is read as it stands, since there what was escaped is not
unescaped (`outline?_reparsed`).

Trees that were parsed meet all of these but the last, so parsing, serializing and parsing
again is the same as parsing once exactly if nothing that has to be escaped stands in a
script or a style (`outline?_reparsed_parse`).
-/
import LiveMarkup.Proofs.Document.Kinship
import LiveMarkup.Proofs.Markup.Legibility

namespace LiveMarkup

open Markup

/-! ### Trees that are written without loss -/

/-- A comment that can be written as it is. -/
structure Markup.PlainComment (t : String) : Prop where
  noNull : '\x00' ∉ t.toList
  noReturn : '\r' ∉ t.toList
  first : ¬ ['>'] <+: t.toList
  dash : ¬ ['-', '>'] <+: t.toList
  dashes : ¬ ['-', '-', '>'] <:+: t.toList
  bang : ¬ ['-', '-', '!', '>'] <:+: t.toList

/-- An element, with trees below it, that can be written as it is. -/
structure Markup.PlainElement (kids : Forest Content) (e : Element) : Prop where
  tag : TagName e.tag
  noScript : e.tag ≠ "script" ∧ e.tag ≠ "style"
  names : ∀ entry ∈ e.attributes.entries, AttributeName entry.1
  values : ∀ entry ∈ e.attributes.entries, '\x00' ∉ entry.2.toList ∧ '\r' ∉ entry.2.toList
  void : e.isVoid = true → kids = .nil
  textOnly : e.tag = "textarea" ∨ e.tag = "title" →
    kids = .nil ∨ ∃ t, kids = .tree (.text t) .nil
  neighbours : kids.roots.IsChain Content.NotBothTexts

/-- A node, with trees below it, that can be written as it is. -/
def Content.Plain (kids : Forest Content) : Content → Prop
  | element e => PlainElement kids e
  | text t => t ≠ "" ∧ '\x00' ∉ t.toList ∧ '\r' ∉ t.toList
  | comment t => PlainComment t
  | fragment | shadowRoot => False

namespace Markup

variable {f kids : Forest Content} {c : Content} {e : Element} {t : String}

/-- Trees of elements, texts and comments that can be written as they are. -/
structure PlainTrees (f : Forest Content) : Prop where
  nodes : f.Every fun c kids => c.Plain kids
  neighbours : f.roots.IsChain Content.NotBothTexts

theorem PlainComment.readable (h : PlainComment t) : Readable t := by
  refine readable_of_not_ended h.noNull fun cs hcs hend => ?_
  rcases hend with rfl | rfl | ⟨before, rfl⟩ | ⟨before, rfl⟩
  · exact h.first hcs
  · exact h.dash hcs
  · refine h.dashes (List.IsInfix.trans ?_ hcs.isInfix)
    exact ⟨before, [], by simp⟩
  · refine h.bang (List.IsInfix.trans ?_ hcs.isInfix)
    exact ⟨before, [], by simp⟩

theorem PlainElement.legible (h : PlainElement kids e) : LegibleElement e :=
  ⟨h.tag, h.names, fun entry hentry => (h.values entry hentry).1⟩

theorem PlainElement.contentModel_ne_script (h : PlainElement kids e) :
    contentModel e.tag ≠ .script := by
  unfold contentModel
  rw [if_neg fun hscript => hscript.elim h.noScript.1 h.noScript.2]
  split <;> nofun

theorem escapable_of_contentModel {tag : String} (h : contentModel tag = .escapableText) :
    tag = "textarea" ∨ tag = "title" := by
  unfold contentModel at h
  split at h
  · cases h
  · split at h
    · assumption
    · cases h

theorem legible_of_plain (h : f.Every fun c kids => c.Plain kids) : Legible f := by
  induction f with
  | nil => exact legible_nil
  | node c kids rest ihKids ihRest =>
    obtain ⟨hc, hkids, hrest⟩ := h
    refine ⟨?_, ihKids hkids, ihRest hrest⟩
    cases c with
    | text t => trivial
    | comment t => exact ⟨hc.readable, hc.noReturn⟩
    | fragment | shadowRoot => exact absurd hc id
    | element e =>
      refine ⟨hc.legible, fun hmodel => ?_⟩
      cases hcontent : contentModel e.tag with
      | markup => exact absurd hcontent hmodel
      | script => exact absurd hcontent hc.contentModel_ne_script
      | escapableText =>
        -- The text is one of the trees below, so its characters are known.
        rcases hc.textOnly (escapable_of_contentModel hcontent) with rfl | ⟨t, rfl⟩
        · exact Or.inl rfl
        · obtain ⟨-, hnull, -⟩ := (Forest.every_tree.1 hkids).1
          exact Or.inr ⟨t, hnull, rfl⟩

/-- Texts and comments are leaves. -/
def HasLeaves (f : Forest Content) : Prop :=
  f.Every fun c kids => c.isContainer = false → kids = .nil

theorem PlainTrees.arranged (h : PlainTrees f) (hleaves : HasLeaves f) : Arranged f := by
  refine ⟨(h.nodes.and hleaves).imp fun c kids _ _ hc => ?_, h.neighbours⟩
  obtain ⟨hplain, hleaf⟩ := hc
  cases c with
  | text t => exact ⟨hplain.1, hleaf rfl⟩
  | comment t => exact hleaf rfl
  | element e => exact ⟨hplain.void, hplain.neighbours⟩
  | fragment | shadowRoot => exact absurd hplain id

theorem PlainTrees.noReturn (h : PlainTrees f) : ∀ c ∈ f.labels, c.NoReturn := by
  refine Forest.every_label_iff.1 (h.nodes.imp fun c kids _ _ hc => ?_)
  cases c with
  | text t => exact hc.2.2
  | element e => exact fun entry hentry => (hc.values entry hentry).2
  | comment | fragment | shadowRoot => trivial

theorem PlainTrees.holdsScript_eq_false (h : PlainTrees f) :
    ∀ c ∈ f.labels, c.holdsScript = false := by
  refine Forest.every_label_iff.1 (h.nodes.imp fun c kids _ _ hc => ?_)
  cases c with
  | element e => simpa [Content.holdsScript] using hc.contentModel_ne_script
  | text | comment | fragment | shadowRoot => rfl

/-- Plain trees come back from their markup, up to what markup does not show. -/
theorem PlainTrees.parse_html (h : PlainTrees f) (hleaves : HasLeaves f)
    (hproper : ∀ c ∈ f.labels, c.Proper) : parse (html f) = f.map Content.written := by
  rw [Markup.parse_html (legible_of_plain h.nodes) (h.arranged hleaves) hproper h.noReturn,
    readBack_eq_map h.holdsScript_eq_false]

end Markup

namespace Document

variable {L : Type} {d d' : Document L} {x : NodeId} {trees : Forest Content}

/-! ### In documents -/

theorem outline?_eq_some_iff {c : Content} :
    d.outline? x = some (.tree c trees) ↔
      ∃ kids, d.forest.below? x = some kids ∧ d.contentAt x = c ∧ kids.map d.contentAt = trees := by
  unfold outline? subtree?
  cases d.forest.below? x with
  | none => simp
  | some kids => simp [Forest.tree, Forest.map]

/-- What a new tree looks like. -/
theorem outline?_plant (hd : d.WellFormed) (c : Content) (trees : Forest Content) :
    (d.plant (.tree c trees)).outline? d.nextId = some (.tree c trees) := by
  obtain ⟨hc, hkids, -⟩ := Forest.node.inj (map_contentAt_sprouts d (.tree c trees))
  refine outline?_eq_some_iff.2 ⟨_, ?_, hc, hkids⟩
  rw [forest_plant, Forest.below?_append, Forest.below?_eq_none_iff.2 (nextId_not_mem hd),
    Option.none_or]
  exact Forest.below?_node_self ..

/-- What a parsed fragment looks like. -/
theorem outline?_parseFragment (hd : d.WellFormed) (markup : String) :
    (d.parseFragment markup).1.outline? (d.parseFragment markup).2 =
      some (.tree .fragment (parse markup)) :=
  outline?_plant hd .fragment (parse markup)

/-- The markup of a fragment is that of the trees in it. -/
theorem outerHtml_of_outline? (h : d.outline? x = some (.tree .fragment trees)) :
    d.outerHtml x = .ok (html trees) := by
  obtain ⟨kids, hkids, hx, rfl⟩ := outline?_eq_some_iff.1 h
  unfold outerHtml subtree?
  rw [hkids]
  simp [Forest.tree, Forest.map, html, hx, nodeHtml]

theorem WellFormed.proper_of_outline? (hd : d.WellFormed) {c : Content}
    (h : d.outline? x = some (.tree c trees)) : ∀ c' ∈ trees.labels, c'.Proper := by
  obtain ⟨kids, hkids, -, rfl⟩ := outline?_eq_some_iff.1 h
  intro c' hc'
  rw [Forest.labels_map] at hc'
  obtain ⟨id, hid, rfl⟩ := List.mem_map.1 hc'
  have hlive := contains_iff.2 (Forest.mem_labels_of_below? hkids hid)
  exact hd.proper_content? (hd.content?_eq hlive)

theorem Housed.hasLeaves (hd : d.Housed) {c : Content}
    (h : d.outline? x = some (.tree c trees)) : HasLeaves trees := by
  obtain ⟨kids, hkids, -, rfl⟩ := outline?_eq_some_iff.1 h
  unfold HasLeaves
  rw [Forest.every_map]
  refine Forest.Every.imp (Forest.Every.below? hd hkids).2 fun p below _ _ hhouses hleaf => ?_
  cases below with
  | nil => rfl
  | node c' kids' rest =>
    have hcontainer := (hhouses c' List.mem_cons_self).1
    rw [hleaf] at hcontainer
    cases hcontainer

/-- **Parsing undoes serializing.**  The markup of a fragment of plain trees, parsed in any
document, gives these trees again, attributes in order; only properties and shadow roots,
which are not serialized, are missing. -/
theorem outline?_reparsed (hd : d.Reachable) (hx : d.outline? x = some (.tree .fragment trees))
    (hplain : PlainTrees trees) (hd' : d'.Reachable) :
    ∃ markup, d.outerHtml x = .ok markup ∧
      (d'.parseFragment markup).1.outline? (d'.parseFragment markup).2 =
        some (.tree .fragment (trees.map Content.written)) := by
  refine ⟨_, outerHtml_of_outline? hx, ?_⟩
  rw [outline?_parseFragment hd'.wellFormed, hplain.parse_html (hd.housed.hasLeaves hx)
    (hd.wellFormed.proper_of_outline? hx)]

/-- A paragraph with an attribute, a text and a line break, and a comment behind it. -/
def sampleTrees : Forest Content :=
  .node (.element { tag := "p", attributes := ⟨[("title", "\"&\"")]⟩ })
    (.node (.text "1 < 2") .nil (.tree (.element { tag := "br" }) .nil))
    (.tree (.comment " - ") .nil)

theorem plainTrees_sampleTrees : PlainTrees sampleTrees := by
  obtain ⟨hp, hbr, htitle, hvoid⟩ :
      TagName "p" ∧ TagName "br" ∧ AttributeName "title" ∧ isVoid "p" = false := by
    decide +kernel
  have hparagraph : PlainElement
      (.node (.text "1 < 2") .nil (.tree (.element { tag := "br" }) .nil))
      { tag := "p", attributes := ⟨[("title", "\"&\"")]⟩ } := by
    refine ⟨hp, by decide, ?_, ?_, fun h => ?_, fun h => absurd h (by decide), ?_⟩
    · simpa using htitle
    · simp
    · exact absurd (hvoid.symm.trans h) Bool.false_ne_true
    · simp [Forest.tree, Forest.roots, Content.NotBothTexts, Content.isText]
  have hbreak : PlainElement .nil { tag := "br" } :=
    ⟨hbr, by decide, List.forall_mem_nil _, List.forall_mem_nil _, fun _ => rfl,
      fun _ => Or.inl rfl, List.isChain_nil⟩
  have hcomment : PlainComment " - " := by
    constructor <;> simp <;> decide
  refine ⟨⟨hparagraph, ⟨⟨by decide, by simp, by simp⟩, trivial, hbreak, trivial,
    trivial⟩, hcomment, trivial, trivial⟩, ?_⟩
  simp [sampleTrees, Forest.tree, Forest.roots, Content.NotBothTexts, Content.isText]

/-- A document with this fragment. -/
def sampleSheet : Document Nat :=
  (({} : Document Nat).parseFragment
    "<p title=\"&quot;&amp;&quot;\">1 &lt; 2<br></p><!-- - -->").1

theorem outline?_reparsed_sampleSheet :
    ∃ markup, sampleSheet.outerHtml ⟨0⟩ = .ok markup ∧
      (sampleSheet.parseFragment markup).1.outline? (sampleSheet.parseFragment markup).2 =
        some (.tree .fragment (sampleTrees.map Content.written)) :=
  have hreachable : sampleSheet.Reachable := .parse .empty _
  have hx : sampleSheet.outline? ⟨0⟩ = some (.tree .fragment sampleTrees) := by decide +kernel
  outline?_reparsed hreachable hx plainTrees_sampleTrees hreachable

/-- **Parsing, serializing and parsing again.**  What comes out is what came out of the first
parse, but for the texts right below a script or a style, in which `&`, `<` and `>` are
escaped; so it is the same exactly if there are none of these in such a text. -/
theorem outline?_reparsed_parse (hd : d.Reachable) (hd' : d'.Reachable) {m : String}
    (hm : ∀ c ∈ (parse m).labels, c.NoReturn) :
    ∃ markup, (d.parseFragment m).1.outerHtml (d.parseFragment m).2 = .ok markup ∧
      (d'.parseFragment markup).1.outline? (d'.parseFragment markup).2 =
        some (.tree .fragment (readBack false (parse m))) ∧
      ((d'.parseFragment markup).1.outline? (d'.parseFragment markup).2 =
          (d.parseFragment m).1.outline? (d.parseFragment m).2 ↔
        (parse m).Every fun c kids => c.Verbatim kids) := by
  have hagain := outline?_parseFragment hd'.wellFormed (html (parse m))
  rw [parse_html_parse hm] at hagain
  refine ⟨_, outerHtml_of_outline? (outline?_parseFragment hd.wellFormed m), hagain, ?_⟩
  have hsame := readBack_eq_self_iff (fresh_parse m) false
  rw [hagain, outline?_parseFragment hd.wellFormed]
  simpa [Forest.tree] using hsame

/-- A comparison in a script comes back as a reference. -/
theorem outline?_reparsed_parse_sampleScript :
    ∃ markup, (({} : Document Nat).parseFragment "<script>1 < 2</script>").1.outerHtml ⟨0⟩ =
        .ok markup ∧
      (({} : Document Nat).parseFragment markup).1.outline? ⟨0⟩ =
        some (.tree .fragment (.tree (.element { tag := "script" })
          (.tree (.text "1 &lt; 2") .nil))) := by
  have hparse : parse "<script>1 < 2</script>" =
      .tree (.element { tag := "script" }) (.tree (.text "1 < 2") .nil) := by decide +kernel
  have hm : ∀ c ∈ (parse "<script>1 < 2</script>").labels, c.NoReturn := by
    rw [hparse]
    intro c hc
    rcases List.mem_cons.1 hc with rfl | hc
    · exact nofun
    · rw [List.mem_singleton.1 hc]
      simp [Content.NoReturn]
  obtain ⟨markup, hmarkup, hagain, -⟩ :=
    outline?_reparsed_parse (Reachable.empty (L := Nat)) (Reachable.empty (L := Nat)) hm
  refine ⟨markup, hmarkup, hagain.trans ?_⟩
  decide +kernel

end Document

end LiveMarkup
