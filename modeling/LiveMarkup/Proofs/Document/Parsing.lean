/-
What reading markup adds to a document.

Whatever the markup, reading it is not refused, and it adds a fragment with new nodes below it
and nothing else.  These are elements, texts and comments in normal form: no text is empty or
stands beside another, void elements have nothing in them, and elements are as their start
tags can say.  All that was there before stays as it was.

The shape of the new trees is that of the trees the builder makes (`arranged_build`), their
names are the names the lexer can give (`legible_parse`), and reading node by node makes the
same document (`readTokens_eq`).

All trees in normal form can be had so, from any of the tokens that spell them
(`outline?_readTokens_of_spellsOpen`).
-/
import LiveMarkup.Proofs.Document.Growing
import LiveMarkup.Proofs.Document.Reparsing
import LiveMarkup.Proofs.Document.Shadow

namespace LiveMarkup

/-- What a node that markup makes can hold: an element with no capital letter in its tag, no
attribute twice, no properties and no shadow root; a text that is not empty; or a comment. -/
inductive Content.Normal : Content → Prop
  | element {e : Element} (htag : ∀ c ∈ e.tag.toList, c.isUpper = false)
      (hattributes : e.attributes.names.Nodup) (hproperties : e.properties = ∅)
      (hshadow : e.shadow = none) : Normal (.element e)
  | text {s : String} (h : s ≠ "") : Normal (.text s)
  | comment (s : String) : Normal (.comment s)

namespace Document

variable {L : Type} {d d' : Document L} {f x p : NodeId} {kids : Forest NodeId} {markup : String}

/-- What reading `markup` into `d` comes to: the document `d'` with the fragment `f` in it. -/
structure ParsedInto (d : Document L) (markup : String) (d' : Document L) (f : NodeId) : Prop where
  /-- Reading it node by node is not refused. -/
  read : d.readTokens (Markup.tokens markup.toList) = .ok (d', f)
  fragment : d'.content? f = some .fragment
  parent : d'.parent? f = none
  /-- The fragment and the nodes below it have names that no node had before. -/
  new : ∀ x ∈ d'.descendants f, d.contains x = false ∧ d.records.size ≤ x.index
  normal : ∀ x ∈ d'.below f, ∃ c, d'.content? x = some c ∧ c.Normal
  /-- No two texts are side by side. -/
  apart : ∀ p ∈ d'.descendants f, (d'.children p).IsChain fun x y =>
    ¬((d'.contentAt x).isText = true ∧ (d'.contentAt y).isText = true)
  /-- Void elements have no children, no more than texts and comments. -/
  empty : ∀ x ∈ d'.below f, (∀ e, d'.content? x = some (.element e) → e.isVoid = true) →
    d'.children x = []
  /-- Nothing is added but these nodes. -/
  live : ∀ x, d'.contains x = true ↔ d.contains x = true ∨ x ∈ d'.descendants f
  /-- What was there holds what it held, with the listeners it had, and is where it was. -/
  kept : ∀ x, d.contains x = true → d'.record? x = d.record? x ∧ d'.children x = d.children x ∧
    d'.parent? x = d.parent? x

/-! ### What was there -/

theorem descendants_parseFragment (hd : d.WellFormed) (markup : String) :
    (d.parseFragment markup).1.descendants d.nextId =
      (Forest.tree d.nextId (d.parsed markup)).labels := by
  unfold descendants below
  rw [below?_nextId_parseFragment hd]
  simp [Forest.tree, Forest.labels]

theorem contains_parseFragment_iff (hd : d.WellFormed) :
    (d.parseFragment markup).1.contains x = true ↔
      d.contains x = true ∨ x ∈ (d.parseFragment markup).1.descendants d.nextId := by
  rw [contains_iff, contains_iff, forest_parseFragment, Forest.labels_append, List.mem_append,
    descendants_parseFragment hd]

theorem new_of_mem_descendants (hd : d.WellFormed)
    (hx : x ∈ (d.parseFragment markup).1.descendants d.nextId) :
    d.contains x = false ∧ d.records.size ≤ x.index := by
  rw [descendants_parseFragment hd] at hx
  have hsprout : x ∈ (d.sprouts (.tree .fragment (Markup.parse markup))).labels := hx
  refine ⟨?_, (mem_labels_sprouts.1 hsprout).1⟩
  rw [contains_eq_false_iff]
  exact fun hc => hd.not_mem_sprouts hc hsprout

theorem children_parseFragment_of_contains (hx : d.contains x = true) (markup : String) :
    (d.parseFragment markup).1.children x = d.children x := by
  obtain ⟨kids, hkids⟩ := Forest.exists_below? (contains_iff.1 hx)
  unfold children
  rw [forest_parseFragment, Forest.below?_append, hkids, Option.some_or]

theorem record?_parseFragment_of_contains (hd : d.WellFormed) (hx : d.contains x = true)
    (markup : String) : (d.parseFragment markup).1.record? x = d.record? x :=
  hd.record?_plant hx _

/-- The parent of a node that was there is the one it had. -/
theorem parent?_parseFragment_of_contains (hd : d.WellFormed) (hx : d.contains x = true)
    (markup : String) : (d.parseFragment markup).1.parent? x = d.parent? x := by
  refine Option.ext fun p => ?_
  rw [parent?_eq_some_iff (hd.parseFragment markup).distinct, parent?_eq_some_iff hd.distinct]
  by_cases hp : d.contains p = true
  · rw [children_parseFragment_of_contains hp]
  · have hold : x ∉ d.children p := by
      intro hc
      exact hp (contains_iff.2 (mem_children_iff.1 hc).mem_labels.1)
    refine iff_of_false (fun hc => ?_) hold
    have hlive := contains_iff.2 (mem_children_iff.1 hc).mem_labels.1
    have hnew := ((contains_parseFragment_iff hd).1 hlive).resolve_left hp
    have hgone := (new_of_mem_descendants hd (mem_descendants_of_mem_children
      (hd.parseFragment markup).distinct hnew hc)).1
    rw [hx] at hgone
    cases hgone

/-! ### What is new -/

/-- Every new node holds something normal. -/
theorem normal_of_mem_parse (markup : String) {c : Content}
    (hc : c ∈ (Markup.parse markup).labels) : c.Normal := by
  have hfresh := Markup.fresh_parse markup c hc
  have hlegible := Markup.legible_parse markup
  have harranged := (Markup.arranged_build (Markup.tokens markup.toList)).nodes
  obtain ⟨kids, hkids⟩ := Forest.exists_below? hc
  cases c with
  | element e =>
    obtain ⟨hattributes, hproperties, hshadow⟩ := hfresh
    have htag := (Forest.Every.below? hlegible hkids).1.1.tag
    refine .element (fun c hc => ?_) hattributes hproperties hshadow
    exact (Markup.isNameChar_iff.1 (htag.chars c hc)).1
  | text s => exact .text (Forest.Every.below? harranged hkids).1.1
  | comment s => exact .comment s
  | fragment | shadowRoot => exact absurd hfresh id

/-- Below the nodes of a fragment there are trees arranged as the trees in the fragment are. -/
theorem HasFragment.exists_arrangedOver (h : d'.HasFragment f kids) (hd' : d'.WellFormed)
    (harranged : Markup.Arranged (kids.map d'.contentAt)) (hx : x ∈ kids.labels) :
    ∃ inner : Forest NodeId, d'.children x = inner.roots ∧
      (d'.contentAt x).ArrangedOver (inner.map d'.contentAt) := by
  obtain ⟨inner, hinner⟩ := Forest.exists_below? hx
  have hbelow := (Forest.below?_of_below? hd'.distinct h.below hx).trans hinner
  have hnodes := harranged.nodes
  rw [Forest.every_map] at hnodes
  exact ⟨inner, children_of_below? hbelow, (Forest.Every.below? hnodes hinner).1⟩

theorem HasFragment.isChain_children (h : d'.HasFragment f kids) (hd' : d'.WellFormed)
    (harranged : Markup.Arranged (kids.map d'.contentAt)) (hp : p ∈ d'.descendants f) :
    (d'.children p).IsChain fun x y =>
      ¬((d'.contentAt x).isText = true ∧ (d'.contentAt y).isText = true) := by
  rcases (mem_descendants_iff h.below).1 hp with rfl | hp
  · have hroots := harranged.roots
    rw [Forest.roots_map, List.isChain_map] at hroots
    rw [children_of_below? h.below]
    exact hroots
  · obtain ⟨inner, hchildren, hover⟩ := h.exists_arrangedOver hd' harranged hp
    have hchain := hover.chain
    rw [Forest.roots_map, List.isChain_map] at hchain
    rw [hchildren]
    exact hchain

theorem HasFragment.children_of_empty (h : d'.HasFragment f kids) (hd' : d'.WellFormed)
    (harranged : Markup.Arranged (kids.map d'.contentAt)) (hx : x ∈ kids.labels)
    (hempty : ∀ e, d'.content? x = some (.element e) → e.isVoid = true) : d'.children x = [] := by
  obtain ⟨inner, hchildren, hover⟩ := h.exists_arrangedOver hd' harranged hx
  rw [hd'.content?_eq (h.live hx)] at hempty
  have hnil : inner.map d'.contentAt = .nil := by
    cases hc : d'.contentAt x with
    | element e =>
      rw [hc] at hover hempty
      exact hover.1 (hempty e rfl)
    | text s =>
      rw [hc] at hover
      exact hover.2
    | comment s =>
      rw [hc] at hover
      exact hover
    | fragment | shadowRoot =>
      rw [hc] at hover
      exact absurd hover id
  have hroots := congrArg Forest.roots hnil
  rw [Forest.roots_map] at hroots
  rw [hchildren]
  exact List.map_eq_nil_iff.1 hroots

theorem arranged_parsed (d : Document L) (markup : String) :
    Markup.Arranged ((d.parsed markup).map (d.parseFragment markup).1.contentAt) := by
  rw [map_contentAt_parsed]
  exact Markup.arranged_build _

theorem normal_parsed (d : Document L) (hx : x ∈ (d.parsed markup).labels) :
    ((d.parseFragment markup).1.contentAt x).Normal := by
  have hparse : (d.parseFragment markup).1.contentAt x ∈ (Markup.parse markup).labels := by
    rw [← map_contentAt_parsed d markup, Forest.labels_map]
    exact List.mem_map_of_mem hx
  exact normal_of_mem_parse markup hparse

theorem readTokens_tokens (hd : d.WellFormed) (markup : String) :
    d.readTokens (Markup.tokens markup.toList) = .ok (d.parseFragment markup) := by
  unfold parseFragment Markup.parse
  exact readTokens_eq hd _

theorem mem_roots_parseFragment (d : Document L) (markup : String) :
    d.nextId ∈ (d.parseFragment markup).1.forest.roots := by
  rw [forest_parseFragment, Forest.roots_append]
  exact List.mem_append_right _ List.mem_cons_self

/-- **Reading markup is never refused, makes a fragment in normal form, and changes nothing that
was there.** -/
theorem parsedInto_parseFragment (hd : d.Reachable) (markup : String) :
    d.ParsedInto markup (d.parseFragment markup).1 (d.parseFragment markup).2 := by
  have hwf := hd.wellFormed
  have hfragment := hasFragment_parseFragment hwf markup
  have hwf' := hwf.parseFragment markup
  have harranged := arranged_parsed d markup
  have hbelow : (d.parseFragment markup).1.below d.nextId = (d.parsed markup).labels := by
    unfold below
    rw [hfragment.below, Option.map_some, Option.getD_some]
  show d.ParsedInto markup (d.parseFragment markup).1 d.nextId
  refine ⟨readTokens_tokens hwf markup, hfragment.content,
    parent?_of_mem_roots hwf'.distinct (mem_roots_parseFragment d markup),
    fun x hx => new_of_mem_descendants hwf hx, fun x hx => ?_,
    fun p hp => hfragment.isChain_children hwf' harranged hp, fun x hx hempty => ?_,
    fun x => contains_parseFragment_iff hwf, fun x hx => ⟨?_, ?_, ?_⟩⟩
  · rw [hbelow] at hx
    exact ⟨(d.parseFragment markup).1.contentAt x, hwf'.content?_eq (hfragment.live hx),
      normal_parsed d hx⟩
  · rw [hbelow] at hx
    exact hfragment.children_of_empty hwf' harranged hx hempty
  · exact record?_parseFragment_of_contains hwf hx markup
  · exact children_parseFragment_of_contains hx markup
  · exact parent?_parseFragment_of_contains hwf hx markup

/-- Markup with a stray end tag, a name in capitals, a repeated attribute and an open comment. -/
def sampleScrap : String := "<P id=a ID=b>one</i> two<br/></P><!--three"

/-- It is read beside the list, and the list stays as it was. -/
theorem parsedInto_parseFragment_sampleScrap :
    sampleList.readTokens (Markup.tokens sampleScrap.toList) =
        .ok (sampleList.parseFragment sampleScrap) ∧
      (sampleList.parseFragment sampleScrap).1.outerHtml ⟨6⟩ =
        .ok "<p id=\"a\">one two<br></p><!--three-->" ∧
      (sampleList.parseFragment sampleScrap).1.children ⟨7⟩ = [⟨8⟩, ⟨9⟩] ∧
      (sampleList.parseFragment sampleScrap).1.children ⟨9⟩ = [] ∧
      (sampleList.parseFragment sampleScrap).1.children ⟨1⟩ = [⟨2⟩, ⟨4⟩] := by
  have hparsed := parsedInto_parseFragment reachable_sampleList sampleScrap
  have hbreak : (sampleList.parseFragment sampleScrap).1.content? ⟨9⟩ =
      some (.element { tag := "br" }) := by decide +kernel
  refine ⟨hparsed.read, by decide +kernel, by decide +kernel, ?_, ?_⟩
  · refine hparsed.empty ⟨9⟩ (by decide +kernel) fun e he => ?_
    rw [hbreak] at he
    cases he
    decide +kernel
  · rw [(hparsed.kept ⟨1⟩ (by decide +kernel)).2.1]
    decide +kernel

/-! ### Any spelling of trees -/

/-- **However trees in normal form are spelled, reading the tokens makes just these trees**, and in
a document it makes a fragment of them. -/
theorem outline?_readTokens_of_spellsOpen (hd : d.Reachable) {g : Forest Content}
    {tokens : List Markup.Token} (hg : Markup.Arranged g) (hfresh : Markup.FreshTrees g)
    (h : Markup.SpellsOpen [] g tokens) :
    Markup.build tokens = g ∧
      ∃ d', d.readTokens tokens = .ok (d', d.nextId) ∧
        d'.outline? d.nextId = some (.tree .fragment g) := by
  have hbuild := Markup.build_of_spellsOpen h hg hfresh
  refine ⟨hbuild, d.plant (.tree .fragment g), ?_, outline?_plant hd.wellFormed .fragment g⟩
  rw [readTokens_eq hd.wellFormed, hbuild]

/-- An item that closes itself and one with a text in it, in a list with two attributes. -/
def sampleSpelled : Forest Content :=
  .tree (.element { tag := "ul", attributes := ⟨[("id", "x"), ("hidden", "")]⟩ })
    (.node (.element { tag := "li" }) .nil (.tree (.element { tag := "li" })
      (.tree (.text "one") .nil)))

/-- They are spelled here with a stray end tag, an attribute that has no value, another that is
repeated, a text in pieces, and without the last two end tags. -/
def sampleSpelling : List Markup.Token :=
  [.attributeName "a", .endTag "i",
    .startTag "ul", .attributeName "id", .attributeValue "x", .attributeName "hidden",
    .attributeName "id", .attributeValue "y", .startTagEnd false,
    .startTag "li", .startTagEnd true,
    .startTag "li", .startTagEnd false, .text "on", .text "", .text "e"]

theorem spellsOpen_sampleSpelling : Markup.SpellsOpen [] sampleSpelled sampleSpelling := by
  have htext : Markup.SpellsText ["li", "ul"] ("on" ++ ("" ++ ("e" ++ "")))
      [.text "on", .text "", .text "e"] := .piece "on" (.piece "" (.piece "e" .nil))
  have hjoined : "on" ++ ("" ++ ("e" ++ "")) = "one" := by decide
  rw [hjoined] at htext
  have hattributes : Markup.SpellsAttributes [("id", "x"), ("hidden", "")]
      [.attributeName "id", .attributeValue "x", .attributeName "hidden",
        .attributeName "id", .attributeValue "y"] :=
    .again "y" (by decide) (.bare "hidden" (.written "id" "x" .nil))
  have hfirst : Markup.Spells ["ul"] (.tree (.element { tag := "li" }) .nil)
      [.startTag "li", .startTagEnd true] :=
    @Markup.Spells.childless ["ul"] .nil { tag := "li" } [] [] true .nil rfl .nil
  have hitems := @Markup.SpellsOpen.last ["ul"] _ (.tree (.text "one") .nil) { tag := "li" } _ [] _
    hfirst .nil (by decide +kernel) (.closed (.text htext .nil))
  have hstray : Markup.Spells [] .nil [.attributeName "a", .endTag "i"] :=
    .stray (.attributeName "a") (.stray (.endTag List.not_mem_nil) .nil)
  exact @Markup.SpellsOpen.last [] _ _
    { tag := "ul", attributes := ⟨[("id", "x"), ("hidden", "")]⟩ } _ _ _ hstray hattributes
    (by decide +kernel) hitems

theorem arranged_sampleSpelled : Markup.Arranged sampleSpelled := by
  have htext : Markup.Arranged (.tree (.text "one") .nil) :=
    Markup.arranged_tree ⟨by decide, rfl⟩ trivial
  have hitem : Markup.Arranged (.tree (.element { tag := "li" }) .nil) :=
    Markup.arranged_append_element Markup.arranged_nil (Or.inr rfl) Markup.arranged_nil
  exact Markup.arranged_append_element Markup.arranged_nil (Or.inl (by decide +kernel))
    (Markup.arranged_append_element hitem (Or.inl (by decide +kernel)) htext)

theorem freshTrees_sampleSpelled : Markup.FreshTrees sampleSpelled := by
  have hitem : Content.Fresh (.element { tag := "li" }) := ⟨OrderedMap.distinct_empty, rfl, rfl⟩
  have hlist : Content.Fresh
      (.element { tag := "ul", attributes := ⟨[("id", "x"), ("hidden", "")]⟩ }) :=
    ⟨show ["id", "hidden"].Nodup by decide, rfl, rfl⟩
  have htext : Content.Fresh (.text "one") := trivial
  intro c hc
  simp only [sampleSpelled, Forest.tree, Forest.labels, List.append_nil, List.nil_append,
    List.mem_cons, List.not_mem_nil, or_false] at hc
  rcases hc with rfl | rfl | rfl | rfl
  · exact hlist
  · exact hitem
  · exact hitem
  · exact htext

/-- Read beside the list they are a new fragment. -/
theorem outline?_readTokens_sampleSpelling :
    Markup.build sampleSpelling = sampleSpelled ∧
      ∃ d', sampleList.readTokens sampleSpelling = .ok (d', ⟨6⟩) ∧
        d'.outline? ⟨6⟩ = some (.tree .fragment sampleSpelled) := by
  have hread := outline?_readTokens_of_spellsOpen reachable_sampleList arranged_sampleSpelled
    freshTrees_sampleSpelled spellsOpen_sampleSpelling
  have hnext : sampleList.nextId = ⟨6⟩ := by decide +kernel
  rwa [hnext] at hread

end Document

end LiveMarkup
