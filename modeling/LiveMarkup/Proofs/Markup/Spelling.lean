/-
Tokens that spell trees out.

The same trees can be spelled in many ways (`Spells`).  A text may come in pieces.  An
attribute without a value may be written with an empty one, and a name may be repeated in its
tag.  An element without children may close itself, and end tags of elements that are not open
may stand between tags.  At the end of the tokens, the end tags of what is still open may be
missing (`SpellsOpen`).

However they are spelled, trees arranged as the builder arranges them are built from their
tokens (`build_of_spellsOpen`).  Tokens leave a builder with the trees they spell after those it
had, whatever it is in the middle of (`foldl_spells`), which is what makes the induction go
through: the trees below an element are read while the element is open.

Serialized markup is read as one of these spellings, with every character of text on its own
(`spelling`).
-/
import LiveMarkup.Proofs.Markup.Building

namespace LiveMarkup.Markup

variable {g kids : Forest Content} {c : Content} {e : Element} {s : String}
  {tokens attributes : List Token} {opened : List String} {b : Builder}

/-- Tokens between tags that spell nothing, while the elements with the tags `opened` are open:
end tags of other elements, with or without attributes, and empty pieces of text. -/
inductive Stray (opened : List String) : Token → Prop
  | endTag {name : String} (h : name ∉ opened) : Stray opened (.endTag name)
  | attributeName (name : String) : Stray opened (.attributeName name)
  | attributeValue (value : String) : Stray opened (.attributeValue value)
  | noText : Stray opened (.text "")

/-- Tokens that spell one text, in pieces. -/
inductive SpellsText (opened : List String) : String → List Token → Prop
  | nil : SpellsText opened "" []
  | piece {rest : String} {tokens : List Token} (s : String) (h : SpellsText opened rest tokens) :
      SpellsText opened (s ++ rest) (.text s :: tokens)
  | stray {s : String} {token : Token} {tokens : List Token} (htoken : Stray opened token)
      (h : SpellsText opened s tokens) : SpellsText opened s (token :: tokens)

/-- Tokens that spell the attributes of a start tag. -/
inductive SpellsAttributes : List (String × String) → List Token → Prop
  | nil : SpellsAttributes [] []
  | written {entries : List (String × String)} {tokens : List Token} (name value : String)
      (h : SpellsAttributes entries tokens) :
      SpellsAttributes (entries ++ [(name, value)])
        (tokens ++ [.attributeName name, .attributeValue value])
  | bare {entries : List (String × String)} {tokens : List Token} (name : String)
      (h : SpellsAttributes entries tokens) :
      SpellsAttributes (entries ++ [(name, "")]) (tokens ++ [.attributeName name])
  /-- A name that was there before adds nothing, with whatever value. -/
  | again {entries : List (String × String)} {tokens : List Token} {name : String}
      (value : String) (hname : name ∈ entries.map Prod.fst) (h : SpellsAttributes entries tokens) :
      SpellsAttributes entries (tokens ++ [.attributeName name, .attributeValue value])
  | bareAgain {entries : List (String × String)} {tokens : List Token} {name : String}
      (hname : name ∈ entries.map Prod.fst) (h : SpellsAttributes entries tokens) :
      SpellsAttributes entries (tokens ++ [.attributeName name])

/-- Tokens that spell trees inside open elements with the tags `opened`. -/
inductive Spells : List String → Forest Content → List Token → Prop
  | nil {opened : List String} : Spells opened .nil []
  | stray {opened : List String} {f : Forest Content} {token : Token} {tokens : List Token}
      (htoken : Stray opened token) (h : Spells opened f tokens) :
      Spells opened f (token :: tokens)
  | text {opened : List String} {rest : Forest Content} {s : String} {pieces tokens : List Token}
      (hpieces : SpellsText opened s pieces) (hrest : Spells opened rest tokens) :
      Spells opened (.node (.text s) .nil rest) (pieces ++ tokens)
  | comment {opened : List String} {rest : Forest Content} {tokens : List Token} (s : String)
      (hrest : Spells opened rest tokens) :
      Spells opened (.node (.comment s) .nil rest) (.comment s :: tokens)
  /-- An element without children that closes itself, or that cannot have any. -/
  | childless {opened : List String} {rest : Forest Content} {e : Element}
      {attributes tokens : List Token} {selfClosing : Bool}
      (hattributes : SpellsAttributes e.attributes.entries attributes)
      (hclosed : (selfClosing || e.isVoid) = true) (hrest : Spells opened rest tokens) :
      Spells opened (.node (.element e) .nil rest)
        (.startTag e.tag :: attributes ++ .startTagEnd selfClosing :: tokens)
  | element {opened : List String} {kids rest : Forest Content} {e : Element}
      {attributes inner tokens : List Token}
      (hattributes : SpellsAttributes e.attributes.entries attributes) (hopen : e.isVoid = false)
      (hkids : Spells (e.tag :: opened) kids inner) (hrest : Spells opened rest tokens) :
      Spells opened (.node (.element e) kids rest)
        (.startTag e.tag :: attributes ++ .startTagEnd false :: (inner ++ .endTag e.tag :: tokens))

/-- Tokens that spell trees, but for the end tags of the elements that are still open at the end. -/
inductive SpellsOpen : List String → Forest Content → List Token → Prop
  | closed {opened : List String} {f : Forest Content} {tokens : List Token}
      (h : Spells opened f tokens) : SpellsOpen opened f tokens
  | last {opened : List String} {before kids : Forest Content} {e : Element}
      {tokens attributes inner : List Token} (hbefore : Spells opened before tokens)
      (hattributes : SpellsAttributes e.attributes.entries attributes) (hopen : e.isVoid = false)
      (hkids : SpellsOpen (e.tag :: opened) kids inner) :
      SpellsOpen opened (before ++ .tree (.element e) kids)
        (tokens ++ (.startTag e.tag :: attributes ++ .startTagEnd false :: inner))

/-! ### Text in pieces -/

/-- Text that comes in two pieces is text that comes at once. -/
theorem appendText_appendText (s t : String) (f : Forest Content) :
    appendText t (appendText s f) = appendText (s ++ t) f := by
  by_cases hjoins : Joins f (.tree (.text s) .nil)
  · rw [appendText_of_joins hjoins, appendText_append_text,
      appendText_of_joins (joins_of_joins_text hjoins)]
  · obtain ⟨before, u, kids, rfl⟩ := exists_text_of_not_joins hjoins
    rw [appendText_append_text, appendText_append_text, appendText_append_text, String.append_assoc]

namespace Builder

/-- The tags of the open elements. -/
def openTags (b : Builder) : List String := b.stack.map fun o => o.element.tag

/-- No start tag is being read, and the open elements have the tags `opened`. -/
structure Between (b : Builder) (opened : List String) : Prop where
  tag : b.tag = none
  openTags : b.openTags = opened

theorem Between.onChildren (h : b.Between opened) (change : Forest Content → Forest Content) :
    (b.onChildren change).Between opened where
  tag := (b.tag_onChildren change).trans h.tag
  openTags := by
    rw [← h.openTags]
    obtain ⟨top, stack, tag⟩ := b
    cases stack <;> rfl

theorem Between.add (h : b.Between opened) (f : Forest Content) : (b.add f).Between opened :=
  h.onChildren _

theorem step_text (hs : s ≠ "") : b.step (.text s) = b.onChildren (appendText s) := by
  have hne : s.isEmpty ≠ true := by rwa [ne_eq, String.isEmpty_iff]
  exact if_neg hne

theorem step_noText (b : Builder) : b.step (.text "") = b := rfl

theorem step_text_text (b : Builder) (s t : String) :
    (b.step (.text s)).step (.text t) = b.step (.text (s ++ t)) := by
  by_cases hs : s = ""
  · rw [hs, step_noText, String.empty_append]
  by_cases ht : t = ""
  · rw [ht, step_noText, String.append_empty]
  have hboth : s ++ t ≠ "" := by
    intro h
    exact hs (String.append_eq_empty_iff.1 h).1
  rw [step_text hs, step_text ht, step_text hboth, onChildren_onChildren]
  exact onChildren_congr (appendText_appendText s t _)

theorem Between.text (h : b.Between opened) (s : String) : (b.step (.text s)).Between opened := by
  by_cases hs : s = ""
  · rw [hs, step_noText]
    exact h
  · rw [step_text hs]
    exact h.onChildren _

end Builder

/-- **A token that spells nothing changes nothing.** -/
theorem Stray.step_eq {token : Token} (h : Stray opened token) (hb : b.Between opened) :
    b.step token = b := by
  obtain ⟨top, stack, tag⟩ := b
  obtain rfl : tag = none := hb.tag
  cases h with
  | attributeName | attributeValue | noText => rfl
  | @endTag name hname =>
    have hnone : stack.findIdx? (fun o => o.element.tag == name) = none := by
      rw [List.findIdx?_eq_none_iff]
      intro o ho
      rw [beq_eq_false_iff_ne]
      rintro rfl
      rw [← hb.openTags] at hname
      exact hname (List.mem_map_of_mem ho)
    show Builder.closeThrough ⟨top, stack, none⟩ name = _
    unfold Builder.closeThrough
    rw [hnone]

/-- The pieces of a text come to the text. -/
theorem SpellsText.foldl_eq (h : SpellsText opened s tokens) (hb : b.Between opened) :
    tokens.foldl Builder.step b = b.step (.text s) := by
  induction h generalizing b with
  | nil => exact b.step_noText.symm
  | piece s h ih => rw [List.foldl_cons, ih (hb.text s), Builder.step_text_text]
  | stray htoken h ih => rw [List.foldl_cons, htoken.step_eq hb, ih hb]

/-! ### Start tags -/

theorem addAttribute_of_mem {name : String} (h : name ∈ e.attributes.names) (value : String) :
    addAttribute e name value = e := by
  unfold addAttribute
  rw [OrderedMap.insertNew_of_mem h]

theorem addAttribute_of_not_mem {name : String} (h : name ∉ e.attributes.names) (value : String) :
    addAttribute e name value =
      { e with attributes := ⟨e.attributes.entries ++ [(name, value)]⟩ } := by
  unfold addAttribute
  rw [OrderedMap.insertNew_of_not_mem h]

section Pending

variable {t : PendingTag} {entries : List (String × String)} {tag name : String}

theorem step_attributeName (ht : t.settle "" = ⟨e, none⟩) (b : Builder) (name : String) :
    { b with tag := some t }.step (.attributeName name) =
      { b with tag := some ⟨e, some name⟩ } := by
  simp only [Builder.step, Option.map_some, ht]

theorem foldl_attribute (ht : t.settle "" = ⟨e, none⟩) (b : Builder) (name value : String) :
    [.attributeName name, .attributeValue value].foldl Builder.step { b with tag := some t } =
      { b with tag := some ⟨addAttribute e name value, none⟩ } := by
  rw [List.foldl_cons, step_attributeName ht]
  rfl

theorem not_mem_of_nodup_concat {value : String}
    (h : ((entries ++ [(name, value)]).map Prod.fst).Nodup) :
    (entries.map Prod.fst).Nodup ∧ name ∉ entries.map Prod.fst := by
  rw [List.map_append, List.nodup_append] at h
  refine ⟨h.1, fun hmem => ?_⟩
  exact h.2.2 name hmem name (by simp) rfl

/-- The attributes of a start tag are those that are spelled.  The last of them may still wait for
its value. -/
theorem SpellsAttributes.exists_settle (h : SpellsAttributes entries tokens)
    (hdistinct : (entries.map Prod.fst).Nodup) (b : Builder) (tag : String) :
    ∃ t : PendingTag, tokens.foldl Builder.step { b with tag := some ⟨{ tag }, none⟩ } =
        { b with tag := some t } ∧
      t.settle "" = ⟨{ tag, attributes := ⟨entries⟩ }, none⟩ := by
  induction h with
  | nil => exact ⟨⟨{ tag }, none⟩, rfl, rfl⟩
  | written name value h ih =>
    obtain ⟨hread, hname⟩ := not_mem_of_nodup_concat hdistinct
    obtain ⟨t, hfold, ht⟩ := ih hread
    refine ⟨_, by rw [List.foldl_append, hfold, foldl_attribute ht], ?_⟩
    rw [addAttribute_of_not_mem hname]
    rfl
  | bare name h ih =>
    obtain ⟨hread, hname⟩ := not_mem_of_nodup_concat hdistinct
    obtain ⟨t, hfold, ht⟩ := ih hread
    refine ⟨_, by rw [List.foldl_concat, hfold, step_attributeName ht], ?_⟩
    show PendingTag.mk (addAttribute _ name "") none = _
    rw [addAttribute_of_not_mem hname]
  | again value hname h ih =>
    obtain ⟨t, hfold, ht⟩ := ih hdistinct
    refine ⟨_, by rw [List.foldl_append, hfold, foldl_attribute ht], ?_⟩
    rw [addAttribute_of_mem hname]
    rfl
  | bareAgain hname h ih =>
    obtain ⟨t, hfold, ht⟩ := ih hdistinct
    refine ⟨_, by rw [List.foldl_concat, hfold, step_attributeName ht], ?_⟩
    show PendingTag.mk (addAttribute _ _ "") none = _
    rw [addAttribute_of_mem hname]

end Pending

theorem completeTag_of_settle {t : PendingTag} (ht : t.settle "" = ⟨e, none⟩) (b : Builder)
    (selfClosing : Bool) : { b with tag := some t }.completeTag selfClosing =
      { b with tag := some ⟨e, none⟩ }.completeTag selfClosing := by
  simp only [Builder.completeTag, ht]
  rfl

/-- **A start tag, however it is written, is the element it is a tag of.** -/
theorem SpellsAttributes.foldl_startTag (h : SpellsAttributes e.attributes.entries attributes)
    (he : (Content.element e).Fresh) (b : Builder) (selfClosing : Bool) :
    (.startTag e.tag :: attributes ++ .startTagEnd selfClosing :: tokens).foldl Builder.step b =
      tokens.foldl Builder.step ({ b with tag := some ⟨e, none⟩ }.completeTag selfClosing) := by
  obtain ⟨tag, attributes, properties, shadow⟩ := e
  obtain ⟨hdistinct, hproperties, hshadow⟩ := he
  simp only at hdistinct hproperties hshadow
  subst hproperties hshadow
  obtain ⟨t, hfold, ht⟩ := h.exists_settle hdistinct b tag
  have hstart : b.step (.startTag tag) = { b with tag := some ⟨{ tag }, none⟩ } := rfl
  rw [List.cons_append, List.foldl_cons, hstart, List.foldl_append, hfold, List.foldl_cons]
  rw [← completeTag_of_settle ht]
  rfl

/-! ### Trees -/

namespace Builder

/-- The element `e` is open, with nothing in it. -/
def enter (b : Builder) (e : Element) : Builder := { b with stack := ⟨e, .nil⟩ :: b.stack }

theorem Between.enter (h : b.Between opened) (e : Element) :
    (b.enter e).Between (e.tag :: opened) where
  tag := h.tag
  openTags := congrArg (e.tag :: ·) h.openTags

/-- The start tag of an element that has no content adds the element. -/
theorem Between.completeTag_of_closed (h : b.Between opened) {selfClosing : Bool}
    (he : (selfClosing || e.isVoid) = true) :
    { b with tag := some ⟨e, none⟩ }.completeTag selfClosing = b.add (.tree (.element e) .nil) := by
  obtain ⟨top, stack, tag⟩ := b
  obtain rfl : tag = none := h.tag
  exact if_pos he

theorem Between.completeTag_of_open (h : b.Between opened) (he : e.isVoid = false) :
    { b with tag := some ⟨e, none⟩ }.completeTag false = b.enter e := by
  obtain ⟨top, stack, tag⟩ := b
  obtain rfl : tag = none := h.tag
  exact if_neg (by simp [PendingTag.settle, he])

/-- The end tag of the innermost open element closes it. -/
theorem Between.step_endTag (h : b.Between opened) (e : Element) (kids : Forest Content) :
    ((b.enter e).add kids).step (.endTag e.tag) = b.add (.tree (.element e) kids) := by
  obtain ⟨top, stack, tag⟩ := b
  obtain rfl : tag = none := h.tag
  simp only [Builder.enter, Builder.step, Builder.closeThrough, Builder.add, Builder.onChildren,
    List.findIdx?_cons, beq_self_eq_true, if_true, Builder.closeMany, Builder.close]
  rfl

/-- So does the end of the tokens. -/
theorem finish_enter (b : Builder) (e : Element) (kids : Forest Content) :
    ((b.enter e).add kids).finish = (b.add (.tree (.element e) kids)).finish := by
  obtain ⟨top, stack, tag⟩ := b
  cases stack <;> rfl

end Builder

/-- What can stand after a tree can stand after it once it is added. -/
theorem Joins.add {rest : Forest Content} (h : Joins (.tree c kids) rest) (b : Builder) :
    Joins (b.add (.tree c kids)).children rest := by
  intro x hx
  refine h x ?_
  rwa [Builder.children_add, Forest.roots_append,
    List.getLast?_append_of_ne_nil _ (by simp [Forest.tree, Forest.roots])] at hx

/-- The tokens of the trees after a tree are read where the tree was added. -/
theorem foldl_rest {rest : Forest Content} (hg : Arranged (.node c kids rest))
    (hfresh : FreshTrees (.node c kids rest)) (hb : b.Between opened)
    (hrest : ∀ {b : Builder}, Arranged rest → FreshTrees rest → b.Between opened →
      Joins b.children rest → tokens.foldl Builder.step b = b.add rest) :
    tokens.foldl Builder.step (b.add (.tree c kids)) = b.add (.node c kids rest) := by
  obtain ⟨-, -, hgRest, hnext⟩ := arranged_node hg
  obtain ⟨-, -, hfreshRest⟩ := freshTrees_node hfresh
  rw [hrest hgRest hfreshRest (hb.add _) (hnext.add b), Builder.add_add]
  rfl

/-- **Tokens add the trees they spell to what a builder has.** -/
theorem foldl_spells (h : Spells opened g tokens) (hg : Arranged g) (hfresh : FreshTrees g)
    (hb : b.Between opened) (hjoins : Joins b.children g) :
    tokens.foldl Builder.step b = b.add g := by
  induction h generalizing b with
  | nil => exact b.add_nil.symm
  | stray htoken h ih => rw [List.foldl_cons, htoken.step_eq hb, ih hg hfresh hb hjoins]
  | @text opened rest s pieces tokens hpieces hrest ih =>
    obtain ⟨⟨hs, -⟩, -⟩ := arranged_node hg
    have htext : b.step (.text s) = b.add (.tree (.text s) .nil) := by
      rw [Builder.step_text hs]
      exact Builder.onChildren_congr (appendText_of_joins hjoins)
    rw [List.foldl_append, hpieces.foldl_eq hb, htext, foldl_rest hg hfresh hb ih]
  | comment s hrest ih =>
    have hcomment : b.step (.comment s) = b.add (.tree (.comment s) .nil) := rfl
    rw [List.foldl_cons, hcomment, foldl_rest hg hfresh hb ih]
  | childless hattributes hclosed hrest ih =>
    obtain ⟨he, -⟩ := freshTrees_node hfresh
    rw [hattributes.foldl_startTag he, hb.completeTag_of_closed hclosed,
      foldl_rest hg hfresh hb ih]
  | @element opened kids rest e attributes inner tokens hattributes hopen hkids hrest ihKids
      ihRest =>
    obtain ⟨-, hgKids, -⟩ := arranged_node hg
    obtain ⟨he, hfreshKids, -⟩ := freshTrees_node hfresh
    -- The trees below are read while the element is open, with nothing before them.
    have hinner : inner.foldl Builder.step (b.enter e) = (b.enter e).add kids :=
      ihKids hgKids hfreshKids (hb.enter e) (joins_nil kids)
    rw [hattributes.foldl_startTag he, hb.completeTag_of_open hopen, List.foldl_append, hinner,
      List.foldl_cons, hb.step_endTag, foldl_rest hg hfresh hb ihRest]

/-- The same of what is still open when the tokens end. -/
theorem finish_foldl_spellsOpen (h : SpellsOpen opened g tokens) (hg : Arranged g)
    (hfresh : FreshTrees g) (hb : b.Between opened) (hjoins : Joins b.children g) :
    (tokens.foldl Builder.step b).finish = (b.add g).finish := by
  induction h generalizing b with
  | closed h => rw [foldl_spells h hg hfresh hb hjoins]
  | @last opened before kids e tokens attributes inner hbefore hattributes hopen hkids ih =>
    obtain ⟨hgBefore, hgLast, -⟩ := arranged_append.1 hg
    obtain ⟨-, hgKids, -, -⟩ := arranged_node hgLast
    obtain ⟨hfreshBefore, hfreshLast⟩ := freshTrees_of_append hfresh
    obtain ⟨he, hfreshKids, -⟩ := freshTrees_node hfreshLast
    have hread : tokens.foldl Builder.step b = b.add before :=
      foldl_spells hbefore hgBefore hfreshBefore hb hjoins.left
    rw [List.foldl_append, hread, hattributes.foldl_startTag he,
      (hb.add before).completeTag_of_open hopen,
      ih hgKids hfreshKids ((hb.add before).enter e) (joins_nil kids),
      Builder.finish_enter, Builder.add_add]

/-- **However trees are spelled, they are built from their tokens.** -/
theorem build_of_spellsOpen (h : SpellsOpen [] g tokens) (hg : Arranged g)
    (hfresh : FreshTrees g) : build tokens = g := by
  have hempty : Builder.Between {} [] := ⟨rfl, rfl⟩
  unfold build
  rw [finish_foldl_spellsOpen h hg hfresh hempty (joins_nil g)]
  rfl

/-! ### Every character of text on its own -/

/-- The tokens of an attribute. -/
def attributeTokens (entry : String × String) : List Token :=
  [.attributeName entry.1, .attributeValue entry.2]

/-- The tokens of a start tag. -/
def startTokens (e : Element) : List Token :=
  .startTag e.tag :: (e.attributes.entries.flatMap attributeTokens ++ [.startTagEnd false])

/-- The tokens of a node, given those of the trees below it. -/
def nodeSpelling (inner : List Token) : Content → List Token
  | .text s => s.toList.map textToken
  | .comment s => [.comment s]
  | .fragment | .shadowRoot => inner
  | .element e => if e.isVoid then startTokens e else startTokens e ++ inner ++ [.endTag e.tag]

/-- The tokens that spell trees out, every character of text on its own. -/
def spelling : Forest Content → List Token
  | .nil => []
  | .node c kids rest => nodeSpelling (spelling kids) c ++ spelling rest

theorem spellsText_textTokens (opened : List String) (cs : List Char) :
    SpellsText opened (String.ofList cs) (cs.map textToken) := by
  induction cs with
  | nil => exact .nil
  | cons c cs ih =>
    have hpiece : SpellsText opened (String.singleton c ++ String.ofList cs)
        (textToken c :: cs.map textToken) := .piece (String.singleton c) ih
    have hwhole : String.singleton c ++ String.ofList cs = String.ofList (c :: cs) := by
      simp
    rwa [hwhole] at hpiece

theorem spellsAttributes_attributeTokens (entries : List (String × String)) :
    SpellsAttributes entries (entries.flatMap attributeTokens) := by
  induction entries using List.reverseRecOn with
  | nil => exact .nil
  | append_singleton entries entry ih =>
    rw [List.flatMap_append, List.flatMap_singleton]
    exact .written entry.1 entry.2 ih

/-- The tokens of one tree, before those of the rest. -/
theorem spells_nodeSpelling {rest : Forest Content} {inner : List Token} (opened : List String)
    (hc : c.ArrangedOver kids) (hinner : ∀ opened, Spells opened kids inner)
    (hrest : Spells opened rest tokens) :
    Spells opened (.node c kids rest) (nodeSpelling inner c ++ tokens) := by
  cases c with
  | text s =>
    obtain ⟨-, rfl⟩ := hc
    have hpieces := spellsText_textTokens opened s.toList
    rw [String.ofList_toList] at hpieces
    exact .text hpieces hrest
  | comment s =>
    obtain rfl : kids = .nil := hc
    exact .comment s hrest
  | fragment | shadowRoot => exact absurd hc id
  | element e =>
    have hattributes := spellsAttributes_attributeTokens e.attributes.entries
    simp only [nodeSpelling]
    by_cases he : e.isVoid = true
    · obtain rfl := hc.1 he
      have hspells := @Spells.childless opened rest e _ tokens false hattributes he hrest
      simpa [he, startTokens] using hspells
    · rw [Bool.not_eq_true] at he
      have hspells := Spells.element hattributes he (hinner _) hrest
      simpa [he, startTokens] using hspells

/-- These tokens are one of the spellings. -/
theorem spells_spelling (hg : Arranged g) (opened : List String) :
    Spells opened g (spelling g) := by
  induction g generalizing opened with
  | nil => exact .nil
  | node c kids rest ihKids ihRest =>
    obtain ⟨hc, hkids, hrest, -⟩ := arranged_node hg
    exact spells_nodeSpelling opened hc (ihKids hkids) (ihRest hrest opened)

/-- **Arranged trees as markup makes them are built from the tokens that spell them out.** -/
theorem build_spelling (hg : Arranged g) (hfresh : FreshTrees g) : build (spelling g) = g :=
  build_of_spellsOpen (.closed (spells_spelling hg [])) hg hfresh

end LiveMarkup.Markup
