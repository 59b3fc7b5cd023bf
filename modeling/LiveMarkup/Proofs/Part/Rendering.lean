/-
What a template makes of a tree, as a map over its nodes.

Nothing here looks at a document.  A text has its markers replaced.  An attribute is
left alone, written again, taken out in favour of a property, or taken out in favour of a
listener (`Fate`), and an element is what is left of its attributes together with the
properties they became (`Element.rendered`).

`rewrite_of?` says that the part of a node does just this to the node, and
`rendered_of_none` that a node without a part would not change.  So rendering
a tree is `Content.rendered` on each of its nodes.

Values come twice, as they do for parts: the first decide what becomes a listener, the
last what is shown.  `Content.rendered_congr` says how little of either matters.
-/
import LiveMarkup.Proofs.Part.Discovery

namespace LiveMarkup

open Marker (replaced isMarker isPropertyBinding)

variable {L H : Type}

/-- What becomes of an attribute. -/
inductive Fate (H : Type) where
  /-- It is left as it is. -/
  | untouched
  /-- It gets another value. -/
  | rewritten (text : String)
  /-- It is taken out, and a property is written. -/
  | property (name text : String)
  /-- It is taken out, and a listener is added. -/
  | listener (handler : H)

namespace Fate

/-- The first handler among the slots that a text names. -/
def handlerIn? (values : List (Value H)) (text : String) : Option H :=
  (replaced text).findSome? fun index => (values[index]?).bind Value.handler?

/-- What becomes of an attribute: it is touched if it has a marker in its value or brackets
around its name, and a handler in one of its slots goes before all else. -/
def ofAttribute (first values : List (Value H)) (name value : String) : Fate H :=
  if Binding.isBound name value then
    match handlerIn? first value with
    | some h => listener h
    | none =>
      let text := Marker.substitute value (Binding.shown values)
      if isPropertyBinding name then property (Marker.cleanName name) text else rewritten text
  else untouched

/-- The attribute afterwards, if there is one. -/
def attribute? (name value : String) : Fate H → Option (String × String)
  | untouched => some (name, value)
  | rewritten text => some (name, text)
  | property _ _ | listener _ => none

/-- The property that is written. -/
def property? : Fate H → Option (String × String)
  | property name text => some (name, text)
  | untouched | rewritten _ | listener _ => none

/-- The listener that is added, for an attribute called `name`. -/
def listener? (context : Context L H) (name : String) : Fate H → Option (Registration L)
  | listener h => some ⟨Marker.eventName name, context.listener h⟩
  | untouched | rewritten _ | property _ _ => none

theorem ofAttribute_of_not_isBound {name value : String} (h : Binding.isBound name value = false)
    (first values : List (Value H)) : ofAttribute first values name value = untouched := by
  simp [ofAttribute, h]

theorem ofAttribute_of_handler {first : List (Value H)} {name value : String} {handler : H}
    (h : Binding.isBound name value = true) (hhandler : handlerIn? first value = some handler)
    (values : List (Value H)) :
    ofAttribute first values name value = listener handler := by
  simp [ofAttribute, h, hhandler]

theorem ofAttribute_of_silent {first : List (Value H)} {name value : String}
    (h : Binding.isBound name value = true) (hsilent : handlerIn? first value = none)
    (values : List (Value H)) :
    ofAttribute first values name value =
      if isPropertyBinding name then
        property (Marker.cleanName name) (Marker.substitute value (Binding.shown values))
      else rewritten (Marker.substitute value (Binding.shown values)) := by
  simp [ofAttribute, h, hsilent]

end Fate

/-- An element with its attributes as the values make them. -/
def Element.rendered (first values : List (Value H)) (e : Element) : Element :=
  { e with
    attributes := ⟨e.attributes.entries.filterMap fun entry =>
      (Fate.ofAttribute first values entry.1 entry.2).attribute? entry.1 entry.2⟩
    properties := e.properties.insertAll (e.attributes.entries.filterMap fun entry =>
      (Fate.ofAttribute first values entry.1 entry.2).property?) }

namespace Content

/-- What the values make of a node. -/
def rendered (first values : List (Value H)) : Content → Content
  | .text s => .text (Marker.substitute s (ContentPart.shown values))
  | .element e => .element (e.rendered first values)
  | .fragment => .fragment
  | .comment s => .comment s
  | .shadowRoot => .shadowRoot

/-- The listeners that the node gets, in the order of its attributes. -/
def listeners (context : Context L H) (values : List (Value H)) : Content → List (Registration L)
  | .element e => e.attributes.entries.filterMap fun entry =>
      (Fate.ofAttribute values values entry.1 entry.2).listener? context entry.1
  | .fragment | .text _ | .comment _ | .shadowRoot => []

end Content

/-! ### Bound attributes and their fates -/

namespace AttributePart

variable (first values : List (Value H)) (entries : List (String × String))

theorem handler?_ofMarked (name value : String) :
    (Binding.ofMarked name value).handler? first = Fate.handlerIn? first value := rfl

theorem isProperty_ofMarked (name value : String) :
    (Binding.ofMarked name value).isProperty = isPropertyBinding name := rfl

theorem cleanName_ofMarked (name value : String) :
    (Binding.ofMarked name value).cleanName = Marker.cleanName name := rfl

theorem text_ofMarked (name value : String) :
    (Binding.ofMarked name value).text values =
      Marker.substitute value (Binding.shown values) := rfl

/-- The edit of an attribute, if it is bound. -/
def editOf? (entry : String × String) : Option (Option String) :=
  if Binding.isBound entry.1 entry.2 then
    some ((Binding.ofMarked entry.1 entry.2).attributeEdit first values)
  else none

theorem attributeEdits_boundEntries :
    attributeEdits first values (boundEntries entries) =
      entries.filterMap fun entry =>
        (editOf? first values entry).map fun new => (entry.1, new) := by
  unfold attributeEdits boundEntries
  rw [List.map_map, ← List.filterMap_eq_map, List.filterMap_filter]
  refine List.filterMap_congr fun entry _ => ?_
  unfold editOf?
  split <;> rfl

theorem attribute?_ofAttribute (entry : String × String) :
    (Fate.ofAttribute first values entry.1 entry.2).attribute? entry.1 entry.2 =
      match editOf? first values entry with
      | none => some entry
      | some new => new.map fun text => (entry.1, text) := by
  obtain ⟨name, value⟩ := entry
  unfold editOf?
  cases hbound : Binding.isBound name value with
  | false => rw [Fate.ofAttribute_of_not_isBound hbound]; rfl
  | true =>
    cases hhandler : Fate.handlerIn? first value with
    | some h =>
      rw [Fate.ofAttribute_of_handler hbound hhandler]
      simp [Binding.attributeEdit, handler?_ofMarked, hhandler, Fate.attribute?]
    | none =>
      rw [Fate.ofAttribute_of_silent hbound hhandler]
      cases hproperty : isPropertyBinding name <;>
        simp [Binding.attributeEdit, handler?_ofMarked, hhandler, isProperty_ofMarked, hproperty,
          text_ofMarked, Fate.attribute?]

theorem propertyEntries_boundEntries :
    propertyEntries first values (boundEntries entries) =
      entries.filterMap fun entry =>
        (Fate.ofAttribute first values entry.1 entry.2).property? := by
  unfold propertyEntries boundEntries
  rw [List.filterMap_map, List.filterMap_filter]
  refine List.filterMap_congr fun entry _ => ?_
  obtain ⟨name, value⟩ := entry
  cases hbound : Binding.isBound name value with
  | false => rw [Fate.ofAttribute_of_not_isBound hbound]; rfl
  | true =>
    cases hhandler : Fate.handlerIn? first value with
    | some h =>
      rw [Fate.ofAttribute_of_handler hbound hhandler]
      simp [Binding.propertyOf?, handler?_ofMarked, hhandler, Fate.property?]
    | none =>
      rw [Fate.ofAttribute_of_silent hbound hhandler]
      cases hproperty : isPropertyBinding name <;>
        simp [Binding.propertyOf?, handler?_ofMarked, hhandler, isProperty_ofMarked, hproperty,
          text_ofMarked, cleanName_ofMarked, Fate.property?]

theorem registrations_boundEntries (context : Context L H) :
    registrations context values (boundEntries entries) =
      entries.filterMap fun entry =>
        (Fate.ofAttribute values values entry.1 entry.2).listener? context entry.1 := by
  unfold registrations boundEntries
  rw [List.filterMap_map, List.filterMap_filter]
  refine List.filterMap_congr fun entry _ => ?_
  obtain ⟨name, value⟩ := entry
  cases hbound : Binding.isBound name value with
  | false => rw [Fate.ofAttribute_of_not_isBound hbound]; rfl
  | true =>
    cases hhandler : Fate.handlerIn? values value with
    | some h =>
      rw [Fate.ofAttribute_of_handler hbound hhandler]
      simp [handler?_ofMarked, hhandler, Fate.listener?]
    | none =>
      rw [Fate.ofAttribute_of_silent hbound hhandler]
      cases hproperty : isPropertyBinding name <;>
        simp [handler?_ofMarked, hhandler, Fate.listener?]

/-- **Writing the bound attributes in place is mapping the attributes.** -/
theorem rewrite_boundEntries {e : Element} (he : e.attributes.Distinct) :
    rewrite first values (boundEntries e.attributes.entries) e = e.rendered first values := by
  have hedit : e.attributes.edit (attributeEdits first values (boundEntries e.attributes.entries)) =
      ⟨e.attributes.entries.filterMap fun entry =>
        (Fate.ofAttribute first values entry.1 entry.2).attribute? entry.1 entry.2⟩ := by
    rw [attributeEdits_boundEntries]
    refine (OrderedMap.edit_filterMap he (editOf? first values)).trans ?_
    congr 1
    refine List.filterMap_congr fun entry _ => ?_
    rw [attribute?_ofAttribute]
    cases editOf? first values entry <;> rfl
  unfold rewrite Element.rendered
  rw [hedit, propertyEntries_boundEntries]

end AttributePart

theorem Content.Proper.rendered {c : Content} (hc : c.Proper) (first values : List (Value H)) :
    (c.rendered first values).Proper := by
  cases c with
  | fragment | text | comment | shadowRoot => trivial
  | element e =>
    show (Content.element (e.rendered first values)).Proper
    rw [← AttributePart.rewrite_boundEntries first values hc.1]
    exact ⟨hc.1.edit _, hc.2.insertAll _⟩

/-! ### Parts and what they make of their nodes -/

namespace Part

variable {id : NodeId} {c : Content} {p : Part}

/-- **The part of a node makes of it what the map makes of it.** -/
theorem rewrite_of? (hc : c.Proper) (h : of? id c = some p)
    (first values : List (Value H)) : p.rewrite first values c = c.rendered first values := by
  cases c with
  | fragment | comment | shadowRoot => cases h
  | text s =>
    simp only [of?, Option.ite_none_right_eq_some, Option.some.injEq] at h
    rw [← h.2]
    rfl
  | element e =>
    simp only [of?, Option.ite_none_left_eq_some, Option.some.injEq] at h
    rw [← h.2]
    exact congrArg Content.element (AttributePart.rewrite_boundEntries first values hc.1)

theorem registrations_of? (h : of? id c = some p) (context : Context L H)
    (values : List (Value H)) : p.registrations context values = c.listeners context values := by
  cases c with
  | fragment | comment | shadowRoot => cases h
  | text s =>
    simp only [of?, Option.ite_none_right_eq_some, Option.some.injEq] at h
    rw [← h.2]
    rfl
  | element e =>
    simp only [of?, Option.ite_none_left_eq_some, Option.some.injEq] at h
    rw [← h.2]
    exact AttributePart.registrations_boundEntries values _ context

/-- An element without bound attributes is the same afterwards. -/
theorem rendered_of_boundEntries_nil {e : Element} (he : e.attributes.Distinct)
    (h : AttributePart.boundEntries e.attributes.entries = []) (first values : List (Value H)) :
    e.rendered first values = e := by
  rw [← AttributePart.rewrite_boundEntries first values he, h]
  rfl

/-- **A node without a part stays as it is.** -/
theorem rendered_of_none (hc : c.Proper) (h : of? id c = none)
    (first values : List (Value H)) : c.rendered first values = c := by
  cases c with
  | fragment | comment | shadowRoot => rfl
  | text s =>
    have hmarker : isMarker s = false := by simpa [of?] using h
    exact congrArg Content.text (Marker.substitute_of_not_isMarker hmarker _)
  | element e =>
    have hempty : AttributePart.boundEntries e.attributes.entries = [] := by simpa [of?] using h
    exact congrArg Content.element (rendered_of_boundEntries_nil hc.1 hempty first values)

theorem listeners_of_none (h : of? id c = none) (context : Context L H)
    (values : List (Value H)) : c.listeners context values = [] := by
  cases c with
  | fragment | text | comment | shadowRoot => rfl
  | element e =>
    have hempty : AttributePart.boundEntries e.attributes.entries = [] := by simpa [of?] using h
    show e.attributes.entries.filterMap _ = []
    rw [← AttributePart.registrations_boundEntries, hempty]
    rfl

end Part

/-! ### What of the values matters -/

/-- Whether a slot holds a handler. -/
def holdsHandler (values : List (Value H)) (slot : Nat) : Bool :=
  ((values[slot]?).bind Value.handler?).isSome

/-- Two lists of values that show the same in some slots, in texts and in attributes. -/
structure ShowAlike (slots : List Nat) (values values' : List (Value H)) : Prop where
  texts : ∀ index ∈ slots, ContentPart.shown values index = ContentPart.shown values' index
  attributes : ∀ index ∈ slots, Binding.shown values index = Binding.shown values' index

theorem isSome_handlerIn? (values : List (Value H)) (text : String) :
    (Fate.handlerIn? values text).isSome = true ↔
      ∃ index ∈ replaced text, holdsHandler values index = true := by
  unfold Fate.handlerIn? holdsHandler
  rw [List.findSome?_isSome_iff]

/-- **Of the first values only the places of the handlers matter, and of the last only what
they show.** -/
theorem Content.rendered_congr {first first' values values' : List (Value H)} {c : Content}
    (hfirst : ∀ index ∈ c.slotsRead, holdsHandler first index = holdsHandler first' index)
    (hvalues : ShowAlike c.slotsRead values values') :
    c.rendered first values = c.rendered first' values' := by
  cases c with
  | fragment | comment | shadowRoot => rfl
  | text s =>
    refine congrArg Content.text (Marker.substitute_congr fun index hindex => ?_)
    exact hvalues.texts index (List.mem_flatMap.2 ⟨s, List.mem_singleton_self s, hindex⟩)
  | element e =>
    have hfates : ∀ entry ∈ e.attributes.entries,
        (Fate.ofAttribute first values entry.1 entry.2).attribute? entry.1 entry.2 =
            (Fate.ofAttribute first' values' entry.1 entry.2).attribute? entry.1 entry.2 ∧
          (Fate.ofAttribute first values entry.1 entry.2).property? =
            (Fate.ofAttribute first' values' entry.1 entry.2).property? := by
      intro entry hentry
      have hread : ∀ index ∈ replaced entry.2, index ∈ (Content.element e).slotsRead :=
        fun index hindex =>
          List.mem_flatMap.2 ⟨entry.2, List.mem_map_of_mem hentry, hindex⟩
      have htext : Marker.substitute entry.2 (Binding.shown values) =
          Marker.substitute entry.2 (Binding.shown values') :=
        Marker.substitute_congr fun index hindex => hvalues.attributes index (hread index hindex)
      have hhandler : (Fate.handlerIn? first entry.2).isSome =
          (Fate.handlerIn? first' entry.2).isSome := by
        rw [Bool.eq_iff_iff, isSome_handlerIn?, isSome_handlerIn?]
        constructor
        · rintro ⟨index, hindex, hsome⟩
          exact ⟨index, hindex, hfirst index (hread index hindex) ▸ hsome⟩
        · rintro ⟨index, hindex, hsome⟩
          exact ⟨index, hindex, hfirst index (hread index hindex) ▸ hsome⟩
      unfold Fate.ofAttribute
      rw [htext]
      cases hone : Fate.handlerIn? first entry.2 with
      | some h =>
        rw [hone] at hhandler
        obtain ⟨h', hother⟩ := Option.isSome_iff_exists.1 hhandler.symm
        rw [hother]
        split <;> exact ⟨rfl, rfl⟩
      | none =>
        rw [hone] at hhandler
        rw [Option.isSome_eq_false_iff.1 hhandler.symm |> Option.isNone_iff_eq_none.1]
        exact ⟨rfl, rfl⟩
    refine congrArg Content.element ?_
    unfold Element.rendered
    rw [List.filterMap_congr fun entry hentry => (hfates entry hentry).1,
      List.filterMap_congr fun entry hentry => (hfates entry hentry).2]

namespace Part

variable {first values : List (Value H)} {p : Part}

theorem silent_attributes_iff {p : AttributePart} :
    (attributes p).Silent values ↔ ∀ index ∈ p.indices, holdsHandler values index = false := by
  unfold Silent AttributePart.indices holdsHandler Binding.handler?
  simp only [List.mem_flatMap, forall_exists_index, and_imp, List.findSome?_eq_none_iff,
    Option.isSome_eq_false_iff, Option.isNone_iff_eq_none]
  exact ⟨fun h index entry hentry hindex => h entry hentry index hindex,
    fun h entry hentry index hindex => h index entry hentry hindex⟩

/-- A part stays without handlers as long as they come up only in slots that held one. -/
theorem Silent.of_handlers (h : p.Silent first)
    (hhandlers : ∀ index ∈ p.indices,
      holdsHandler values index = true → holdsHandler first index = true) : p.Silent values := by
  cases p with
  | content p => trivial
  | attributes p =>
    refine silent_attributes_iff.2 fun index hindex => ?_
    have hfirst := silent_attributes_iff.1 h index hindex
    rw [← Bool.not_eq_true] at hfirst ⊢
    exact fun hvalues => hfirst (hhandlers index hindex hvalues)

theorem indices_kept_subset (values : List (Value H)) (p : Part) :
    (p.kept values).indices ⊆ p.indices := by
  cases p with
  | content p => exact List.Subset.refl _
  | attributes p =>
    intro index hindex
    obtain ⟨entry, hentry, hmem⟩ := List.mem_flatMap.1 hindex
    exact List.mem_flatMap.2 ⟨entry, (AttributePart.mem_kept.1 hentry).1, hmem⟩

theorem silent_kept_of_handlers
    (h : ∀ index ∈ p.indices, holdsHandler values index = true → holdsHandler first index = true) :
    (p.kept first).Silent values :=
  (silent_kept first p).of_handlers fun index hindex => h index (indices_kept_subset first p hindex)

end Part

end LiveMarkup
