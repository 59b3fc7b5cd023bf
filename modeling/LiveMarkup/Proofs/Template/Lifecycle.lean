/-
The life of a template.

The calls of a template come in any order, some of them fail, and the document changes in
between (`Request`).  Whatever happened, a template is in one of two states.  Until a render
has gone through it has the values it was made with and refuses updates.  From then on it
refuses to be rendered or materialized, and has the values of the last update.  There is no
way back, so a template is rendered at most once.

Compiling, materializing and rendering change nothing of a template but its stage, and leave
it with the markup that compiling gives (`Restaged`).  That is all that has to be known of
them here, whether they go through or fail at discovery, at a write or at the mount point.
-/
import LiveMarkup.Proofs.Template.FirstRender
import LiveMarkup.Proofs.Template.SparseUpdate

namespace LiveMarkup

namespace Template

variable {L H : Type}

/-! ### Requests -/

/-- What can be asked of a template, and what else can happen to its document meanwhile. -/
inductive Request (L H : Type) where
  | compile
  | materialize
  | render (context : Context L H) (mount : Option NodeId)
  | update (values : List (Value H))
  | updateSlots (values : List (Value H)) (changed : List Nat)
  | elsewhere (change : Document L → Document L)

namespace Request

/-- What a request leaves behind, and why it was refused or stopped. -/
def run (s : Template L H × Document L) :
    Request L H → Attempt TemplateError (Template L H × Document L)
  | compile => .done (s.1.compile.1, s.2)
  | materialize =>
    match s.1.materialize s.2 with
    | (s', .ok _) => .done s'
    | (s', .error e) => .stop s' e
  | render context mount => s.1.render s.2 context mount
  | update values => s.1.update s.2 values
  | updateSlots values changed => s.1.updateSlots s.2 values changed
  | elsewhere change => .done (s.1, change s.2)

/-- The values that an update brings. -/
def values? : Request L H → Option (List (Value H))
  | update values | updateSlots values _ => some values
  | _ => none

/-- Whether this asks for a render. -/
def isRender : Request L H → Bool
  | render _ _ => true
  | _ => false

/-- Whether this asks for the tree to be made. -/
def makesTree : Request L H → Bool
  | materialize | render _ _ => true
  | _ => false

end Request

/-- The state after some requests, whichever of them failed. -/
def after (s : Template L H × Document L) (requests : List (Request L H)) :
    Template L H × Document L :=
  requests.foldl (fun s r => (r.run s).state) s

theorem after_append (s : Template L H × Document L) (before behind : List (Request L H)) :
    after s (before ++ behind) = after (after s before) behind :=
  List.foldl_append

theorem after_concat (s : Template L H × Document L) (before : List (Request L H))
    (r : Request L H) : after s (before ++ [r]) = (r.run (after s before)).state :=
  List.foldl_concat _ _ _ _

/-- After the requests `before`, `r` is a render that goes through. -/
def Renders (s : Template L H × Document L) (before : List (Request L H)) (r : Request L H) :
    Prop :=
  r.isRender = true ∧ (r.run (after s before)).stopped = none

/-- Some render among the requests went through. -/
def RenderedIn (s : Template L H × Document L) (requests : List (Request L H)) : Prop :=
  ∃ before r behind, requests = before ++ r :: behind ∧ Renders s before r

/-! ### What making the tree does to a template -/

section

variable {t t₁ t₂ : Template L H} {d : Document L}

/-- Only the stage is another one, and the markup is what compiling gives. -/
structure Restaged (t t' : Template L H) : Prop where
  eq : t' = { t with stage := t'.stage }
  markup : t'.markup? = some t.compile.2

theorem compile_eq_of_markup? {markup : String} (h : t.markup? = some markup) :
    t.compile = (t, markup) := by
  unfold compile
  rw [h]

theorem Restaged.trans (h₁ : Restaged t t₁) (h₂ : Restaged t₁ t₂) : Restaged t t₂ where
  eq := by
    rw [h₂.eq, h₁.eq]
  markup := by
    rw [h₂.markup, compile_eq_of_markup? h₁.markup]

/-- Compiling again gives the same markup, whatever stage was put in the place of this. -/
theorem Restaged.of_stage {markup : String} {stage : Stage L H} (h : t.markup? = some markup)
    (hstage : stage.markup? = some markup) : Restaged t { t with stage } where
  eq := rfl
  markup := by
    rw [compile_eq_of_markup? h]
    exact hstage

theorem restaged_compile (t : Template L H) : Restaged t t.compile.1 := by
  cases hmarkup : t.markup? with
  | some markup =>
    rw [compile_eq_of_markup? hmarkup]
    exact .of_stage hmarkup hmarkup
  | none =>
    have hcompile : t.compile =
        ({ t with stage := .compiled (annotate t.strings t.values) },
          annotate t.strings t.values) := by
      unfold compile
      rw [hmarkup]
    rw [hcompile]
    exact ⟨rfl, by rw [hcompile]; rfl⟩

theorem restaged_materialize (t : Template L H) (d : Document L) :
    Restaged t (t.materialize d).1.1 := by
  have hcompile := restaged_compile t
  unfold materialize
  split
  next t' markup heq =>
    rw [heq] at hcompile
    obtain rfl : t.compile.2 = markup := congrArg Prod.snd heq
    split
    · exact hcompile
    · exact hcompile
    · exact hcompile.trans (.of_stage hcompile.markup rfl)
    · exact hcompile.trans (.of_stage hcompile.markup rfl)

theorem restaged_discard {markup : String} (h : t.markup? = some markup) (fragment : NodeId)
    (d : Document L) (e : TemplateError) : Restaged t (t.discard markup fragment d e).state.1 := by
  have hback : Restaged t { t with stage := .compiled markup } := .of_stage h rfl
  unfold discard
  simp only
  split
  · exact hback
  · exact hback

/-- **A render changes nothing of the template but its stage**, whether it goes through or
not. -/
theorem restaged_render (t : Template L H) (d : Document L) (context : Context L H)
    (mount : Option NodeId) : Restaged t (t.render d context mount).state.1 := by
  unfold render
  split
  · next hrendered =>
    unfold isRendered rendered? at hrendered
    cases hstage : t.stage with
    | uncompiled | compiled | materialized => rw [hstage] at hrendered; cases hrendered
    | rendered markup tree =>
      have hmarkup : t.markup? = some markup := congrArg Stage.markup? hstage
      exact .of_stage hmarkup hmarkup
  · have hmade := restaged_materialize t d
    split
    · next state e heq =>
      rw [heq] at hmade
      exact hmade
    · next t₁ d₁ fragment heq =>
      rw [heq] at hmade
      have hmarkup : t₁.markup? = some t₁.compile.2 := by
        rw [hmade.markup, compile_eq_of_markup? hmade.markup]
      simp only
      split
      · exact hmade.trans (restaged_discard hmarkup _ _ _)
      · split
        · exact hmade
        · exact hmade.trans (.of_stage hmarkup rfl)

theorem isRendered_compile (t : Template L H) : t.compile.1.isRendered = t.isRendered := by
  unfold compile
  split
  · rfl
  · next hmarkup =>
    cases t with
    | mk strings values previous slots stage =>
      cases stage with
      | uncompiled => rfl
      | compiled | materialized | rendered => cases hmarkup

theorem isRendered_materialize (t : Template L H) (d : Document L) :
    (t.materialize d).1.1.isRendered = t.isRendered := by
  rw [← isRendered_compile t]
  unfold materialize
  split
  next t' markup heq =>
    rw [heq]
    split
    · rfl
    · rfl
    all_goals next hstage => simp only [isRendered, rendered?, hstage, Stage.rendered?]

/-- **A template is rendered when a render went through, and by nothing else.** -/
theorem isRendered_render (t : Template L H) (d : Document L) (context : Context L H)
    (mount : Option NodeId) (ht : t.isRendered = false) :
    (t.render d context mount).state.1.isRendered =
      (t.render d context mount).stopped.isNone := by
  have hmade := isRendered_materialize t d
  unfold render
  rw [if_neg (by rw [ht]; exact Bool.false_ne_true)]
  split
  · next state e heq =>
    rw [heq] at hmade
    exact hmade.trans ht
  · next t₁ d₁ fragment heq =>
    rw [heq] at hmade
    simp only
    split
    · rw [isRendered_discard]
      unfold discard
      simp only
      split <;> rfl
    · split
      · exact hmade.trans ht
      · rfl

theorem exists_stage_of_isRendered (ht : t.isRendered = true) :
    ∃ markup tree, t.stage = .rendered markup tree := by
  unfold isRendered rendered? at ht
  cases hstage : t.stage with
  | uncompiled | compiled | materialized => rw [hstage] at ht; cases ht
  | rendered markup tree => exact ⟨markup, tree, rfl⟩

theorem updateWith_of_not_isRendered (ht : t.isRendered = false) (d : Document L)
    (chosen : Registry → Nat → Bool) (values : List (Value H)) :
    t.updateWith chosen d values = .stop (t, d) .notRendered := by
  unfold isRendered rendered? at ht
  unfold updateWith
  cases hstage : t.stage with
  | uncompiled | compiled | materialized => rfl
  | rendered markup tree => rw [hstage] at ht; cases ht

/-- **An update that fails has adopted its values all the same.** -/
theorem updateWith_of_isRendered (ht : t.isRendered = true) (d : Document L)
    (chosen : Registry → Nat → Bool) (values : List (Value H)) :
    ∃ stage, (t.updateWith chosen d values).state.1 =
        { t with values, previous := some t.values, stage } ∧
      stage.markup? = t.markup? ∧ stage.rendered?.isSome = true := by
  obtain ⟨markup, tree, hstage⟩ := exists_stage_of_isRendered ht
  rw [updateWith_eq hstage]
  exact ⟨_, rfl, (congrArg Stage.markup? hstage).symm, rfl⟩

end

/-! ### One request -/

section

variable {s : Template L H × Document L} {r : Request L H} {values : List (Value H)}

theorem Request.state_run_materialize (s : Template L H × Document L) :
    (Request.materialize.run s).state = (s.1.materialize s.2).1 := by
  show (match s.1.materialize s.2 with
    | (s', .ok _) => .done s'
    | (s', .error e) => .stop s' e : Attempt TemplateError _).state = _
  split
  all_goals next heq => rw [heq]; rfl

/-- What a request leaves of the template when it is no update. -/
theorem Request.run_of_values?_eq_none (hr : r.values? = none) :
    (r.run s).state.1 = s.1 ∨ Restaged s.1 (r.run s).state.1 := by
  cases r with
  | compile => exact Or.inr (restaged_compile s.1)
  | materialize =>
    rw [state_run_materialize]
    exact Or.inr (restaged_materialize s.1 s.2)
  | render context mount => exact Or.inr (restaged_render s.1 s.2 context mount)
  | update | updateSlots => cases hr
  | elsewhere change => exact Or.inl rfl

theorem Request.exists_updateWith (hr : r.values? = some values) :
    ∃ chosen, r.run s = s.1.updateWith chosen s.2 values := by
  cases r with
  | compile | materialize | render | elsewhere => cases hr
  | update given =>
    cases hr
    exact ⟨fun _ _ => true, rfl⟩
  | updateSlots given changed =>
    cases hr
    exact ⟨fun registry => registry.concerns changed, rfl⟩

/-- **Before the render, updates are refused.** -/
theorem Request.run_update_of_not_isRendered (hs : s.1.isRendered = false)
    (hr : r.values? = some values) : r.run s = .stop s .notRendered := by
  obtain ⟨chosen, hrun⟩ := exists_updateWith (s := s) hr
  rw [hrun]
  exact updateWith_of_not_isRendered hs s.2 chosen values

/-- **After the render, the tree is not made again.** -/
theorem Request.run_of_isRendered (hs : s.1.isRendered = true) (hr : r.makesTree = true) :
    r.run s = .stop s .alreadyRendered := by
  cases r with
  | compile | update | updateSlots | elsewhere => cases hr
  | materialize =>
    obtain ⟨markup, tree, hstage⟩ := exists_stage_of_isRendered hs
    have hmarkup : s.1.markup? = some markup := congrArg Stage.markup? hstage
    have hmade : s.1.materialize s.2 = (s, .error .alreadyRendered) := by
      unfold Template.materialize
      rw [compile_eq_of_markup? hmarkup]
      simp only [hstage]
    unfold run
    rw [hmade]
  | render context mount =>
    change s.1.render s.2 context mount = _
    unfold Template.render
    rw [if_pos hs]

theorem Request.isRendered_run (s : Template L H × Document L) (r : Request L H) :
    (r.run s).state.1.isRendered =
      (s.1.isRendered || (r.isRender && (r.run s).stopped.isNone)) := by
  cases hs : s.1.isRendered with
  | true =>
    cases hr : r.values? with
    | some values =>
      obtain ⟨chosen, hrun⟩ := exists_updateWith (s := s) hr
      obtain ⟨stage, hstate, -, hrendered⟩ := updateWith_of_isRendered hs s.2 chosen values
      rw [hrun, hstate]
      exact hrendered
    | none =>
      cases hmakes : r.makesTree with
      | true =>
        rw [run_of_isRendered hs hmakes]
        exact hs
      | false =>
        cases r with
        | compile => exact (isRendered_compile s.1).trans hs
        | elsewhere change => exact hs
        | materialize | render => cases hmakes
        | update | updateSlots => cases hr
  | false =>
    cases r with
    | compile => exact (isRendered_compile s.1).trans hs
    | materialize =>
      rw [state_run_materialize]
      exact (isRendered_materialize s.1 s.2).trans hs
    | render context mount => exact isRendered_render s.1 s.2 context mount hs
    | update | updateSlots => rw [run_update_of_not_isRendered hs rfl]; exact hs
    | elsewhere change => exact hs

/-- Markup that is there stays. -/
theorem Request.markup?_run {markup : String} (hs : s.1.markup? = some markup)
    (r : Request L H) : (r.run s).state.1.markup? = some markup := by
  cases hr : r.values? with
  | none =>
    rcases run_of_values?_eq_none (s := s) hr with heq | hrestaged
    · rw [heq, hs]
    · rw [hrestaged.markup, compile_eq_of_markup? hs]
  | some values =>
    cases hrendered : s.1.isRendered with
    | false =>
      rw [run_update_of_not_isRendered hrendered hr]
      exact hs
    | true =>
      obtain ⟨chosen, hrun⟩ := exists_updateWith (s := s) hr
      obtain ⟨stage, hstate, hstage, -⟩ := updateWith_of_isRendered hrendered s.2 chosen values
      rw [hrun, hstate]
      exact hstage.trans hs

end

/-! ### Runs -/

/-- What stays of a template that was made from `strings` and `values`. -/
structure Made (strings : List String) (values : List (Value H)) (t : Template L H) : Prop where
  strings_eq : t.strings = strings
  slots_eq : t.slots = values.length
  markup : ∀ markup, t.markup? = some markup → markup = annotate strings values
  /-- Until it is rendered, its values are the first ones. -/
  unused : t.isRendered = false → t.values = values ∧ t.previous = none

section

variable {strings : List String} {values : List (Value H)} {s : Template L H × Document L}

theorem made_ofStrings (strings : List String) (values : List (Value H)) :
    Made strings values (ofStrings strings values : Template L H) where
  strings_eq := rfl
  slots_eq := rfl
  markup _ h := by cases h
  unused _ := ⟨rfl, rfl⟩

/-- A template that has no markup yet is not rendered either. -/
theorem isRendered_of_markup?_eq_none {t : Template L H} (h : t.markup? = none) :
    t.isRendered = false := by
  unfold markup? at h
  unfold isRendered rendered?
  cases hstage : t.stage with
  | uncompiled => rfl
  | compiled | materialized | rendered => rw [hstage] at h; cases h

theorem Made.compile_eq {t : Template L H} (h : Made strings values t) :
    t.compile.2 = annotate strings values := by
  cases hmarkup : t.markup? with
  | some markup =>
    rw [compile_eq_of_markup? hmarkup]
    exact h.markup markup hmarkup
  | none =>
    unfold compile
    rw [hmarkup]
    show annotate t.strings t.values = _
    rw [h.strings_eq, (h.unused (isRendered_of_markup?_eq_none hmarkup)).1]

/-- **Every request keeps what stays of a template.** -/
theorem Made.run (h : Made strings values s.1) (r : Request L H) :
    Made strings values (r.run s).state.1 := by
  cases hr : r.values? with
  | none =>
    rcases Request.run_of_values?_eq_none (s := s) hr with heq | hrestaged
    · rw [heq]
      exact h
    · have hback := Request.isRendered_run s r
      obtain ⟨heq, hmarkup⟩ := hrestaged
      refine ⟨?_, ?_, fun markup hsome => ?_, fun hnot => ?_⟩
      · rw [heq]
        exact h.strings_eq
      · rw [heq]
        exact h.slots_eq
      · rw [hmarkup, h.compile_eq] at hsome
        exact (Option.some.inj hsome).symm
      · rw [hnot] at hback
        have hs : s.1.isRendered = false := (Bool.or_eq_false_iff.1 hback.symm).1
        rw [heq]
        exact h.unused hs
  | some given =>
    cases hs : s.1.isRendered with
    | false =>
      rw [Request.run_update_of_not_isRendered hs hr]
      exact h
    | true =>
      obtain ⟨chosen, hrun⟩ := Request.exists_updateWith (s := s) hr
      obtain ⟨stage, hstate, hmarkup, hrendered⟩ :=
        updateWith_of_isRendered hs s.2 chosen given
      rw [hrun, hstate]
      exact ⟨h.strings_eq, h.slots_eq, fun markup hsome => h.markup markup (hmarkup.symm.trans hsome),
        fun hnot => absurd (hrendered.symm.trans hnot) nofun⟩

theorem Made.after (h : Made strings values s.1) (requests : List (Request L H)) :
    Made strings values (after s requests).1 := by
  induction requests generalizing s with
  | nil => exact h
  | cons r requests ih => exact ih (h.run r)

theorem markup?_after {markup : String} (h : s.1.markup? = some markup)
    (requests : List (Request L H)) : (after s requests).1.markup? = some markup := by
  induction requests generalizing s with
  | nil => exact h
  | cons r requests ih => exact ih (Request.markup?_run h r)

/-- **A template is rendered if and only if one of its renders went through.** -/
theorem isRendered_after_iff (hs : s.1.isRendered = false) (requests : List (Request L H)) :
    (after s requests).1.isRendered = true ↔ RenderedIn s requests := by
  induction requests using List.reverseRecOn with
  | nil =>
    refine ⟨fun h => absurd (hs.symm.trans h) nofun, ?_⟩
    rintro ⟨before, r, behind, heq, -⟩
    cases before <;> cases heq
  | append_singleton requests r ih =>
    rw [after_concat, Request.isRendered_run, Bool.or_eq_true, ih, Bool.and_eq_true,
      Option.isNone_iff_eq_none]
    constructor
    · rintro (⟨before, r', behind, rfl, hgone⟩ | hgone)
      · exact ⟨before, r', behind ++ [r], by simp, hgone⟩
      · exact ⟨requests, r, [], rfl, hgone⟩
    · rintro ⟨before, r', behind, heq, hgone⟩
      rcases List.eq_nil_or_concat behind with rfl | ⟨behind, last, rfl⟩
      · obtain ⟨rfl, hlast⟩ := List.append_inj' heq rfl
        cases hlast
        exact Or.inr hgone
      · rw [List.concat_eq_append, ← List.cons_append, ← List.append_assoc] at heq
        obtain ⟨rfl, -⟩ := List.append_inj' heq rfl
        exact Or.inl ⟨before, r', behind, rfl, hgone⟩

/-- Requests that are no updates leave the values as they are. -/
theorem values_after {requests : List (Request L H)}
    (hrequests : ∀ r ∈ requests, r.values? = none) :
    (after s requests).1.values = s.1.values ∧ (after s requests).1.previous = s.1.previous := by
  induction requests generalizing s with
  | nil => exact ⟨rfl, rfl⟩
  | cons r requests ih =>
    obtain ⟨hr, hrequests⟩ := List.forall_mem_cons.1 hrequests
    obtain ⟨hvalues, hprevious⟩ := ih (s := (r.run s).state) hrequests
    refine ⟨hvalues.trans ?_, hprevious.trans ?_⟩
    all_goals
      rcases Request.run_of_values?_eq_none (s := s) hr with heq | hrestaged
      · rw [heq]
      · rw [hrestaged.eq]

/-- Once there was a render that went through, there is none any longer. -/
theorem not_renders_of_isRendered {before : List (Request L H)}
    (hs : (after s before).1.isRendered = true) (r : Request L H) : ¬Renders s before r := by
  rintro ⟨hrender, hstopped⟩
  have hmakes : r.makesTree = true := by
    cases r with
    | render => rfl
    | compile | materialize | update | updateSlots | elsewhere => cases hrender
  rw [Request.run_of_isRendered hs hmakes] at hstopped
  cases hstopped

end

/-! ### The whole life -/

/-- The life of a template made from `strings` and `values`, in a document that is `d` at
first. -/
structure Lifecycle (strings : List String) (values : List (Value H)) (d : Document L) : Prop where
  /-- Markup is what the strings and the first values give, and stays. -/
  markup : ∀ (requests more : List (Request L H)) (markup : String),
    (after (ofStrings strings values, d) requests).1.markup? = some markup →
      markup = annotate strings values ∧
      (after (ofStrings strings values, d) (requests ++ more)).1.markup? = some markup
  /-- The number of slots stays. -/
  slots : ∀ requests : List (Request L H),
    (after (ofStrings strings values, d) requests).1.slots = values.length
  /-- Before the render, updates are refused, and the values are the first ones. -/
  early : ∀ requests : List (Request L H), ¬RenderedIn (ofStrings strings values, d) requests →
    (after (ofStrings strings values, d) requests).1.values = values ∧
    (after (ofStrings strings values, d) requests).1.previous = none ∧
    ∀ r : Request L H, r.values?.isSome = true →
      r.run (after (ofStrings strings values, d) requests) =
        .stop (after (ofStrings strings values, d) requests) .notRendered
  /-- After it, the tree is not made again. -/
  late : ∀ requests : List (Request L H), RenderedIn (ofStrings strings values, d) requests →
    ∀ r : Request L H, r.makesTree = true →
      r.run (after (ofStrings strings values, d) requests) =
        .stop (after (ofStrings strings values, d) requests) .alreadyRendered
  /-- One render goes through at most. -/
  once : ∀ (before between : List (Request L H)) (r r' : Request L H),
    Renders (ofStrings strings values, d) before r →
      ¬Renders (ofStrings strings values, d) (before ++ r :: between) r'
  /-- Until the first update after it, the values are the first ones. -/
  rendered : ∀ (before behind : List (Request L H)) (r : Request L H),
    Renders (ofStrings strings values, d) before r → (∀ r' ∈ behind, r'.values? = none) →
      (after (ofStrings strings values, d) (before ++ r :: behind)).1.values = values ∧
      (after (ofStrings strings values, d) (before ++ r :: behind)).1.previous = none
  /-- From then on they are those of the last update, also when it failed, and the values
  before it are kept. -/
  updated : ∀ (before behind : List (Request L H)) (r : Request L H) (given : List (Value H)),
    RenderedIn (ofStrings strings values, d) before → r.values? = some given →
      (∀ r' ∈ behind, r'.values? = none) →
      (after (ofStrings strings values, d) (before ++ r :: behind)).1.values = given ∧
      (after (ofStrings strings values, d) (before ++ r :: behind)).1.previous =
        some (after (ofStrings strings values, d) before).1.values

/-- **Every template has such a life**, whatever it is asked for and whatever happens to the
document. -/
theorem lifecycle (strings : List String) (values : List (Value H)) (d : Document L) :
    Lifecycle strings values d := by
  have hmade (requests : List (Request L H)) :=
    (made_ofStrings (L := L) strings values).after (s := (_, d)) requests
  have hrendered (requests : List (Request L H)) :=
    isRendered_after_iff (s := (ofStrings strings values, d)) rfl requests
  refine
    { markup := fun requests more markup h => ⟨(hmade requests).markup markup h, ?_⟩
      slots := fun requests => (hmade requests).slots_eq
      early := fun requests hnot => ?_
      late := fun requests h r hr => Request.run_of_isRendered ((hrendered requests).2 h) hr
      once := fun before between r r' h h' => ?_
      rendered := fun before behind r h hbehind => ?_
      updated := fun before behind r given h hr hbehind => ?_ }
  · rw [after_append]
    exact markup?_after h more
  · have hs := Bool.eq_false_iff.2 fun h => hnot ((hrendered requests).1 h)
    obtain ⟨hvalues, hprevious⟩ := (hmade requests).unused hs
    refine ⟨hvalues, hprevious, fun r hr => ?_⟩
    obtain ⟨given, hgiven⟩ := Option.isSome_iff_exists.1 hr
    exact Request.run_update_of_not_isRendered hs hgiven
  · exact not_renders_of_isRendered ((hrendered _).2 ⟨before, r, between, rfl, h⟩) r' h'
  · have hwaiting : (after (ofStrings strings values, d) before).1.isRendered = false :=
      Bool.eq_false_iff.2 fun hs => not_renders_of_isRendered hs r h
    have hr : r.values? = none := by
      cases r with
      | render => rfl
      | compile | materialize | update | updateSlots | elsewhere => exact absurd h.1 nofun
    obtain ⟨hvalues, hprevious⟩ := (hmade before).unused hwaiting
    obtain ⟨hsame, hsame'⟩ := values_after (s := after (ofStrings strings values, d) before)
      (List.forall_mem_cons.2 ⟨hr, hbehind⟩)
    rw [after_append]
    exact ⟨hsame.trans hvalues, hsame'.trans hprevious⟩
  · obtain ⟨chosen, hrun⟩ :=
      Request.exists_updateWith (s := after (ofStrings strings values, d) before) hr
    obtain ⟨stage, hstate, -⟩ :=
      updateWith_of_isRendered ((hrendered before).2 h) (after _ before).2 chosen given
    obtain ⟨hsame, hsame'⟩ :=
      values_after (s := (r.run (after (ofStrings strings values, d) before)).state) hbehind
    rw [after_append]
    refine ⟨hsame.trans ?_, hsame'.trans ?_⟩
    · rw [hrun, hstate]
    · rw [hrun, hstate]

/-- A greeting is updated too early, is rendered, and then loses its nodes. -/
def sampleLife : List (Request Nat Nat) :=
  [.update [.handler 9, .text "Bob"], .materialize, .render ⟨⟨0⟩, id⟩ none,
    .elsewhere fun d => (d.remove ⟨2⟩).toOption.getD d]

/-- Its last update fails, but its values are the new ones, and it cannot be rendered again. -/
theorem lifecycle_sampleLife :
    ((Request.update [.handler 9, .text "Bob"]).run
      (after (sampleGreeting, samplePage) sampleLife)).stopped =
        some (.document (.unknownNode ⟨3⟩)) ∧
    (after (sampleGreeting, samplePage)
      (sampleLife ++ [.update [.handler 9, .text "Bob"]])).1.values = [.handler 9, .text "Bob"] ∧
    (Request.render ⟨⟨0⟩, id⟩ none).run (after (sampleGreeting, samplePage) sampleLife) =
      .stop (after (sampleGreeting, samplePage) sampleLife) .alreadyRendered := by
  have hlife := lifecycle (L := Nat) sampleGreeting.strings sampleGreeting.values samplePage
  have hrendered : RenderedIn (sampleGreeting, samplePage) sampleLife :=
    ⟨[.update [.handler 9, .text "Bob"], .materialize], _, _, rfl, rfl, by decide +kernel⟩
  exact ⟨by decide +kernel, (hlife.updated _ [] _ _ hrendered rfl nofun).1,
    hlife.late _ hrendered _ rfl⟩

end Template

end LiveMarkup
