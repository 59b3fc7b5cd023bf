/-
When the template of a host is in use.

A template is in use from the moment when its component is asked to render until what was rendered
is written.  Setting and connecting end with the template given back, whether they go through or
not (`Host.idle_set`, `Host.idle_connect`), so it is in use in between only.  What runs in between
is the component.  If it only reads then nobody is left who could ask the host for another
rendering, and none is refused.
-/
import LiveMarkup.Proofs.Element.Reading

namespace LiveMarkup

variable {L H σ : Type}

/-- The component is never refused a rendering while it renders, since it asks for none. -/
def Component.OnlyReads (c : Component L H σ) : Prop :=
  ∀ h d s, (c.render h d s).1 ≠ .error .reentrant

namespace Host

variable {c : Component L H σ} {h : Host L H} {d d₁ : Document L} {s : σ} {name : String}
  {v : Value H} {e : ElementError}

/-- The template of the host is not in use. -/
def Idle (h : Host L H) : Prop := h.attachment ≠ .inUse

/-! ### Giving the template back -/

theorem idle_set (hidle : h.Idle) (c : Component L H σ) (d : Document L) (s : σ) (name : String)
    (v : Value H) : (h.set c d s name v).state.1.Idle := by
  unfold Host.set
  cases h.write c d name v with
  | error e => exact hidle
  | ok d₁ =>
    cases hattached : h.attachment with
    | inUse => exact absurd hattached hidle
    | unconnected => exact hidle
    | connected t =>
      rcases refresh_cases c h t d₁ s with ⟨hhost, -⟩ | ⟨values, hhost, -⟩
      · show (refresh c h t d₁ s).state.1.attachment ≠ .inUse
        rw [hhost]
        exact hidle
      · show (refresh c h t d₁ s).state.1.attachment ≠ .inUse
        rw [hhost]
        exact nofun

theorem idle_connect (hidle : h.Idle) (c : Component L H σ) (d : Document L) (s : σ) :
    (h.connect c d s).state.1.Idle := by
  unfold Host.connect
  split
  · exact hidle
  · exact hidle
  · split
    · exact hidle
    · simp only
      split
      · exact hidle
      · exact nofun

/-! ### Refusals -/

theorem write_ne_reentrant (hwrite : h.write c d name v = .error e) : e ≠ .reentrant := by
  rintro rfl
  unfold write Component.boundNamed at hwrite
  split at hwrite
  · simp only [Except.bind] at hwrite
    split at hwrite
    · cases hset : d.setAttribute h.node name v.display <;> rw [hset] at hwrite <;> cases hwrite
    · cases herase : d.removeAttribute h.node name <;> rw [herase] at hwrite <;> cases hwrite
  · cases hwrite

theorem get_ne_reentrant (hget : h.get c d name = .error e) : e ≠ .reentrant := by
  rintro rfl
  unfold Host.get Component.boundNamed at hget
  split at hget <;> cases hget

/-- A host without a template is never refused a rendering by a write. -/
theorem set_of_unconnected (hfresh : h.attachment = .unconnected) :
    (h.set c d s name v).state.1 = h ∧ (h.set c d s name v).stopped ≠ some .reentrant := by
  unfold Host.set
  cases hwrite : h.write c d name v with
  | error e => exact ⟨rfl, fun hstop => write_ne_reentrant hwrite (Option.some.inj hstop)⟩
  | ok d₁ =>
    rw [hfresh]
    exact ⟨rfl, nofun⟩

/-- **A set is not refused for a rendering that is under way**, if there is none. -/
theorem set_ne_reentrant (hc : c.OnlyReads) (hidle : h.Idle) :
    (h.set c d s name v).stopped ≠ some .reentrant := by
  intro hstop
  generalize hs' : (h.set c d s name v).state = s' at *
  have hfailure := setFailure_of_stopped hstop
  rw [hs'] at hfailure
  cases hfailure with
  | refused hwrite => exact write_ne_reentrant hwrite rfl
  | inUse hwrite hattached => exact hidle hattached
  | unrendered hwrite hattached hrender => exact hc _ _ _ (congrArg Prod.fst hrender)

/-- **Nor is a connect.** -/
theorem connect_ne_reentrant (hc : c.OnlyReads) (hidle : h.Idle) :
    (h.connect c d s).stopped ≠ some .reentrant := by
  intro hstop
  unfold Host.connect at hstop
  split at hstop
  · next hattached => exact hidle hattached
  · cases hstop
  · split at hstop
    · next hrender =>
      obtain rfl := Option.some.inj hstop
      exact hc _ _ _ (congrArg Prod.fst hrender)
    · simp only at hstop
      split at hstop <;> cases hstop

/-! ### One way to use a template -/

/-- What a rendering comes to, if it is written by `finish`, which says what the host has
afterwards.  If there is no rendering then the host has what it had `before`. -/
def conclude (h : Host L H) (before : Attachment L H)
    (finish : Template L H → Document L → Attempt TemplateError (Attachment L H × Document L))
    (d : Document L) : Except ElementError (Template L H) × σ →
      Attempt ElementError (Host L H × Document L × σ)
  | (.error e, s) => .stop ({ h with attachment := before }, d, s) e
  | (.ok t, s) => ((finish t d).mapError .template).map fun (attachment, d) =>
      ({ h with attachment }, d, s)

/-- Write a first rendering. -/
def finishConnect (context : Context L H) (t : Template L H) (d : Document L) :
    Attempt TemplateError (Attachment L H × Document L) :=
  let rendered := t.render d context none
  match rendered.stopped with
  | some e => .stop (.unconnected, rendered.state.2) e
  | none => .done (.connected rendered.state.1, rendered.state.2)

/-- Write a rendering into the template that is there, `t`. -/
def finishSet (t fresh : Template L H) (d : Document L) :
    Attempt TemplateError (Attachment L H × Document L) :=
  (t.update d fresh.values).map fun (t, d) => (.connected t, d)

theorem connect_eq_conclude (hattached : h.attachment = .unconnected) :
    h.connect c d s = conclude h .unconnected (finishConnect h.context) d
      (c.render { h with attachment := .inUse } d s) := by
  obtain ⟨node, listener, attachment⟩ := h
  obtain rfl : attachment = .unconnected := hattached
  unfold Host.connect
  cases c.render { node, listener, attachment := .inUse } d s with
  | mk rendered s' =>
    cases rendered with
    | error e => rfl
    | ok t =>
      simp only [conclude, finishConnect]
      cases (t.render d (context ⟨node, listener, .unconnected⟩) none).stopped <;> rfl

theorem set_eq_conclude {t : Template L H} (hattached : h.attachment = .connected t)
    (hwrite : h.write c d name v = .ok d₁) :
    h.set c d s name v = conclude h (.connected t) (finishSet t) d₁
      (c.render { h with attachment := .inUse } d₁ s) := by
  obtain ⟨node, listener, attachment⟩ := h
  obtain rfl : attachment = .connected t := hattached
  unfold Host.set
  rw [hwrite]
  simp only [refresh]
  cases c.render { node, listener, attachment := .inUse } d₁ s with
  | mk rendered s' => cases rendered <;> rfl

end Host

/-! ### Widgets that only read -/

namespace Session

/-- Whether a recipe leaves the host alone. -/
def Recipe.onlyReads : Recipe → Bool
  | reenter _ _ => false
  | bound _ | connected | renders | value _ => true

/-- No recipe asks the host for another rendering. -/
def Kind.OnlyReads : Kind → Prop
  | bare => True
  | widget w => ∀ recipe ∈ w.recipes ++ w.later.getD [], recipe.onlyReads = true

instance (k : Kind) : Decidable k.OnlyReads :=
  match k with
  | .bare => .isTrue trivial
  | .widget w =>
    inferInstanceAs (Decidable (∀ recipe ∈ w.recipes ++ w.later.getD [], recipe.onlyReads = true))

theorem Recipe.make_ne_reentrant {recipe : Recipe} (h : recipe.onlyReads = true)
    (host : Host Listener String) (d : Document Listener) (progress : Progress) :
    recipe.make host d progress ≠ .error .reentrant := by
  cases recipe with
  | reenter => cases h
  | bound name =>
    intro hmake
    change Except.map _ (host.get unrendered d name) = _ at hmake
    cases hget : host.get unrendered d name with
    | ok v => rw [hget] at hmake; cases hmake
    | error e =>
      rw [hget] at hmake
      obtain rfl : e = .reentrant := Except.error.inj hmake
      exact Host.get_ne_reentrant hget rfl
  | connected | renders | value => exact nofun

theorem makeAll_ne_reentrant (host : Host Listener String) (d : Document Listener)
    (recipes : List Recipe) (h : ∀ recipe ∈ recipes, recipe.onlyReads = true)
    (progress : Progress) : (makeAll host d progress recipes).1 ≠ .error .reentrant := by
  induction recipes generalizing progress with
  | nil => exact nofun
  | cons recipe rest ih =>
    intro hmade
    have hfirst := (h recipe (List.mem_cons_self ..))
    unfold makeAll at hmade
    cases hmake : recipe.make host d progress with
    | error e =>
      rw [hmake] at hmade
      obtain rfl : e = .reentrant := Except.error.inj hmade
      exact recipe.make_ne_reentrant hfirst host d progress hmake
    | ok made =>
      rw [hmake] at hmade
      have hrest := ih (fun r hr => h r (List.mem_cons_of_mem _ hr))
        { progress with handlers := made.1 }
      change Except.map _ (makeAll host d { progress with handlers := made.1 } rest).1 = _ at hmade
      cases hothers : (makeAll host d { progress with handlers := made.1 } rest).1 with
      | ok values => rw [hothers] at hmade; cases hmade
      | error e =>
        rw [hothers] at hmade hrest
        obtain rfl : e = .reentrant := Except.error.inj hmade
        exact hrest rfl

/-- **A widget whose recipes leave the host alone only reads.** -/
theorem Kind.onlyReads_component {k : Kind} (h : k.OnlyReads) : k.component.OnlyReads := by
  cases k with
  | bare => exact fun _ _ _ => nofun
  | widget w =>
    intro host d progress hrender
    have hrecipes : ∀ recipe ∈ (if progress.renders + 1 = 1 then w.recipes
        else w.later.getD w.recipes), recipe.onlyReads = true := by
      intro recipe hmem
      refine h recipe (List.mem_append.2 ?_)
      split at hmem
      · exact Or.inl hmem
      · cases hlater : w.later with
        | none => rw [hlater] at hmem; exact Or.inl hmem
        | some later => rw [hlater] at hmem; exact Or.inr hmem
    have hmade := makeAll_ne_reentrant host d _ hrecipes
      { progress with renders := progress.renders + 1 }
    change Except.map _ (makeAll host d { progress with renders := progress.renders + 1 }
      (if progress.renders + 1 = 1 then w.recipes else w.later.getD w.recipes)).1 = _ at hrender
    cases hvalues : (makeAll host d { progress with renders := progress.renders + 1 }
        (if progress.renders + 1 = 1 then w.recipes else w.later.getD w.recipes)).1 with
    | ok values => rw [hvalues] at hrender; cases hrender
    | error e =>
      rw [hvalues] at hrender hmade
      obtain rfl : e = .reentrant := Except.error.inj hrender
      exact hmade rfl

end Session

end LiveMarkup
