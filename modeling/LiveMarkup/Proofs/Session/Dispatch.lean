/-
Dispatching in a session.

The bound of `dispatchWithin` is no part of any answer: what a dispatch gives within some
depth it gives within every greater one (`extends_dispatchWithin_of_le`).  So it can be said
of a dispatch how it ends (`Ends`), and of a listener what it leaves when it is called
(`Hears`), with no bound in it.  Who is called is then what `Snapshot` says for any programs,
scripts being one kind of them: they may change the document, the templates and the hosts,
and dispatch events themselves.
-/
import LiveMarkup.Proofs.Document.Dispatch
import LiveMarkup.Session.Perform

namespace LiveMarkup

namespace Session

open Document (Told Snapshot)

variable {α β : Type} {f g : Dispatch} {scope : Scope} {e : Event} {w w' : World}
  {r : Except DocumentError Nat}

/-! ### More depth -/

/-- What one computation gives the other gives as well. -/
def Extends (act act' : Run α) : Prop := ∀ w r, act.run w = some r → act'.run w = some r

theorem Extends.refl (act : Run α) : Extends act act := fun _ _ h => h

theorem Extends.bind {act act' : Run α} {next next' : α → Run β} (h : Extends act act')
    (hnext : ∀ a, Extends (next a) (next' a)) : Extends (act >>= next) (act' >>= next') := by
  intro w r hr
  rw [StateT.run_bind, Option.bind_eq_bind, Option.bind_eq_some_iff] at hr ⊢
  obtain ⟨⟨a, w₁⟩, ha, hrest⟩ := hr
  exact ⟨(a, w₁), h w _ ha, hnext a w₁ _ hrest⟩

theorem Extends.forM {γ : Type} {act act' : γ → Run Unit} (h : ∀ c, Extends (act c) (act' c)) :
    ∀ l : List γ, Extends (l.forM act) (l.forM act')
  | [] => .refl _
  | c :: rest => (h c).bind fun _ => Extends.forM h rest

/-- What dispatches give the one way they give the other way as well. -/
def Dispatch.Extends (f g : Dispatch) : Prop :=
  ∀ scope e, Session.Extends (f scope e) (g scope e)

theorem Dispatch.Extends.performWith (h : f.Extends g) (scope : Scope) (action : Action) :
    Session.Extends (performWith f scope action) (performWith g scope action) := by
  cases action with
  | dispatch node kind =>
    refine (Extends.refl get).bind fun w => ?_
    cases node.resolve scope w with
    | none => exact .refl _
    | some target => exact (h scope ⟨kind, target⟩).bind fun _ => .refl _
  | query q => exact .refl _
  | edit e => exact .refl _
  | listen node kind label script => exact .refl _
  | template a => exact .refl _
  | host a => exact .refl _

theorem Dispatch.Extends.performScript (h : f.Extends g) (scope : Scope) (script : Script) :
    Session.Extends (performScript f scope script) (performScript g scope script) :=
  Extends.forM (fun action => (h.performWith scope action).bind fun _ => .refl _) script

theorem Dispatch.Extends.call (h : f.Extends g) (scope : Scope) (e : Event) (l : Listener) :
    Session.Extends (call f scope e l) (call g scope e l) := by
  cases l with
  | labelled label script =>
    refine (Extends.refl _).bind fun number => ?_
    exact (Extends.refl _).bind fun _ => h.performScript _ script
  | bound owner name =>
    refine (Extends.refl get).bind fun w => ?_
    cases (w.hostOf? owner).or (scope.running.lookup owner) with
    | none => exact .refl _
    | some host =>
      refine (Extends.refl _).bind fun target => (Extends.refl _).bind fun number => ?_
      exact (Extends.refl _).bind fun _ => h.performScript _ _

/-- **One more level of depth keeps what was given.** -/
theorem extends_dispatchWithin (depth : Nat) :
    (dispatchWithin depth).Extends (dispatchWithin (depth + 1)) := by
  induction depth with
  | zero =>
    intro scope e w r hr
    cases hr
  | succ depth ih =>
    intro scope e
    refine (Extends.refl (getThe World)).bind fun w => ?_
    cases w.document.audience e with
    | error reason => exact .refl _
    | ok listeners => exact (Extends.forM (ih.call scope e) listeners).bind fun _ => .refl _

theorem extends_dispatchWithin_of_le {depth depth' : Nat} (h : depth ≤ depth') :
    (dispatchWithin depth).Extends (dispatchWithin depth') := by
  induction h with
  | refl => exact fun scope e => .refl _
  | step _ ih =>
    exact fun scope e w r hr => extends_dispatchWithin _ scope e w r (ih scope e w r hr)

/-! ### Dispatches that end -/

/-- A dispatch comes to an end, with an answer and a world that it leaves. -/
def Ends (scope : Scope) (e : Event) (w : World) (r : Except DocumentError Nat) (w' : World) :
    Prop :=
  ∃ depth, (dispatchWithin depth scope e).run w = some (r, w')

/-- A listener that is called comes to an end, and leaves a world. -/
def Hears (scope : Scope) (e : Event) (l : Listener) (w w' : World) : Prop :=
  ∃ depth, (call (dispatchWithin depth) scope e l).run w = some ((), w')

/-- A dispatch can end in one way only. -/
theorem Ends.unique {r' : Except DocumentError Nat} {w'' : World} (h : Ends scope e w r w')
    (h' : Ends scope e w r' w'') : r' = r ∧ w'' = w' := by
  obtain ⟨depth, hrun⟩ := h
  obtain ⟨depth', hrun'⟩ := h'
  have hleft := extends_dispatchWithin_of_le (Nat.le_max_left depth depth') scope e w _ hrun
  have hright := extends_dispatchWithin_of_le (Nat.le_max_right depth depth') scope e w _ hrun'
  rw [hleft, Option.some.injEq, Prod.mk.injEq] at hright
  exact ⟨hright.1.symm, hright.2.symm⟩

/-- Listeners that end one after the other do so within one depth. -/
theorem exists_depth_of_told {ls : List Listener} (h : Told (Hears scope e) ls w w') :
    ∃ depth, Told (fun l u u' => (call (dispatchWithin depth) scope e l).run u = some ((), u'))
      ls w w' := by
  induction h with
  | nil w => exact ⟨0, .nil w⟩
  | cons hfirst _ ih =>
    obtain ⟨depth, hfirst⟩ := hfirst
    obtain ⟨depth', hrest⟩ := ih
    have hleft := extends_dispatchWithin_of_le (Nat.le_max_left depth depth')
    have hright := extends_dispatchWithin_of_le (Nat.le_max_right depth depth')
    exact ⟨max depth depth', .cons (hleft.call scope e _ _ _ hfirst)
      (hrest.imp fun l u u' hl => hright.call scope e l u _ hl)⟩

/-- **A dispatch ends exactly if the listeners of the snapshot do, one after the other.** -/
theorem ends_iff_snapshot {made : List (NodeId × Registration Listener)}
    (h : w.document.Registered made) :
    Ends scope e w r w' ↔ Snapshot w.document made (Hears scope e) e w r w' := by
  constructor
  · rintro ⟨depth, hrun⟩
    cases depth with
    | zero => cases hrun
    | succ depth =>
      cases (Document.dispatch_iff_snapshot h).1 hrun with
      | dead he => exact .dead he
      | told he hline hnodup htold =>
        exact .told he hline hnodup (htold.imp fun l u u' hl => ⟨depth, hl⟩)
  · intro hsnapshot
    cases hsnapshot with
    | dead he => exact ⟨1, (Document.dispatch_iff_snapshot h).2 (.dead he)⟩
    | told he hline hnodup htold =>
      obtain ⟨depth, htold⟩ := exists_depth_of_told htold
      exact ⟨depth + 1, (Document.dispatch_iff_snapshot h).2 (.told he hline hnodup htold)⟩

/-! ### Handlers that were given up -/

/-- An owner that is there no longer, nor kept by a handler of it that is running. -/
structure World.Released (w : World) (scope : Scope) (owner : Owner) : Prop where
  gone : w.hostOf? owner = none
  idle : scope.running.lookup owner = none

/-- A handler whose owner was given up does nothing. -/
theorem hears_bound_of_released {owner : Owner} (h : w.Released scope owner) (name : String) :
    Hears scope e (.bound owner name) w w' ↔ w' = w := by
  have hrun : ∀ f : Dispatch, (call f scope e (.bound owner name)).run w = some ((), w) := by
    intro f
    simp [call, h.gone, h.idle]
  constructor
  · rintro ⟨depth, hrun'⟩
    rw [hrun, Option.some.injEq, Prod.mk.injEq] at hrun'
    exact hrun'.2.symm
  · rintro rfl
    exact ⟨0, hrun _⟩

/-- **Dispatch runs the snapshot.**  In any state that has a reachable document in it, and whatever
it is to call a listener, those are called that were registered on the way up from the target when
the event was dispatched.  It is so in a session, also when scripts dispatch further events; and a
handler whose owner was given up is called to no effect. -/
theorem dispatch_snapshot {L W : Type} {document : W → Document L} {u : W}
    (hu : (document u).Reachable) (hw : w.document.Reachable) :
    (∃ made, (document u).Registered made ∧
      ∀ (call : Event → L → StateT W Option Unit) e r u',
        (Document.dispatch document call e).run u = some (r, u') ↔
          Snapshot (document u) made (fun l v v' => (call e l).run v = some ((), v')) e u r u') ∧
    (∃ made, w.document.Registered made ∧
      ∀ scope e r w', Ends scope e w r w' ↔ Snapshot w.document made (Hears scope e) e w r w') ∧
    ∀ scope e owner name v v', World.Released v scope owner →
      (Hears scope e (.bound owner name) v v' ↔ v' = v) := by
  obtain ⟨made, hmade⟩ := Document.reachable_iff_registered.1 hu
  obtain ⟨made', hmade'⟩ := Document.reachable_iff_registered.1 hw
  refine ⟨⟨made, hmade, fun call e r u' => ?_⟩, ⟨made', hmade', fun scope e r w' => ?_⟩, ?_⟩
  · exact Document.dispatch_iff_snapshot hmade
  · exact ends_iff_snapshot hmade'
  · exact fun scope e owner name v v' h => hears_bound_of_released h name

/-- A list with an item in it. -/
def sampleItems : Document Listener :=
  let list := (({} : Document Listener).create (.element { tag := "ul" })).1
  ((list.create (.element { tag := "li" })).1.append ⟨0⟩ ⟨1⟩).state

/-- The item and the list have listeners.  That of the item removes the list; those of the list
are a handler that was given up and one that sends the event once more. -/
def sampleClicked : World where
  document :=
    let item := sampleItems.put ⟨1⟩ (.element { tag := "li" })
      [⟨"click", .labelled "item" [.edit (.remove (.number 0))]⟩]
    let noted := item.put ⟨0⟩ (.element { tag := "ul" }) [⟨"click", .bound (.context 0) "noted"⟩]
    noted.put ⟨0⟩ (.element { tag := "ul" })
      [⟨"click", .labelled "list" [.dispatch (.number 1) "click"]⟩]
  mentioned := #[⟨0⟩, ⟨1⟩]
  contexts := #[none]

theorem reachable_sampleClicked : sampleClicked.document.Reachable := by
  have hempty : ({} : Document Listener).Reachable := .empty
  have hproper : ∀ tag, (Content.element { tag }).Proper := fun _ =>
    ⟨OrderedMap.distinct_empty, OrderedMap.distinct_empty⟩
  have hitems : sampleItems.Reachable :=
    ((hempty.create (hproper "ul")).create (hproper "li")).append ⟨0⟩ ⟨1⟩
  have hlisten : ∀ {d : Document Listener} {id : NodeId} {content : Content}
      (r : Registration Listener), d.content? id = some content → d.Reachable →
        (d.put id content [r]).Reachable :=
    fun r hold h => h.addListener (Document.addListener_of_content? hold r.kind r.listener)
  exact hlisten _ (by decide +kernel) (hlisten _ (by decide +kernel)
    (hlisten _ (by decide +kernel) hitems))

/-- The first listener takes the whole path away, and all three are called nevertheless. -/
theorem dispatch_snapshot_sampleClicked :
    (∃ w', w'.document.contains ⟨1⟩ = false ∧ ∃ made, sampleClicked.document.Registered made ∧
      Snapshot sampleClicked.document made (Hears {} ⟨"click", ⟨1⟩⟩) ⟨"click", ⟨1⟩⟩ sampleClicked
        (.ok 3) w') ∧
      Hears {} ⟨"click", ⟨1⟩⟩ (.bound (.context 0) "noted") sampleClicked sampleClicked := by
  have hrun : ((dispatchWithin 2 {} ⟨"click", ⟨1⟩⟩).run sampleClicked).map (fun s =>
      (s.1.toOption, s.2.document.contains ⟨1⟩)) = some (some 3, false) := by decide +kernel
  obtain ⟨⟨r, w'⟩, hends, hresult⟩ := Option.map_eq_some_iff.1 hrun
  obtain ⟨-, ⟨made, hmade, hiff⟩, hreleased⟩ :=
    dispatch_snapshot reachable_sampleClicked reachable_sampleClicked
  refine ⟨?_, (hreleased _ _ _ _ _ _ ⟨rfl, rfl⟩).2 rfl⟩
  cases r with
  | error reason => cases hresult
  | ok n =>
    simp only [Except.toOption, Prod.mk.injEq, Option.some.injEq] at hresult
    obtain ⟨rfl, hgone⟩ := hresult
    exact ⟨w', hgone, made, hmade, (hiff _ _ _ _).1 ⟨2, hends⟩⟩

end Session

end LiveMarkup
