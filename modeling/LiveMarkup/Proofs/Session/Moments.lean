/-
The moments of a session at which user code runs.

User code is what a session performs, what listeners do, what a component does with a new host,
and its rendering.  It runs inside of each other: an action dispatches an event, this calls a
listener, its script performs actions, and so on to any depth.  `Inside` is one step inwards.
Everything that is done before the step, in the same dispatch or by the same script, has ended,
and may have been any code as well.  So what is said of all moments is said also of sessions
that come to no end.

Actions and scripts do nothing that user code cannot do anyway (`plays_dispatchWithin`), so a
session of this kind is one of those with any hosts: each of its moments is a moment that is
reached there (`exists_reachable_of_reached`), and whatever holds of those holds of these.
-/
import LiveMarkup.Proofs.Session.InUse

namespace LiveMarkup

namespace Session

open Document (Told)

open Running

variable {α β : Type} {w w' : World} {f : Dispatch} {scope : Scope} {e : Event}

/-! ### What user code can do -/

/-- If the computation ends, it leaves a world that user code can get to. -/
def Plays (act : Run α) : Prop := ∀ w a w', act.run w = some (a, w') → Goes w w'

theorem Plays.of_yields {act : Run α} (h : ∀ w, Yields act w fun _ w' => Goes w w') :
    Plays act := by
  intro w a w' hrun
  obtain ⟨a', w'', hrun', hw''⟩ := h w
  rw [hrun, Option.some.injEq, Prod.mk.injEq] at hrun'
  exact hrun'.2 ▸ hw''

theorem Spares.plays {act : Run α} (h : Spares act) : Plays act :=
  .of_yields fun w => (h w).imp fun _ _ hhosts => .of_hosts hhosts

theorem Plays.bind {act : Run α} {next : α → Run β} (h : Plays act)
    (hnext : ∀ a, Plays (next a)) : Plays (act >>= next) := by
  intro w b w'' hrun
  rw [StateT.run_bind, Option.bind_eq_bind, Option.bind_eq_some_iff] at hrun
  obtain ⟨⟨a, w'⟩, ha, hrest⟩ := hrun
  exact (h w a w' ha).trans (hnext a w' b w'' hrest)

theorem plays_get_bind {next : World → Run β} (h : ∀ w, Plays (next w)) :
    Plays (get >>= next) := fun w b w' hrun => h w w b w' hrun

theorem Plays.forM {γ : Type} {act : γ → Run Unit} (h : ∀ c, Plays (act c)) :
    ∀ l : List γ, Plays (l.forM act)
  | [] => (Spares.pure ()).plays
  | c :: rest => (h c).bind fun _ => Plays.forM h rest

theorem Plays.mapM {γ : Type} {act : γ → Run α} (h : ∀ c, Plays (act c)) (l : List γ) :
    Plays (l.mapM act) := by
  induction l with
  | nil => exact (Spares.pure []).plays
  | cons c rest ih =>
    rw [List.mapM_cons]
    exact (h c).bind fun a => ih.bind fun others => (Spares.pure (a :: others)).plays

theorem spares_note (entry : LogEntry Listener) : Spares (note entry) := fun _ => ⟨_, _, rfl, rfl⟩

/-- Dispatches that do what user code can do. -/
def Dispatch.Plays (f : Dispatch) : Prop := ∀ scope e, Session.Plays (f scope e)

/-- **An action does what user code can do**, if dispatches do. -/
theorem Dispatch.Plays.performWith (h : f.Plays) (scope : Scope) (action : Action) :
    Session.Plays (performWith f scope action) := by
  cases action with
  | query q => exact (spares_answerQuery scope q).plays
  | edit e => exact (spares_performEdit scope e).plays
  | listen node kind label script =>
    exact plays_get_bind fun w => (spares_orGone fun id => spares_edited _).plays
  | dispatch node kind =>
    refine plays_get_bind fun w => ?_
    cases node.resolve scope w with
    | none => exact (Spares.pure _).plays
    | some target =>
      refine (h scope ⟨kind, target⟩).bind fun result => ?_
      cases result with
      | ok n => exact (Spares.pure _).plays
      | error e => exact (spares_failed _).plays
  | template a => exact (spares_performTemplate scope a).plays
  | host a =>
    show Session.Plays (performHost a)
    exact .of_yields fun w => (yields_performHost a w).imp fun _ _ h => h.1

theorem Dispatch.Plays.performScript (h : f.Plays) (scope : Scope) (script : Script) :
    Session.Plays (performScript f scope script) :=
  .forM (fun action => (h.performWith scope action).bind fun _ => (spares_note _).plays) script

/-! ### Calling a listener -/

/-- What calling a listener begins with: the call is noted, and there is a script to perform in some
scope unless the owner of a handler was given up. -/
def opening (scope : Scope) (e : Event) : Listener → Run (Option (Scope × Script))
  | .labelled label script => do
    note (.heard label e.kind (← numberOf e.target))
    return some ({ scope with target := e.target, host := none }, script)
  | .bound owner name => do
    let w ← get
    match (w.hostOf? owner).or (scope.running.lookup owner) with
    | none => return none
    | some host =>
      let target ← numberOf e.target
      note (.handled name e.kind target (← numberOf host))
      let running := (owner, host) :: scope.running
      return some ({ target := e.target, host := host, running }, w.scriptOf name owner)

/-- Calling a listener is performing the script that it opens. -/
theorem call_eq_opening (f : Dispatch) (scope : Scope) (e : Event) (l : Listener) :
    call f scope e l = opening scope e l >>= fun opened =>
      match opened with
      | none => pure ()
      | some (scope, script) => performScript f scope script := by
  cases l with
  | labelled label script => simp [call, opening]
  | bound owner name =>
    unfold call opening
    rw [bind_assoc]
    refine bind_congr fun w => ?_
    cases (w.hostOf? owner).or (scope.running.lookup owner) with
    | none => simp
    | some host => simp

theorem spares_opening (scope : Scope) (e : Event) (l : Listener) : Spares (opening scope e l) := by
  cases l with
  | labelled label script =>
    exact (spares_numberOf _).bind fun _ => (spares_note _).bind fun _ => .pure _
  | bound owner name =>
    refine fun w => yields_get_bind ?_
    cases (w.hostOf? owner).or (scope.running.lookup owner) with
    | none => exact Spares.pure _ w
    | some host =>
      exact (spares_numberOf _).bind (fun _ => (spares_numberOf _).bind fun _ =>
        (spares_note _).bind fun _ => .pure _) w

theorem Dispatch.Plays.call (h : f.Plays) (scope : Scope) (e : Event) (l : Listener) :
    Session.Plays (call f scope e l) := by
  rw [call_eq_opening]
  refine (spares_opening scope e l).plays.bind fun opened => ?_
  cases opened with
  | none => exact (Spares.pure ()).plays
  | some x => exact h.performScript x.1 x.2

/-- A dispatch calls listeners one after the other, with those after them still to be called. -/
theorem steps_told {hears : Listener → World → World → Prop}
    (hhears : ∀ l w w', hears l w w' → Goes w w') {ls : List Listener} (h : Told hears ls w w')
    (after : List Listener) (rest : List (Frame Listener String))
    (r : Option (Refusal Listener String)) :
    ∃ r', Steps ⟨w.page, .dispatching (ls ++ after) :: rest, r⟩
      ⟨w'.page, .dispatching after :: rest, r'⟩ := by
  induction h generalizing r with
  | nil w => exact ⟨r, .refl⟩
  | @cons l others w w₁ w' hfirst _ ih =>
    obtain ⟨r₁, hcalled⟩ :=
      hhears l w w₁ hfirst (.listener l) (.dispatching (others ++ after) :: rest) none
    obtain ⟨r', hothers⟩ := ih none
    exact ⟨r', ((Relation.ReflTransGen.single .tell).trans (hcalled.tail .leave)).trans hothers⟩

/-- **A dispatch does what user code can do**, if the dispatches of its listeners do. -/
theorem Dispatch.Plays.dispatch (h : f.Plays) (scope : Scope) (e : Event) :
    Session.Plays (Document.dispatch World.document (Session.call f scope) e) := by
  intro w r w' hrun
  cases haudience : w.document.audience e with
  | error reason =>
    rw [Document.run_dispatch_of_refused haudience, Option.some.injEq, Prod.mk.injEq] at hrun
    exact hrun.2 ▸ .refl w
  | ok ls =>
    rw [Document.run_dispatch haudience, Option.map_eq_some_iff] at hrun
    obtain ⟨⟨⟨⟩, w₁⟩, htold, heq⟩ := hrun
    obtain ⟨-, rfl⟩ := Prod.mk.inj heq
    intro author rest r
    have hbegin : Step ⟨w.page, .code author :: rest, r⟩
        ⟨w.page, .dispatching (ls ++ []) :: .code author :: rest, none⟩ := by
      rw [List.append_nil]
      exact .code (.dispatch e haudience)
    obtain ⟨r', hcalled⟩ := steps_told (fun l u u' => h.call scope e l u () u')
      (Document.run_forM_iff.1 htold) [] (.code author :: rest) none
    exact ⟨none, (hcalled.head hbegin).tail .told⟩

/-- So does a dispatch within a session, to whatever depth. -/
theorem plays_dispatchWithin (depth : Nat) : (dispatchWithin depth).Plays := by
  induction depth with
  | zero =>
    intro scope e w r w' hrun
    cases hrun
  | succ depth ih => exact ih.dispatch

/-- A script that is performed comes to an end, and leaves a world. -/
def Performs (scope : Scope) (script : Script) (w w' : World) : Prop :=
  ∃ depth, (performScript (dispatchWithin depth) scope script).run w = some ((), w')

/-! ### Moments -/

/-- Which user code is about to run. -/
inductive Code where
  /-- A session or a script performs an action. -/
  | acts (scope : Scope) (action : Action)
  /-- A listener is called. -/
  | hears (scope : Scope) (e : Event) (l : Listener)
  /-- A component gets its new host. -/
  | begins (h : Host Listener String)
  /-- The component of a host renders. -/
  | renders (n : Nat)

/-- The component of the host that an action makes, and what is written into it. -/
def HostAction.makes? : HostAction → Option (Kind × List (String × SlotValue))
  | createBare => some (.bare, [])
  | createWidget strings recipes later writes => some (.widget ⟨strings, recipes, later⟩, writes)
  | get _ _ | set _ _ _ | connect _ | view _ | inspect _ | drop _ => none

/-- One moment is inside of another. -/
inductive Inside : World × Code → World × Code → Prop
  /-- A dispatch calls a listener after those before it. -/
  | hears {w w' : World} {scope : Scope} {node : NodeRef} {kind : String} {target : NodeId}
      {before after : List Listener} {l : Listener} (htarget : node.resolve scope w = some target)
      (haudience : w.document.audience ⟨kind, target⟩ = .ok (before ++ l :: after))
      (hbefore : Told (Hears scope ⟨kind, target⟩) before w w') :
      Inside (w, .acts scope (.dispatch node kind)) (w', .hears scope ⟨kind, target⟩ l)
  /-- A listener performs an action of its script after those before it. -/
  | acts {w w₁ w' : World} {scope scope' : Scope} {e : Event} {l : Listener}
      {before after : Script} {action : Action}
      (hopen : (opening scope e l).run w = some (some (scope', before ++ action :: after), w₁))
      (hbefore : Performs scope' before w₁ w') :
      Inside (w, .hears scope e l) (w', .acts scope' action)
  /-- The element of a new host is made before its component gets it. -/
  | begins {w : World} {scope : Scope} {a : HostAction} {kind : Kind}
      {writes : List (String × SlotValue)} (hmakes : a.makes? = some (kind, writes))
      {h : Host Listener String} {d : Document Listener}
      (hmade : Host.create kind.component (Listener.bound (.host w.hosts.size)) w.document =
        (h, d)) : Inside (w, .acts scope (.host a)) ({ w with document := d }, .begins h)
  /-- A host is connected: its component renders. -/
  | connects {w : World} {scope : Scope} {n : Nat} {entry : HostEntry}
      (hentry : w.hosts[n]? = some (some entry))
      (hattached : entry.host.attachment = .unconnected) :
      Inside (w, .acts scope (.host (.connect n))) (w.lend n entry, .renders n)
  /-- An attribute of a connected host was written: its component renders again. -/
  | sets {w : World} {scope : Scope} {n : Nat} {entry : HostEntry}
      (hentry : w.hosts[n]? = some (some entry)) {t : Template Listener String}
      (hattached : entry.host.attachment = .connected t) {name : String} {value : SlotValue}
      {handlers : HandlerTable} {v : Value String}
      (hvalue : entry.kind.receive w.hostHandlers value = (handlers, v)) {d : Document Listener}
      (hwrite : entry.host.write entry.kind.component w.document name v = .ok d) :
      Inside (w, .acts scope (.host (.set n name value)))
        ({ w with document := d, hostHandlers := handlers }.lend n entry, .renders n)

/-- A session comes to one of its actions, those before it having ended. -/
inductive Begun (actions : List Action) : World × Code → Prop
  | intro {before after : List Action} {action : Action} {depth : Nat}
      {replies : List (Reply Listener)} {w : World} (hactions : actions = before ++ action :: after)
      (hbefore : (before.mapM (reply depth)).run {} = some (replies, w)) :
      Begun actions ({ w with log := [] }, .acts {} action)

/-- The moments of a session. -/
def Reached (actions : List Action) (m : World × Code) : Prop :=
  ∃ start, Begun actions start ∧ Relation.ReflTransGen Inside start m

/-! ### Among all sessions -/

/-- What a moment of a session is among those of sessions with any hosts. -/
inductive Shows : World × Code → Moment Listener String → Prop
  | acts {w : World} {scope : Scope} {action : Action} {author : Author Listener}
      {rest : List (Frame Listener String)} {r : Option (Refusal Listener String)} :
      Shows (w, .acts scope action) ⟨w.page, .code author :: rest, r⟩
  | hears {w : World} {scope : Scope} {e : Event} {l : Listener}
      {rest : List (Frame Listener String)} {r : Option (Refusal Listener String)} :
      Shows (w, .hears scope e l) ⟨w.page, .code (.listener l) :: rest, r⟩
  | begins {w : World} {h : Host Listener String} {kind : Kind} {n : Nat}
      {rest : List (Frame Listener String)} {r : Option (Refusal Listener String)} :
      Shows (w, .begins h)
        ⟨w.page.put w.document n (some (kind.hosted h)), .code (.component n) :: rest, r⟩
  | renders {w : World} {n : Nat} {called : Running.Call Listener String}
      {rest : List (Frame Listener String)} {r : Option (Refusal Listener String)} :
      Shows (w, .renders n) ⟨w.page, .rendering n called :: rest, r⟩

theorem goes_of_hears {l : Listener} (h : Hears scope e l w w') : Goes w w' := by
  obtain ⟨depth, hrun⟩ := h
  exact (plays_dispatchWithin depth).call scope e l w () w' hrun

theorem goes_of_performs {script : Script} (h : Performs scope script w w') : Goes w w' := by
  obtain ⟨depth, hrun⟩ := h
  exact (plays_dispatchWithin depth).performScript scope script w () w' hrun

variable {m m' : World × Code} {M : Moment Listener String} {actions : List Action}

/-- **One step inwards takes some steps among those.** -/
theorem exists_steps_of_inside (hinside : Inside m m') (h : Shows m M) :
    ∃ M', Steps M M' ∧ Shows m' M' := by
  cases hinside with
  | @hears w w' scope node kind target before after l htarget haudience hbefore =>
    cases h with
    | @acts _ _ _ author rest r =>
      have hbegin := (Move.dispatch (p := w.page) ⟨kind, target⟩ haudience).step author rest r
      obtain ⟨r', hcalled⟩ := steps_told (fun _ _ _ => goes_of_hears) hbefore (l :: after)
        (.code author :: rest) none
      exact ⟨_, (hcalled.head hbegin).tail .tell, .hears⟩
  | @acts w w₁ w' scope scope' e l before after action hopen hbefore =>
    cases h with
    | @hears _ _ _ _ rest r =>
      have hopened : Goes w w₁ := (spares_opening scope e l).plays _ _ _ hopen
      obtain ⟨r', hsteps⟩ := hopened.trans (goes_of_performs hbefore) (.listener l) rest r
      exact ⟨_, hsteps, .acts⟩
  | @begins w scope a kind writes hmakes h d hmade =>
    cases h with
    | @acts _ _ _ author rest r =>
      have hnew : w.page.hosts w.hosts.size = none := by simp [World.page]
      exact ⟨_, .single (.code (.make hnew kind.component _ hmade)), .begins⟩
  | @connects w scope n entry hentry hattached =>
    cases h with
    | @acts _ _ _ author rest r =>
      have hrender := (Move.render (hosts_page hentry) hattached).step author rest r
      exact ⟨_, .single hrender, page_lend hentry ▸ .renders⟩
  | @sets w scope n entry hentry t hattached name value handlers v hvalue d hwrite =>
    cases h with
    | @acts _ _ _ author rest r =>
      have hrender := (Move.rerender (hosts_page hentry) hattached hwrite).step author rest r
      have hlend : (World.lend { w with document := d, hostHandlers := handlers } n entry).page =
          w.page.put d n (some entry.hosted.lent) := page_lend hentry
      exact ⟨_, .single hrender, hlend ▸ .renders⟩

/-- So does an action of the session itself. -/
theorem plays_reply (depth : Nat) (action : Action) : Plays (reply depth action) := by
  have hclear : Spares (modify fun w : World => { w with log := [] }) := fun _ => ⟨_, _, rfl, rfl⟩
  refine hclear.plays.bind fun _ => ?_
  refine ((plays_dispatchWithin depth).performWith {} action).bind fun answer => ?_
  exact plays_get_bind fun w => (Spares.pure _).plays

theorem exists_reachable_of_begun (h : Begun actions m) : ∃ M, M.Reachable ∧ Shows m M := by
  cases h with
  | @intro before after action depth replies w hactions hbefore =>
    have hgoes : Goes {} w := Plays.mapM (plays_reply depth) before {} replies w hbefore
    obtain ⟨r, hsteps⟩ := hgoes .session [] none
    exact ⟨⟨w.page, [.code .session], r⟩, ⟨{}, hsteps⟩, .acts⟩

/-- **Sessions of this kind are among those with any hosts**: all of their moments are reached
there. -/
theorem exists_reachable_of_reached (h : Reached actions m) : ∃ M, M.Reachable ∧ Shows m M := by
  obtain ⟨start, hbegun, hinside⟩ := h
  induction hinside with
  | refl => exact exists_reachable_of_begun hbegun
  | tail _ hstep ih =>
    obtain ⟨M, hreachable, hshows⟩ := ih
    obtain ⟨d, hfrom⟩ := hreachable
    obtain ⟨M', hsteps, hshows'⟩ := exists_steps_of_inside hstep hshows
    exact ⟨M', ⟨d, hfrom.trans hsteps⟩, hshows'⟩

/-- **An action on hosts has an answer**, at every moment of a session and however deep the
dispatches are.  It is not that a host is rendering, if the component that the action lets render
only reads. -/
theorem answer_of_reached {a : HostAction} (h : Reached actions (w, .acts scope (.host a))) :
    ∃ answer w', (∀ f, (performWith f scope (.host a)).run w = some (answer, w')) ∧
      (a.OnlyReads w → Untroubled answer) := by
  obtain ⟨M, hreachable, hshows⟩ := exists_reachable_of_reached h
  cases hshows with
  | acts =>
    have hidle : w.page.Idle := hreachable.calm.idle rfl
    obtain ⟨answer, w', hrun, -, hanswer⟩ := yields_performHost a w
    exact ⟨answer, w', fun _ => hrun, hanswer hidle⟩

end Session

end LiveMarkup
