/-
Sessions with any hosts.

User code is the session itself, the listeners of a document, and what components do with their
new hosts.  Nothing is known of it.  It can leave any document, make hosts of any components and
give them up, set and connect them, and dispatch events, whose listeners are user code again, to
any depth.  So a session is a stack of what runs, innermost first, and a step is whatever the
innermost can do next (`Step`).

Setting a connected host and connecting one take the host's template until what its component
renders is written, and this is a step of its own.  The component only reads then, so nothing
comes to lie on top of a rendering, and a template is in use exactly while its component is on
top of the stack (`Calm`).
-/
import LiveMarkup.Proofs.Element.InUse
import Mathlib.Logic.Function.Basic
import Mathlib.Logic.Relation

namespace LiveMarkup.Running

variable {L H : Type}

/-- A host and its component. -/
structure Hosted (L H : Type) where
  State : Type
  component : Component L H State
  host : Host L H

namespace Hosted

/-- The host after a call. -/
def put (entry : Hosted L H) (h : Host L H) : Hosted L H := { entry with host := h }

/-- The host while its template is in use. -/
def lent (entry : Hosted L H) : Hosted L H :=
  entry.put { entry.host with attachment := .inUse }

end Hosted

/-- What user code works on: one document, and hosts by number. -/
structure Page (L H : Type) where
  document : Document L
  hosts : Nat → Option (Hosted L H)

namespace Page

/-- Put a document and a host in their places. -/
def put (p : Page L H) (d : Document L) (n : Nat) (entry : Option (Hosted L H)) : Page L H :=
  ⟨d, Function.update p.hosts n entry⟩

/-- Put back what a call on a host reached. -/
def settle (p : Page L H) (n : Nat) (entry : Hosted L H)
    (attempt : Attempt ElementError (Host L H × Document L × entry.State)) : Page L H :=
  p.put attempt.state.2.1 n (some (entry.put attempt.state.1))

end Page

/-- A call that lets a component render. -/
inductive Call (L H : Type) where
  | connect
  /-- Setting an attribute of a host that has this template. -/
  | set (t : Template L H)

namespace Call

/-- What the host has if there is no rendering. -/
def before : Call L H → Attachment L H
  | connect => .unconnected
  | set t => .connected t

/-- Write the rendering. -/
def finish (context : Context L H) : Call L H → Template L H → Document L →
    Attempt TemplateError (Attachment L H × Document L)
  | connect => Host.finishConnect context
  | set t => Host.finishSet t

end Call

/-- Whose code runs. -/
inductive Author (L : Type) where
  | session
  | listener (l : L)
  /-- The component of a new host. -/
  | component (n : Nat)

/-- What runs. -/
inductive Frame (L H : Type) where
  | code (author : Author L)
  /-- A dispatch that has these listeners still to call. -/
  | dispatching (ls : List L)
  /-- The component of a host renders for a call. -/
  | rendering (n : Nat) (call : Call L H)

/-- The host whose component renders. -/
def Frame.rendered? : Frame L H → Option Nat
  | code _ | dispatching _ => none
  | rendering n _ => some n

/-- A call on a host of this component was refused. -/
structure Refusal (L H : Type) where
  State : Type
  component : Component L H State
  error : ElementError

/-- How a call ended, if it was refused. -/
def Hosted.refusal (entry : Hosted L H) {α : Type} (attempt : Attempt ElementError α) :
    Option (Refusal L H) :=
  attempt.stopped.map (Refusal.mk entry.State entry.component)

/-- A moment of a session. -/
structure Moment (L H : Type) where
  page : Page L H
  /-- What runs, innermost first. -/
  stack : List (Frame L H)
  /-- How the call was refused that has just ended. -/
  refusal : Option (Refusal L H) := none

/-- What user code can do, with what has to run before it goes on. -/
inductive Move (p : Page L H) : Page L H → List (Frame L H) → Option (Refusal L H) → Prop
  /-- It does anything that does not concern hosts. -/
  | edit (d : Document L) : Move p { p with document := d } [] none
  /-- It makes a host, which its component gets first. -/
  | make {n : Nat} (hnew : p.hosts n = none) {State : Type} (c : Component L H State)
      (listener : H → L) {h : Host L H} {d : Document L}
      (hmade : Host.create c listener p.document = (h, d)) :
      Move p (p.put d n (some ⟨State, c, h⟩)) [.code (.component n)] none
  | drop (n : Nat) : Move p (p.put p.document n none) [] none
  | dispatch (e : Event) {ls : List L} (haudience : p.document.audience e = .ok ls) :
      Move p p [.dispatching ls] none
  /-- It sets an attribute of a host that is not rendered again. -/
  | set {n : Nat} {entry : Hosted L H} (hentry : p.hosts n = some entry) (s : entry.State)
      {name : String} {v : Value H} (hstays : ∀ t d, entry.host.attachment = .connected t →
        entry.host.write entry.component p.document name v ≠ .ok d) :
      Move p (p.settle n entry (entry.host.set entry.component p.document s name v)) []
        (entry.refusal (entry.host.set entry.component p.document s name v))
  /-- It sets an attribute of a connected host. -/
  | rerender {n : Nat} {entry : Hosted L H} (hentry : p.hosts n = some entry) {t : Template L H}
      (hattached : entry.host.attachment = .connected t) {name : String} {v : Value H}
      {d : Document L} (hwrite : entry.host.write entry.component p.document name v = .ok d) :
      Move p (p.put d n (some entry.lent)) [.rendering n (.set t)] none
  /-- It connects a host that is not rendered for this. -/
  | connect {n : Nat} {entry : Hosted L H} (hentry : p.hosts n = some entry) (s : entry.State)
      (hstays : entry.host.attachment ≠ .unconnected) :
      Move p (p.settle n entry (entry.host.connect entry.component p.document s)) []
        (entry.refusal (entry.host.connect entry.component p.document s))
  /-- It connects a host. -/
  | render {n : Nat} {entry : Hosted L H} (hentry : p.hosts n = some entry)
      (hattached : entry.host.attachment = .unconnected) :
      Move p (p.put p.document n (some entry.lent)) [.rendering n .connect] none

/-- What comes of a rendering, if the component is in the state `s`. -/
def Hosted.conclude (entry : Hosted L H) (call : Call L H) (d : Document L) (s : entry.State) :
    Attempt ElementError (Host L H × Document L × entry.State) :=
  entry.host.conclude call.before (call.finish entry.host.context) d
    (entry.component.render entry.host d s)

/-- One step of a session.  The states of components are their own business: a component can be
in any state whenever it is asked for something. -/
inductive Step : Moment L H → Moment L H → Prop
  | code {p p' : Page L H} {author : Author L} {pushed rest : List (Frame L H)}
      {r r' : Option (Refusal L H)} (hmove : Move p p' pushed r') :
      Step ⟨p, .code author :: rest, r⟩ ⟨p', pushed ++ .code author :: rest, r'⟩
  | leave {p : Page L H} {author : Author L} {rest : List (Frame L H)}
      {r : Option (Refusal L H)} : Step ⟨p, .code author :: rest, r⟩ ⟨p, rest, none⟩
  /-- A dispatch calls the next listener. -/
  | tell {p : Page L H} {l : L} {ls : List L} {rest : List (Frame L H)}
      {r : Option (Refusal L H)} :
      Step ⟨p, .dispatching (l :: ls) :: rest, r⟩
        ⟨p, .code (.listener l) :: .dispatching ls :: rest, none⟩
  | told {p : Page L H} {rest : List (Frame L H)} {r : Option (Refusal L H)} :
      Step ⟨p, .dispatching [] :: rest, r⟩ ⟨p, rest, none⟩
  /-- A component has rendered, and this is written. -/
  | rendered {p : Page L H} {n : Nat} {call : Call L H} {rest : List (Frame L H)}
      {r : Option (Refusal L H)} {entry : Hosted L H} (hentry : p.hosts n = some entry)
      (s : entry.State) :
      Step ⟨p, .rendering n call :: rest, r⟩
        ⟨p.settle n entry (entry.conclude call p.document s), rest,
          entry.refusal (entry.conclude call p.document s)⟩

/-- Any number of steps. -/
abbrev Steps : Moment L H → Moment L H → Prop := Relation.ReflTransGen Step

/-- The moments of sessions on one document. -/
def Moment.Reachable (m : Moment L H) : Prop :=
  ∃ d, Steps ⟨⟨d, fun _ => none⟩, [.code .session], none⟩ m

theorem Move.step {p p' : Page L H} {pushed : List (Frame L H)} {r' : Option (Refusal L H)}
    (hmove : Move p p' pushed r') (author : Author L) (rest : List (Frame L H))
    (r : Option (Refusal L H)) :
    Step ⟨p, .code author :: rest, r⟩ ⟨p', pushed ++ .code author :: rest, r'⟩ := .code hmove

/-! ### Calls in one go -/

namespace Page

variable {p : Page L H} {d d' : Document L} {n k : Nat}

theorem hosts_put_self (found : Option (Hosted L H)) : (p.put d n found).hosts n = found :=
  Function.update_self ..

theorem hosts_put_ne (h : k ≠ n) (found : Option (Hosted L H)) :
    (p.put d n found).hosts k = p.hosts k :=
  Function.update_of_ne h ..

theorem put_put (found found' : Option (Hosted L H)) :
    (p.put d n found).put d' n found' = p.put d' n found' := by
  unfold put
  rw [Function.update_idem]

end Page

section Calls

variable {p : Page L H} {n : Nat} {entry : Hosted L H} {author : Author L}
  {rest : List (Frame L H)} {r : Option (Refusal L H)}

/-- A rendering is concluded for the host as it was, but for its template. -/
theorem conclude_lent (call : Call L H) (d : Document L) (s : entry.State) :
    entry.lent.conclude call d s =
      entry.host.conclude call.before (call.finish entry.host.context) d
        (entry.component.render { entry.host with attachment := .inUse } d s) := by
  show Host.conclude { entry.host with attachment := .inUse } _ _ d
    (entry.component.render { entry.host with attachment := .inUse } d s) = _
  cases entry.component.render { entry.host with attachment := .inUse } d s with
  | mk rendered s' => cases rendered <;> rfl

/-- What is concluded takes the place of what was lent. -/
theorem step_rendered (call : Call L H) (d : Document L) (s : entry.State) :
    Step ⟨p.put d n (some entry.lent), .rendering n call :: rest, r⟩
      ⟨p.settle n entry (entry.lent.conclude call d s), rest,
        entry.refusal (entry.lent.conclude call d s)⟩ := by
  have hlent : (p.put d n (some entry.lent)).hosts n = some entry.lent := Page.hosts_put_self _
  have hput : p.settle n entry (entry.lent.conclude call d s) =
      (p.put d n (some entry.lent)).settle n entry.lent (entry.lent.conclude call d s) :=
    (Page.put_put ..).symm
  rw [hput]
  exact .rendered hlent s

/-- **Setting an attribute is what user code does by its steps.** -/
theorem steps_set (hentry : p.hosts n = some entry) (s : entry.State) (name : String)
    (v : Value H) :
    Steps ⟨p, .code author :: rest, r⟩
      ⟨p.settle n entry (entry.host.set entry.component p.document s name v),
        .code author :: rest,
        entry.refusal (entry.host.set entry.component p.document s name v)⟩ := by
  by_cases hstays : ∀ t d, entry.host.attachment = .connected t →
      entry.host.write entry.component p.document name v ≠ .ok d
  · exact .single (.code (.set hentry s hstays))
  · simp only [not_forall, not_not] at hstays
    obtain ⟨t, d, hattached, hwrite⟩ := hstays
    have hset := Host.set_eq_conclude (s := s) hattached hwrite
    have hconclude : entry.host.set entry.component p.document s name v =
        entry.lent.conclude (.set t) d s := hset.trans (conclude_lent (.set t) d s).symm
    rw [hconclude]
    exact .tail (.single (.code (.rerender hentry hattached hwrite))) (step_rendered (.set t) d s)

/-- **So is connecting.** -/
theorem steps_connect (hentry : p.hosts n = some entry) (s : entry.State) :
    Steps ⟨p, .code author :: rest, r⟩
      ⟨p.settle n entry (entry.host.connect entry.component p.document s),
        .code author :: rest,
        entry.refusal (entry.host.connect entry.component p.document s)⟩ := by
  by_cases hattached : entry.host.attachment = .unconnected
  · have hconnect := Host.connect_eq_conclude (c := entry.component) (d := p.document) (s := s)
      hattached
    have hconclude : entry.host.connect entry.component p.document s =
        entry.lent.conclude .connect p.document s :=
      hconnect.trans (conclude_lent .connect p.document s).symm
    rw [hconclude]
    exact .tail (.single (.code (.render hentry hattached)))
      (step_rendered .connect p.document s)
  · exact .single (.code (.connect hentry s hattached))

end Calls

/-! ### What is in use -/

/-- No template of a host is in use. -/
def Page.Idle (p : Page L H) : Prop := ∀ n entry, p.hosts n = some entry → entry.host.Idle

/-- A template is in use exactly while its component is on top of the stack, nothing comes to lie
on top of a rendering, and who has only read was not refused for one. -/
structure Calm (m : Moment L H) : Prop where
  inUse : ∀ n entry, m.page.hosts n = some entry →
    (entry.host.attachment = .inUse ↔ m.stack.head?.bind Frame.rendered? = some n)
  top : ∀ f ∈ m.stack.tail, f.rendered? = none
  refusal : ∀ refusal, m.refusal = some refusal → refusal.error = .reentrant →
    ¬ refusal.component.OnlyReads

variable {m m' : Moment L H} {p p' : Page L H} {d : Document L} {n : Nat} {entry : Hosted L H}
  {author : Author L} {stack rest pushed : List (Frame L H)} {r r' : Option (Refusal L H)}

/-- The others need not even be asked if the host that is put back was the only one in use. -/
theorem idle_put (hothers : ∀ k entry, k ≠ n → p.hosts k = some entry → entry.host.Idle)
    {found : Option (Hosted L H)} (hfound : ∀ entry, found = some entry → entry.host.Idle) :
    (p.put d n found).Idle := by
  intro k entry hk
  by_cases hkn : k = n
  · subst hkn
    rw [Page.hosts_put_self] at hk
    exact hfound entry hk
  · rw [Page.hosts_put_ne hkn] at hk
    exact hothers k entry hkn hk

theorem Page.Idle.put (hp : p.Idle) {found : Option (Hosted L H)}
    (hfound : ∀ entry, found = some entry → entry.host.Idle) : (p.put d n found).Idle :=
  idle_put (fun k entry _ hk => hp k entry hk) hfound

/-- Where nobody renders no template is in use. -/
theorem calm_of_idle (hp : p.Idle) (hstack : ∀ f ∈ stack, f.rendered? = none)
    (hr : ∀ refusal, r = some refusal → refusal.error = .reentrant →
      ¬ refusal.component.OnlyReads) : Calm ⟨p, stack, r⟩ where
  inUse := by
    intro n entry hentry
    refine iff_of_false (hp n entry hentry) fun hhead => ?_
    obtain ⟨f, hf, hrendered⟩ := Option.bind_eq_some_iff.1 hhead
    rw [hstack f (List.mem_of_head? hf)] at hrendered
    cases hrendered
  top f hf := hstack f (List.mem_of_mem_tail hf)
  refusal := hr

/-- A template that is taken is the only one in use. -/
theorem calm_of_lent (hp : p.Idle) (hrest : ∀ f ∈ rest, f.rendered? = none) (call : Call L H) :
    Calm ⟨p.put d n (some entry.lent), .rendering n call :: rest, none⟩ where
  inUse := by
    intro k other hk
    show _ ↔ some n = some k
    by_cases hkn : k = n
    · subst hkn
      rw [Page.hosts_put_self] at hk
      obtain rfl := Option.some.inj hk
      exact iff_of_true rfl rfl
    · rw [Page.hosts_put_ne hkn] at hk
      exact iff_of_false (hp k other hk) fun heq => hkn (Option.some.inj heq).symm
  top := hrest
  refusal := nofun

theorem Calm.idle (h : Calm m) (hhead : m.stack.head?.bind Frame.rendered? = none) :
    m.page.Idle := by
  intro n entry hentry hattached
  have hrendered := (h.inUse n entry hentry).1 hattached
  rw [hhead] at hrendered
  cases hrendered

/-! ### Calls on hosts -/

/-- A call gives the template back. -/
theorem idle_conclude (call : Call L H) (d : Document L) (s : entry.State) :
    (entry.conclude call d s).state.1.Idle := by
  unfold Hosted.conclude
  cases entry.component.render entry.host d s with
  | mk rendered s' =>
    cases rendered with
    | error e => cases call <;> exact nofun
    | ok t =>
      cases call with
      | set t' => exact nofun
      | connect =>
        show (Host.finishConnect entry.host.context t d).state.1 ≠ .inUse
        unfold Host.finishConnect
        simp only
        split <;> exact nofun

/-- Only the component itself refuses a rendering for being under way. -/
theorem conclude_ne_reentrant (hc : entry.component.OnlyReads) (call : Call L H) (d : Document L)
    (s : entry.State) : (entry.conclude call d s).stopped ≠ some .reentrant := by
  intro hstop
  unfold Hosted.conclude at hstop
  cases hrender : entry.component.render entry.host d s with
  | mk rendered s' =>
    rw [hrender] at hstop
    cases rendered with
    | error e =>
      obtain rfl : e = .reentrant := Option.some.inj hstop
      exact hc _ _ _ (congrArg Prod.fst hrender)
    | ok t =>
      change Option.map _ _ = some ElementError.reentrant at hstop
      obtain ⟨e, -, he⟩ := Option.map_eq_some_iff.1 hstop
      cases he

/-- A call after which the host is idle, and that was not refused for a rendering. -/
theorem calm_settle (hothers : ∀ k entry, k ≠ n → p.hosts k = some entry → entry.host.Idle)
    (hstack : ∀ f ∈ stack, f.rendered? = none)
    {attempt : Attempt ElementError (Host L H × Document L × entry.State)}
    (hidle : attempt.state.1.Idle)
    (hanswer : entry.component.OnlyReads → attempt.stopped ≠ some .reentrant) :
    Calm ⟨p.settle n entry attempt, stack, entry.refusal attempt⟩ := by
  refine calm_of_idle (idle_put hothers ?_) hstack ?_
  · rintro _ ⟨⟩
    exact hidle
  · intro refusal hrefusal he hreads
    obtain ⟨e, hstop, rfl⟩ := Option.map_eq_some_iff.1 hrefusal
    exact hanswer hreads (hstop.trans (congrArg some he))

/-! ### Every step -/

/-- **What user code does.** -/
theorem Calm.move (h : Calm ⟨p, .code author :: rest, r⟩) (hmove : Move p p' pushed r') :
    Calm ⟨p', pushed ++ .code author :: rest, r'⟩ := by
  have hp : p.Idle := h.idle rfl
  have hcode : ∀ f ∈ .code author :: rest, f.rendered? = none := List.forall_mem_cons.2 ⟨rfl, h.top⟩
  cases hmove with
  | edit d => exact calm_of_idle hp hcode nofun
  | @make n hnew State c listener h d hmade =>
    obtain ⟨rfl, rfl⟩ := Prod.mk.inj hmade
    refine calm_of_idle (hp.put ?_) (List.forall_mem_cons.2 ⟨rfl, hcode⟩) nofun
    rintro _ ⟨⟩ hattached
    cases hattached
  | drop n => exact calm_of_idle (hp.put nofun) hcode nofun
  | dispatch e haudience => exact calm_of_idle hp (List.forall_mem_cons.2 ⟨rfl, hcode⟩) nofun
  | @set n entry hentry s name v hstays =>
    have hidle : entry.host.Idle := hp n entry hentry
    exact calm_settle (fun k other _ hk => hp k other hk) hcode (Host.idle_set hidle _ _ _ _ _)
      fun hc => Host.set_ne_reentrant hc hidle
  | @connect n entry hentry s hstays =>
    have hidle : entry.host.Idle := hp n entry hentry
    exact calm_settle (fun k other _ hk => hp k other hk) hcode (Host.idle_connect hidle _ _ _)
      fun hc => Host.connect_ne_reentrant hc hidle
  | rerender | render => exact calm_of_lent hp hcode _

/-- **Every step keeps calm.** -/
theorem Calm.step (h : Calm m) (hstep : Step m m') : Calm m' := by
  cases hstep with
  | code hmove => exact h.move hmove
  | leave => exact calm_of_idle (h.idle rfl) h.top nofun
  | @tell p l ls rest r =>
    have hrest : ∀ f ∈ rest, f.rendered? = none := h.top
    have hdispatch : ∀ f ∈ .dispatching ls :: rest, f.rendered? = none :=
      List.forall_mem_cons.2 ⟨rfl, hrest⟩
    exact calm_of_idle (h.idle rfl) (List.forall_mem_cons.2 ⟨rfl, hdispatch⟩) nofun
  | told => exact calm_of_idle (h.idle rfl) h.top nofun
  | @rendered p n call rest r entry hentry s =>
    refine calm_settle (fun k other hkn hk hattached => ?_) h.top (idle_conclude _ _ _)
      fun hc => conclude_ne_reentrant hc call p.document s
    exact hkn (Option.some.inj ((h.inUse k other hk).1 hattached)).symm

theorem Moment.Reachable.calm (h : m.Reachable) : Calm m := by
  obtain ⟨d, hsteps⟩ := h
  induction hsteps with
  | refl => exact calm_of_idle nofun (List.forall_mem_singleton.2 rfl) nofun
  | tail _ hstep ih => exact ih.step hstep

/-- **No host is caught rendering.**  Take any session on one document, with any hosts, any
components, and any code in listeners and for new hosts.  Whenever user code runs no template of a
host is in use.  A template is in use exactly while its component renders.  And no call on a host
is refused for a rendering that is under way, if the component of the host only reads. -/
theorem idle_of_reachable (h : m.Reachable) :
    (∀ author rest, m.stack = .code author :: rest →
      ∀ n entry, m.page.hosts n = some entry → entry.host.attachment ≠ .inUse) ∧
    (∀ n entry, m.page.hosts n = some entry →
      (entry.host.attachment = .inUse ↔ ∃ call rest, m.stack = .rendering n call :: rest)) ∧
    ∀ refusal, m.refusal = some refusal → refusal.component.OnlyReads →
      refusal.error ≠ .reentrant := by
  have hcalm := h.calm
  refine ⟨fun author rest hstack => hcalm.idle (by rw [hstack]; rfl), fun n entry hentry => ?_,
    fun refusal hrefusal hreads he => hcalm.refusal refusal hrefusal he hreads⟩
  rw [hcalm.inUse n entry hentry]
  constructor
  · intro hhead
    obtain ⟨f, hf, hrendered⟩ := Option.bind_eq_some_iff.1 hhead
    obtain ⟨rest, hstack⟩ := List.head?_eq_some_iff.1 hf
    cases f with
    | code | dispatching => cases hrendered
    | rendering k call =>
      cases hrendered
      exact ⟨call, rest, hstack⟩
  · rintro ⟨call, rest, hstack⟩
    rw [hstack]
    rfl

/-! ### A button that presses itself -/

/-- The component of a button that shows a number and hears when it is pressed. -/
def sampleButton : Component Nat Nat Unit where
  tag := "x-button"
  bound := [⟨"count", .number⟩]
  render h d s := (.ok (Template.ofStrings ["<button @press=\"", "\">", "</button>"]
    [.handler 7, Coercion.number.apply (d.attribute? h.node "count")]), s)

/-- A button. -/
def sampleMade : Host Nat Nat × Document Nat := Host.create sampleButton id {}

/-- It is connected. -/
def sampleShown : Attempt ElementError (Host Nat Nat × Document Nat × Unit) :=
  sampleMade.1.connect sampleButton sampleMade.2 ()

/-- A page with nothing else on it. -/
def sampleAlone (h : Host Nat Nat) (d : Document Nat) : Page Nat Nat :=
  Page.put ⟨{}, fun _ => none⟩ d 0 (some ⟨Unit, sampleButton, h⟩)

/-- The listener of the button runs, called by an event that it has dispatched itself. -/
def samplePressed : Moment Nat Nat where
  page := sampleAlone sampleShown.state.1 sampleShown.state.2.1
  stack := [.code (.listener 7), .dispatching [], .code (.listener 7), .dispatching [],
    .code .session]

theorem reachable_samplePressed : samplePressed.Reachable := by
  have hmade : Steps ⟨⟨{}, fun _ => none⟩, [.code .session], none⟩
      ⟨sampleAlone sampleMade.1 sampleMade.2, [.code .session], none⟩ :=
    .tail (.single (.code (.make rfl sampleButton id rfl))) .leave
  have hshown : ∃ r, Steps ⟨sampleAlone sampleMade.1 sampleMade.2, [.code .session], none⟩
      ⟨samplePressed.page, [.code .session], r⟩ := by
    have hentry : (sampleAlone sampleMade.1 sampleMade.2).hosts 0 =
        some ⟨Unit, sampleButton, sampleMade.1⟩ := Page.hosts_put_self _
    have hpage : samplePressed.page = (sampleAlone sampleMade.1 sampleMade.2).settle 0
        ⟨Unit, sampleButton, sampleMade.1⟩ sampleShown := (Page.put_put ..).symm
    rw [hpage]
    exact ⟨_, steps_connect hentry ()⟩
  have haudience : samplePressed.page.document.audience ⟨"press", ⟨2⟩⟩ = .ok [7] := by
    decide +kernel
  have hpressed : ∀ author rest r, Steps ⟨samplePressed.page, .code author :: rest, r⟩
      ⟨samplePressed.page, .code (.listener 7) :: .dispatching [] :: .code author :: rest, none⟩ :=
    fun author rest r => .tail (.single (.code (.dispatch _ haudience))) .tell
  obtain ⟨r, hshown⟩ := hshown
  exact ⟨{}, hmade.trans (hshown.trans ((hpressed _ _ _).trans (hpressed _ _ none)))⟩

/-- It is not caught rendering when it sets its own host, which renders then, nor when it connects
the host once more, which is refused. -/
theorem idle_of_reachable_samplePressed :
    (∀ entry, samplePressed.page.hosts 0 = some entry → entry.host.attachment ≠ .inUse) ∧
    (∃ m entry, Steps samplePressed m ∧ m.page.hosts 0 = some entry ∧
      entry.host.attachment = .inUse ∧ ∃ call rest, m.stack = .rendering 0 call :: rest) ∧
    ∃ m refusal, Steps samplePressed m ∧ m.refusal = some refusal ∧
      refusal.error ≠ .reentrant := by
  obtain ⟨d₀, hpressed⟩ := reachable_samplePressed
  obtain ⟨hcode, -, -⟩ := idle_of_reachable ⟨d₀, hpressed⟩
  have hidle := hcode _ _ rfl 0
  have hentry : samplePressed.page.hosts 0 = some ⟨Unit, sampleButton, sampleShown.state.1⟩ :=
    Page.hosts_put_self _
  refine ⟨hidle, ?_, ?_⟩
  · have hwrites : (sampleShown.state.1.write sampleButton samplePressed.page.document "count"
        (.int 1)).toOption.isSome = true := by decide +kernel
    have hconnected : sampleShown.state.1.isConnected = true := by decide +kernel
    cases hwrite : sampleShown.state.1.write sampleButton samplePressed.page.document "count"
        (.int 1) with
    | error e => rw [hwrite] at hwrites; cases hwrites
    | ok d =>
      cases hattached : sampleShown.state.1.attachment with
      | inUse => exact absurd hattached (hidle _ hentry)
      | unconnected => simp [Host.isConnected, hattached] at hconnected
      | connected t =>
        have hstep := (Move.rerender hentry hattached hwrite).step (.listener 7)
          samplePressed.stack.tail none
        obtain ⟨-, hrendering, -⟩ := idle_of_reachable ⟨d₀, hpressed.tail hstep⟩
        exact ⟨_, _, .single hstep, Page.hosts_put_self _, rfl,
          (hrendering 0 _ (Page.hosts_put_self _)).1 rfl⟩
  · have hagain : (sampleShown.state.1.connect sampleButton samplePressed.page.document
        ()).stopped = some .alreadyConnected := by decide +kernel
    have hsteps : Steps samplePressed ⟨_, samplePressed.stack, _⟩ := steps_connect hentry ()
    obtain ⟨-, -, hrefusal⟩ := idle_of_reachable ⟨d₀, hpressed.trans hsteps⟩
    have hrefused : Hosted.refusal ⟨Unit, sampleButton, sampleShown.state.1⟩
        (sampleShown.state.1.connect sampleButton samplePressed.page.document ()) =
          some ⟨Unit, sampleButton, .alreadyConnected⟩ := by
      unfold Hosted.refusal
      rw [hagain]
      rfl
    exact ⟨_, _, hsteps, hrefused, hrefusal _ hrefused fun _ _ _ => nofun⟩

end LiveMarkup.Running
