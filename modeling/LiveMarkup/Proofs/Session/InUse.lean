/-
What the actions of a session do to its hosts.

Most of what a session does leaves the hosts alone, and it comes to an end, whatever it is asked
for (`Spares`).  An action on hosts makes one and lets its component write into it, gives one up,
or is a call on one.  So the actions of a session are among the things that user code can do
anyway: whatever world an action leaves, user code can get there by its steps
(`yields_performHost`).
-/
import LiveMarkup.Proofs.Element.Moments
import LiveMarkup.Proofs.Session.Dispatch

namespace LiveMarkup

namespace Session

open Running

variable {α β : Type} {w w' : World}

/-! ### Computations that spare the hosts -/

/-- The computation ends, with a result and a world of which `Q` holds. -/
def Yields (act : Run α) (w : World) (Q : α → World → Prop) : Prop :=
  ∃ a w', act.run w = some (a, w') ∧ Q a w'

theorem Yields.pure {Q : α → World → Prop} {a : α} (h : Q a w) :
    Yields (Pure.pure a : Run α) w Q := ⟨a, w, rfl, h⟩

theorem Yields.imp {act : Run α} {Q R : α → World → Prop} (h : Yields act w Q)
    (himp : ∀ a w', Q a w' → R a w') : Yields act w R := by
  obtain ⟨a, w', hrun, hq⟩ := h
  exact ⟨a, w', hrun, himp a w' hq⟩

theorem Yields.bind {act : Run α} {next : α → Run β} {Q : α → World → Prop}
    {R : β → World → Prop} (h : Yields act w Q)
    (hnext : ∀ a w', Q a w' → Yields (next a) w' R) : Yields (act >>= next) w R := by
  obtain ⟨a, w', hrun, hq⟩ := h
  obtain ⟨b, w'', hrest, hr⟩ := hnext a w' hq
  refine ⟨b, w'', ?_, hr⟩
  rw [StateT.run_bind, hrun]
  exact hrest

theorem yields_get_bind {next : World → Run β} {R : β → World → Prop}
    (h : Yields (next w) w R) : Yields (get >>= next) w R := h

theorem yields_set_bind {next : PUnit → Run β} {R : β → World → Prop}
    (h : Yields (next ⟨⟩) w' R) : Yields (set w' >>= next) w R := h

theorem yields_modify_bind {f : World → World} {next : PUnit → Run β} {R : β → World → Prop}
    (h : Yields (next ⟨⟩) (f w) R) : Yields (modify f >>= next) w R := h

/-- The computation ends and leaves the hosts as they are. -/
def Spares (act : Run α) : Prop := ∀ w, Yields act w fun _ w' => w'.hosts = w.hosts

theorem Spares.pure (a : α) : Spares (Pure.pure a : Run α) := fun _ => .pure rfl

theorem Spares.bind {act : Run α} {next : α → Run β} (h : Spares act)
    (hnext : ∀ a, Spares (next a)) : Spares (act >>= next) := fun w =>
  (h w).bind fun a w' hw' => (hnext a w').imp fun _ _ hw'' => hw''.trans hw'

theorem Spares.mapM {γ : Type} {act : γ → Run α} (h : ∀ c, Spares (act c)) (l : List γ) :
    Spares (l.mapM act) := by
  induction l with
  | nil => exact .pure []
  | cons c rest ih =>
    rw [List.mapM_cons]
    exact (h c).bind fun a => ih.bind fun others => .pure (a :: others)

theorem spares_numberOf (id : NodeId) : Spares (numberOf id) := by
  intro w
  refine yields_get_bind ?_
  cases w.mentioned.idxOf? id with
  | some n => exact .pure rfl
  | none => exact yields_set_bind (.pure rfl)

theorem spares_numberOf? (id : Option NodeId) : Spares (numberOf? id) := by
  cases id with
  | none => exact .pure none
  | some id => exact (spares_numberOf id).bind fun n => .pure (some n)

theorem spares_numbersOf (ids : List NodeId) : Spares (numbersOf ids) := .mapM spares_numberOf ids

theorem yields_failed (failure : Failure) (w : World) :
    Yields (failed failure) w fun answer w' =>
      w'.hosts = w.hosts ∧ ∃ number, answer = .failed failure number :=
  (spares_numberOf? failure.node? w).bind fun number _ hw' => .pure ⟨hw', number, rfl⟩

theorem spares_failed (failure : Failure) : Spares (failed failure) := fun w =>
  (yields_failed failure w).imp fun _ _ h => h.1

theorem spares_edited (result : Except DocumentError (Document Listener)) :
    Spares (edited result) := by
  cases result with
  | ok d => exact fun w => yields_modify_bind (.pure rfl)
  | error e => exact spares_failed _

theorem yields_attempted {ε : Type} (stopped : Option ε) (reason : ε → Failure) (w : World) :
    Yields (attempted stopped reason) w fun answer w' => w'.hosts = w.hosts ∧
      ∀ failure number, answer = .failed failure number →
        ∃ e, stopped = some e ∧ failure = reason e := by
  cases stopped with
  | none => exact .pure ⟨rfl, nofun⟩
  | some e =>
    refine (yields_failed (reason e) w).imp ?_
    rintro _ w' ⟨hhosts, number, rfl⟩
    refine ⟨hhosts, ?_⟩
    rintro failure _ ⟨⟩
    exact ⟨e, rfl, rfl⟩

theorem spares_attempted {ε : Type} (stopped : Option ε) (reason : ε → Failure) :
    Spares (attempted stopped reason) := fun w =>
  (yields_attempted stopped reason w).imp fun _ _ h => h.1

theorem spares_orGone {found : Option α} {act : α → Run (Answer Listener)}
    (h : ∀ a, Spares (act a)) : Spares (orGone found act) := by
  cases found with
  | none => exact .pure _
  | some a => exact h a

theorem spares_answerNode (id : Option NodeId) : Spares (answerNode id) :=
  (spares_numberOf? id).bind fun _ => .pure _

theorem spares_answerNodes (ids : List NodeId) : Spares (answerNodes ids) :=
  (spares_numbersOf ids).bind fun _ => .pure _

theorem spares_answerResult (result : Except DocumentError α) (answer : α → Answer Listener) :
    Spares (answerResult result answer) := by
  cases result with
  | ok a => exact .pure _
  | error e => exact spares_failed _

theorem spares_rowsOf (d : Document Listener) (tree : Forest NodeId) : Spares (rowsOf d tree) :=
  .mapM (fun _ => (spares_numberOf _).bind fun _ => (spares_numberOf? _).bind fun _ => .pure _) _

theorem spares_answerAbout (d : Document Listener) (id : NodeId) (q : Query) :
    Spares (answerAbout d id q) := by
  cases q with
  | parent | firstChild | lastChild | shadowRoot => exact spares_answerNode _
  | children | descendants | walk => exact spares_answerNodes _
  | content | attributes | outerHtml | innerHtml => exact spares_answerResult _ _
  | contains | tag | text | attributeValue | propertyValue | listenerCount => exact .pure _
  | dump =>
    simp only [answerAbout]
    cases d.subtree? id with
    | some tree => exact (spares_rowsOf d tree).bind fun _ => .pure _
    | none => exact spares_failed _

theorem spares_answerQuery (scope : Scope) (q : Query) : Spares (answerQuery scope q) := fun w =>
  yields_get_bind (spares_orGone (fun id => spares_answerAbout w.document id q) w)

theorem spares_created (made : Document Listener × NodeId) : Spares (created made) := fun _ =>
  yields_modify_bind (spares_answerNode _ _)

theorem yields_orGone {found : Option α} {act : α → Run (Answer Listener)}
    {Q : Answer Listener → World → Prop} (hgone : Q .gone w)
    (h : ∀ a, found = some a → Yields (act a) w Q) : Yields (orGone found act) w Q := by
  cases found with
  | none => exact .pure hgone
  | some a => exact h a rfl

theorem spares_performEdit (scope : Scope) (e : Edit) : Spares (performEdit scope e) := by
  intro w
  refine yields_get_bind ?_
  cases e with
  | create content => exact spares_created _ w
  | parse markup => exact spares_created _ w
  | attachShadow node =>
    refine yields_orGone rfl fun id _ => ?_
    cases w.document.attachShadow id with
    | ok made => exact spares_created _ w
    | error e => exact spares_failed _ w
  | append parent child =>
    refine yields_orGone rfl fun parent _ => yields_orGone rfl fun child _ => ?_
    exact yields_set_bind (spares_attempted _ _ _)
  | remove node | setText node | setAttribute node | setProperty node =>
    exact yields_orGone rfl fun id _ => spares_edited _ w
  | removeAttribute node name =>
    refine yields_orGone rfl fun id _ => ?_
    cases w.document.removeAttribute id name with
    | ok d => exact yields_set_bind (.pure rfl)
    | error e => exact spares_failed _ w

theorem spares_templateValues (values : List SlotValue) : Spares (templateValues values) :=
  fun _ => yields_get_bind (yields_set_bind (.pure rfl))

theorem spares_onTemplate {n : Nat} {act : Template Listener String → Run (Answer Listener)}
    (h : ∀ t, Spares (act t)) : Spares (onTemplate n act) := fun w =>
  yields_get_bind (spares_orGone h w)

theorem spares_putTemplate (n : Nat) (state : Template Listener String × Document Listener) :
    Spares (putTemplate n state) := fun _ => ⟨_, _, rfl, rfl⟩

theorem spares_attemptTemplate (n : Nat)
    (attempt : Attempt TemplateError (Template Listener String × Document Listener)) :
    Spares (attemptTemplate n attempt) :=
  (spares_putTemplate n _).bind fun _ => spares_attempted _ _

theorem spares_performTemplate (scope : Scope) (a : TemplateAction) :
    Spares (performTemplate scope a) := by
  cases a with
  | newContext node =>
    exact fun w => yields_get_bind (yields_orGone rfl fun id _ => yields_set_bind (.pure rfl))
  | dropContext n => exact fun w => yields_modify_bind (.pure rfl)
  | create strings values =>
    refine (spares_templateValues values).bind fun values w => ?_
    exact yields_get_bind (yields_set_bind (.pure rfl))
  | compile n =>
    refine spares_onTemplate fun t w => yields_get_bind ?_
    exact (spares_putTemplate n _).bind (fun _ => .pure _) w
  | materialize n =>
    refine spares_onTemplate fun t w => yields_get_bind ?_
    generalize t.materialize w.document = made
    obtain ⟨state, result⟩ := made
    refine (spares_putTemplate n state).bind (fun _ => ?_) w
    cases result with
    | ok fragment => exact spares_answerNode _
    | error e => exact spares_failed _
  | render n c mount =>
    refine spares_onTemplate fun t w => yields_get_bind ?_
    exact spares_orGone (fun host => spares_attemptTemplate n _) w
  | update n values =>
    refine spares_onTemplate fun t => (spares_templateValues values).bind fun values w => ?_
    exact yields_get_bind (spares_attemptTemplate n _ w)
  | updateSlots n values changed =>
    refine spares_onTemplate fun t => (spares_templateValues values).bind fun values w => ?_
    exact yields_get_bind (spares_attemptTemplate n _ w)
  | view n =>
    refine spares_onTemplate fun t => (spares_numbersOf _).bind fun _ => ?_
    exact (spares_numberOf? _).bind fun _ => .pure _
  | partText n position values =>
    refine spares_onTemplate fun t => (spares_templateValues values).bind fun values => ?_
    split <;> exact .pure _
  | intoValues n => exact spares_onTemplate fun t w => yields_modify_bind (.pure rfl)
  | inspect n => exact spares_onTemplate fun t => .pure _
  | inspectPart n position =>
    refine spares_onTemplate fun t => spares_orGone fun part => ?_
    exact (spares_numberOf _).bind fun _ => .pure _

/-! ### Worlds and pages -/

/-- A host of a session, as a host of its component. -/
def Kind.hosted (kind : Kind) (h : Host Listener String) : Hosted Listener String :=
  ⟨Progress, kind.component, h⟩

def HostEntry.hosted (entry : HostEntry) : Hosted Listener String := entry.kind.hosted entry.host

/-- What user code works on in a session. -/
def World.page (w : World) : Page Listener String :=
  ⟨w.document, fun n => w.hosts[n]?.join.map HostEntry.hosted⟩

theorem hosts_page_eq_update {n : Nat} {found : Option HostEntry}
    (hfound : w'.hosts[n]?.join = found)
    (hothers : ∀ k, k ≠ n → w'.hosts[k]?.join = w.hosts[k]?.join) :
    w'.page.hosts = Function.update w.page.hosts n (found.map HostEntry.hosted) := by
  funext k
  show w'.hosts[k]?.join.map HostEntry.hosted = _
  by_cases hkn : k = n
  · subst hkn
    rw [Function.update_self, hfound]
  · rw [Function.update_of_ne hkn, hothers k hkn]
    rfl

theorem hosts_page_setIfInBounds {n : Nat} (hn : n < w.hosts.size) (found : Option HostEntry)
    (hhosts : w'.hosts = w.hosts.setIfInBounds n found) :
    w'.page.hosts = Function.update w.page.hosts n (found.map HostEntry.hosted) := by
  refine hosts_page_eq_update ?_ fun k hkn => ?_
  · rw [hhosts, Array.getElem?_setIfInBounds_self_of_lt hn]
    rfl
  · rw [hhosts, Array.getElem?_setIfInBounds_ne (Ne.symm hkn)]

theorem hosts_page_push {entry : HostEntry} (hhosts : w'.hosts = w.hosts.push (some entry)) :
    w'.page.hosts = Function.update w.page.hosts w.hosts.size (some entry.hosted) := by
  have hfound : w'.hosts[w.hosts.size]?.join = some entry := by
    rw [hhosts]
    simp
  refine hosts_page_eq_update hfound fun k hkn => ?_
  rw [hhosts, Array.getElem?_push, if_neg hkn]

/-- User code gets from one world to another by its steps. -/
def Goes (w w' : World) : Prop :=
  ∀ author rest r, ∃ r', Steps ⟨w.page, .code author :: rest, r⟩ ⟨w'.page, .code author :: rest, r'⟩

theorem Goes.refl (w : World) : Goes w w := fun _ _ r => ⟨r, .refl⟩

theorem Goes.trans {w'' : World} (h : Goes w w') (h' : Goes w' w'') : Goes w w'' := by
  intro author rest r
  obtain ⟨r', hsteps⟩ := h author rest r
  obtain ⟨r'', hsteps'⟩ := h' author rest r'
  exact ⟨r'', hsteps.trans hsteps'⟩

/-- The document does not matter, since user code can leave any. -/
theorem goes_of_steps {p : Page Listener String} (hsteps : ∀ author rest r, ∃ r',
      Steps ⟨w.page, .code author :: rest, r⟩ ⟨p, .code author :: rest, r'⟩)
    (hhosts : w'.page.hosts = p.hosts) : Goes w w' := by
  intro author rest r
  obtain ⟨r', hrun⟩ := hsteps author rest r
  have hpage : w'.page = { p with document := w'.document } := by
    rw [← hhosts]
    rfl
  rw [hpage]
  exact ⟨none, hrun.tail (.code (.edit w'.document))⟩

/-- Whatever leaves the hosts alone is an edit. -/
theorem Goes.of_hosts (h : w'.hosts = w.hosts) : Goes w w' := by
  refine goes_of_steps (fun _ _ r => ⟨r, .refl⟩) ?_
  unfold World.page
  rw [h]

/-! ### Calls on hosts -/

/-- The answer is not that a host is rendering. -/
def Untroubled (answer : Answer Listener) : Prop :=
  ∀ number, answer ≠ .failed (.element .reentrant) number

variable {n : Nat} {entry : HostEntry}

/-- A call on a host is what it is for user code, whatever the session answers. -/
theorem yields_attemptHost (hentry : w.hosts[n]? = some (some entry))
    (attempt : Attempt ElementError (Host Listener String × Document Listener × Progress))
    (hcall : ∀ author rest r, Steps ⟨w.page, .code author :: rest, r⟩
      ⟨w.page.settle n entry.hosted attempt, .code author :: rest,
        entry.hosted.refusal attempt⟩) :
    Yields (attemptHost n entry attempt) w fun answer w' =>
      Goes w w' ∧ (attempt.stopped ≠ some .reentrant → Untroubled answer) := by
  refine yields_modify_bind ((yields_attempted attempt.stopped Failure.element _).imp ?_)
  rintro answer w' ⟨hhosts, hfailed⟩
  refine ⟨goes_of_steps (fun author rest r => ⟨_, hcall author rest r⟩) ?_,
    fun hstopped number hanswer => ?_⟩
  · exact hosts_page_setIfInBounds (Array.getElem?_eq_some_iff.1 hentry).1 _ hhosts
  · obtain ⟨e, hstop, hreason⟩ := hfailed _ _ hanswer
    cases hreason
    exact hstopped hstop

/-! ### New hosts -/

/-- Writing into a new host is not refused for a rendering. -/
theorem writeAll_ne_reentrant (kind : Kind) (writes : List (String × SlotValue))
    {h : Host Listener String} (hfresh : h.attachment = .unconnected) (d : Document Listener)
    (progress : Progress) : (writeAll kind writes (h, d, progress)).stopped ≠ some .reentrant := by
  induction writes generalizing d progress with
  | nil => exact nofun
  | cons write rest ih =>
    obtain ⟨name, value⟩ := write
    simp only [writeAll]
    generalize hset : h.set kind.component d
      { progress with handlers := (kind.receive progress.handlers value).1 } name
      (kind.receive progress.handlers value).2 = attempt
    obtain ⟨hhost, hstop⟩ := hset ▸ Host.set_of_unconnected hfresh
    unfold Attempt.andThen
    split
    · obtain ⟨⟨h', d', progress'⟩, stopped⟩ := attempt
      obtain rfl : h' = h := hhost
      exact ih d' progress'
    · exact hstop

/-- A component writes into its new host by calls. -/
theorem steps_writeAll (kind : Kind) (writes : List (String × SlotValue))
    {h : Host Listener String} (hfresh : h.attachment = .unconnected) (p : Page Listener String)
    (n : Nat) (d : Document Listener) (progress : Progress) (author : Author Listener)
    (rest : List (Frame Listener String)) (r : Option (Refusal Listener String)) :
    ∃ r', Steps ⟨p.put d n (some (kind.hosted h)), .code author :: rest, r⟩
      ⟨p.put (writeAll kind writes (h, d, progress)).state.2.1 n
        (some (kind.hosted h)), .code author :: rest, r'⟩ := by
  induction writes generalizing d progress r with
  | nil => exact ⟨r, .refl⟩
  | cons write others ih =>
    obtain ⟨name, value⟩ := write
    simp only [writeAll]
    generalize hset : h.set kind.component d
      { progress with handlers := (kind.receive progress.handlers value).1 } name
      (kind.receive progress.handlers value).2 = attempt
    have hput : (p.put d n (some (kind.hosted h))).hosts n =
        some (kind.hosted h) := Page.hosts_put_self _
    have hstep : Steps ⟨p.put d n (some (kind.hosted h)), .code author :: rest, r⟩
        ⟨p.put attempt.state.2.1 n (some (kind.hosted attempt.state.1)),
          .code author :: rest, (kind.hosted h).refusal attempt⟩ := by
      have hsettle : p.put attempt.state.2.1 n (some (kind.hosted attempt.state.1)) =
          (p.put d n (some (kind.hosted h))).settle n (kind.hosted h) attempt :=
        (Page.put_put ..).symm
      rw [hsettle, ← hset]
      exact steps_set hput { progress with handlers := (kind.receive progress.handlers value).1 }
        name (kind.receive progress.handlers value).2
    obtain ⟨hhost, -⟩ := hset ▸ Host.set_of_unconnected hfresh
    rw [hhost] at hstep
    unfold Attempt.andThen
    split
    · obtain ⟨⟨h', d', progress'⟩, stopped⟩ := attempt
      obtain rfl : h' = h := hhost
      obtain ⟨r', hrest⟩ := ih d' progress' _
      exact ⟨r', hstep.trans hrest⟩
    · exact ⟨_, hstep⟩

/-- Making a host is making its element and letting its component write. -/
theorem steps_make (kind : Kind) (writes : List (String × SlotValue)) (w : World)
    (author : Author Listener) (rest : List (Frame Listener String))
    (r : Option (Refusal Listener String)) {made : Attempt ElementError
      (Host Listener String × Document Listener × Progress)}
    (hmade : Host.make kind.component (Listener.bound (.host w.hosts.size))
      (writeNew kind writes) w.document { handlers := w.hostHandlers } = made) :
    Steps ⟨w.page, .code author :: rest, r⟩
      ⟨w.page.put made.state.2.1 w.hosts.size (some (kind.hosted made.state.1)),
        .code author :: rest, none⟩ := by
  have hnew : w.page.hosts w.hosts.size = none := by simp [World.page]
  have hcreate := Move.make hnew kind.component (Listener.bound (.host w.hosts.size)) rfl
  obtain ⟨r', hwrites⟩ := steps_writeAll kind writes
    (h := (Host.create kind.component (Listener.bound (.host w.hosts.size)) w.document).1) rfl
    w.page w.hosts.size
    (Host.create kind.component (Listener.bound (.host w.hosts.size)) w.document).2
    { handlers := w.hostHandlers } (.component w.hosts.size) (.code author :: rest) none
  subst hmade
  exact ((Relation.ReflTransGen.single (.code hcreate)).trans hwrites).tail .leave

theorem make_ne_reentrant (kind : Kind) (writes : List (String × SlotValue))
    (listener : String → Listener) (d : Document Listener) (progress : Progress) :
    (Host.make kind.component listener (writeNew kind writes) d progress).stopped ≠
      some .reentrant :=
  writeAll_ne_reentrant kind writes (h := (Host.create kind.component listener d).1) rfl
    (Host.create kind.component listener d).2 progress

/-- A host that is refused is given up again. -/
theorem yields_makeHost (kind : Kind) (writes : List (String × SlotValue)) (w : World) :
    Yields (makeHost kind writes) w fun answer w' => Goes w w' ∧ Untroubled answer := by
  have hnew : w.page.hosts w.hosts.size = none := by simp [World.page]
  have hstopped := make_ne_reentrant kind writes (Listener.bound (.host w.hosts.size)) w.document
    { handlers := w.hostHandlers }
  have hsteps := fun author rest r => steps_make kind writes w author rest r rfl
  refine yields_get_bind (yields_set_bind ?_)
  generalize Host.make kind.component (Listener.bound (.host w.hosts.size))
    (writeNew kind writes) w.document { handlers := w.hostHandlers } = made at *
  cases hstop : made.stopped with
  | some e =>
    simp only
    refine (yields_failed (.element e) _).imp ?_
    rintro _ w' ⟨hhosts, number, rfl⟩
    refine ⟨goes_of_steps (fun author rest r =>
      ⟨none, (hsteps author rest r).tail (.code (.drop w.hosts.size))⟩) ?_,
        fun number' hanswer => ?_⟩
    · have hsame : w'.page.hosts = w.page.hosts := by
        unfold World.page
        rw [hhosts]
      rw [hsame, Page.put_put]
      exact (Function.update_eq_self_iff.2 hnew.symm).symm
    · obtain ⟨⟩ := hanswer
      exact hstopped hstop
  | none =>
    simp only
    refine yields_modify_bind ((spares_numberOf _ _).bind fun number w' hw' => .pure ⟨?_, nofun⟩)
    refine goes_of_steps (fun author rest r => ⟨none, hsteps author rest r⟩) ?_
    exact hosts_page_push hw'

/-! ### Actions on hosts -/

/-- The component of the host that the action lets render, if it does, only reads. -/
def HostAction.OnlyReads (w : World) : HostAction → Prop
  | set n _ _ | connect n =>
    ∀ entry : HostEntry, w.hosts[n]? = some (some entry) → entry.kind.OnlyReads
  | createBare | createWidget _ _ _ _ | get _ _ | view _ | inspect _ | drop _ => True

/-- Acting on a host that was given up does nothing. -/
theorem yields_onHost {n : Nat} {act : HostEntry → Run (Answer Listener)}
    {Q : Answer Listener → World → Prop} (hgone : Q .gone w)
    (h : ∀ entry, w.hosts[n]? = some (some entry) → Yields (act entry) w Q) :
    Yields (onHost n act) w Q := by
  refine yields_get_bind (yields_orGone hgone fun entry hentry => h entry ?_)
  exact Option.join_eq_some_iff.1 hentry

theorem hosts_page (hentry : w.hosts[n]? = some (some entry)) :
    w.page.hosts n = some entry.hosted := by
  unfold World.page
  simp only
  rw [hentry]
  rfl

/-- Looking at a host leaves all hosts alone. -/
theorem yields_look {act : Run (Answer Listener)} {Q : Answer Listener → Prop}
    (h : Yields act w fun answer w' => w'.hosts = w.hosts ∧ Q answer) :
    Yields act w fun answer w' => Goes w w' ∧ Q answer :=
  h.imp fun _ _ hlook => ⟨.of_hosts hlook.1, hlook.2⟩

/-- **An action on hosts is what user code does by its steps.**  If the component only reads and no
host is in use, it is not refused for a rendering that is under way. -/
theorem yields_performHost (a : HostAction) (w : World) :
    Yields (performHost a) w fun answer w' =>
      Goes w w' ∧ (w.page.Idle → a.OnlyReads w → Untroubled answer) := by
  have hgone : Goes w w ∧ (w.page.Idle → a.OnlyReads w → Untroubled .gone) :=
    ⟨.refl w, fun _ _ => nofun⟩
  cases a with
  | createBare =>
    exact (yields_makeHost .bare [] w).imp fun _ _ h => ⟨h.1, fun _ _ => h.2⟩
  | createWidget strings recipes later writes =>
    exact (yields_makeHost (.widget ⟨strings, recipes, later⟩) writes w).imp fun _ _ h =>
      ⟨h.1, fun _ _ => h.2⟩
  | get n name =>
    refine yields_onHost hgone fun entry _ => yields_look (yields_get_bind ?_)
    cases hget : entry.host.get entry.kind.component w.document name with
    | ok v => exact .pure ⟨rfl, fun _ _ => nofun⟩
    | error e =>
      refine (yields_failed _ _).imp ?_
      rintro _ w' ⟨hhosts, number, rfl⟩
      refine ⟨hhosts, fun _ _ number' hanswer => ?_⟩
      obtain ⟨⟩ := hanswer
      exact Host.get_ne_reentrant hget rfl
  | set n name value =>
    refine yields_onHost hgone fun entry hentry => ?_
    refine yields_get_bind (yields_modify_bind (yields_get_bind ?_))
    refine (yields_attemptHost hentry _ fun author rest r => ?_).imp ?_
    · exact steps_set (hosts_page hentry) (entry.progress _) name _
    · rintro answer w' ⟨hw', hanswer⟩
      refine ⟨.trans (.of_hosts rfl) hw', fun hidle hreads => hanswer ?_⟩
      exact Host.set_ne_reentrant (Kind.onlyReads_component (hreads entry hentry))
        (hidle n _ (hosts_page hentry))
  | connect n =>
    refine yields_onHost hgone fun entry hentry => yields_get_bind ?_
    refine (yields_attemptHost hentry _ fun author rest r => ?_).imp ?_
    · exact steps_connect (hosts_page hentry) (entry.progress w)
    · rintro answer w' ⟨hw', hanswer⟩
      refine ⟨hw', fun hidle hreads => hanswer ?_⟩
      exact Host.connect_ne_reentrant (Kind.onlyReads_component (hreads entry hentry))
        (hidle n _ (hosts_page hentry))
  | view n | inspect n =>
    refine yields_onHost hgone fun entry _ => yields_look ?_
    exact (spares_numberOf _ _).bind fun number w' hw' => .pure ⟨hw', fun _ _ => nofun⟩
  | drop n =>
    refine yields_onHost hgone fun entry hentry => yields_modify_bind (.pure ⟨?_, fun _ _ => nofun⟩)
    refine goes_of_steps (fun _ _ _ => ⟨none, .single (.code (.drop n))⟩) ?_
    exact hosts_page_setIfInBounds (Array.getElem?_eq_some_iff.1 hentry).1 none rfl

/-! ### Lending the template -/

/-- The world in which the template of a host is in use. -/
def World.lend (w : World) (n : Nat) (entry : HostEntry) : World :=
  { w with
    hosts := w.hosts.setIfInBounds n
      (some { entry with host := { entry.host with attachment := .inUse } }) }

theorem page_lend (hentry : w.hosts[n]? = some (some entry)) :
    (w.lend n entry).page = w.page.put w.document n (some entry.hosted.lent) := by
  have hn := (Array.getElem?_eq_some_iff.1 hentry).1
  have hhosts : (w.lend n entry).page.hosts =
      (w.page.put w.document n (some entry.hosted.lent)).hosts :=
    hosts_page_setIfInBounds hn (some { entry with host := { entry.host with
      attachment := .inUse } }) rfl
  exact congrArg (Page.mk w.document) hhosts

end Session

end LiveMarkup
