/-
Changes that may stop half way.

An attempt is the state that was reached and, if it stopped, the reason.  What was
done before the stop stays done, so a caller who wants all or nothing has to put the
old state back.
-/

namespace LiveMarkup

/-- The state that was reached, and why it stopped there if it did. -/
structure Attempt (ε σ : Type) where
  state : σ
  stopped : Option ε := none
  deriving DecidableEq, Repr

namespace Attempt

variable {ε ε' σ τ : Type}

/-- A change that went through. -/
def done (s : σ) : Attempt ε σ := ⟨s, none⟩

/-- A change that stopped. -/
def stop (s : σ) (e : ε) : Attempt ε σ := ⟨s, some e⟩

/-- A change that is made as a whole or not at all, starting from `s`. -/
def ofExcept (s : σ) : Except ε σ → Attempt ε σ
  | .ok s' => done s'
  | .error e => stop s e

/-- Go on from the state reached, unless it stopped. -/
def andThen (a : Attempt ε σ) (next : σ → Attempt ε σ) : Attempt ε σ :=
  match a.stopped with
  | none => next a.state
  | some _ => a

/-- See the state in another way. -/
def map (f : σ → τ) (a : Attempt ε σ) : Attempt ε τ := ⟨f a.state, a.stopped⟩

/-- Give the reason in another way. -/
def mapError (f : ε → ε') (a : Attempt ε σ) : Attempt ε' σ := ⟨a.state, a.stopped.map f⟩

@[simp] theorem done_andThen (s : σ) (next : σ → Attempt ε σ) : (done s).andThen next = next s :=
  rfl

@[simp] theorem stop_andThen (s : σ) (e : ε) (next : σ → Attempt ε σ) :
    (stop s e).andThen next = stop s e := rfl

@[simp] theorem ofExcept_ok (s s' : σ) : (ofExcept s (.ok s') : Attempt ε σ) = done s' := rfl

@[simp] theorem ofExcept_error (s : σ) (e : ε) : ofExcept s (.error e) = stop s e := rfl

@[simp] theorem done_map (f : σ → τ) (s : σ) : (done s : Attempt ε σ).map f = done (f s) := rfl

@[simp] theorem stop_map (f : σ → τ) (s : σ) (e : ε) : (stop s e).map f = stop (f s) e := rfl

@[simp] theorem done_mapError (f : ε → ε') (s : σ) :
    (done s : Attempt ε σ).mapError f = done s := rfl

@[simp] theorem stop_mapError (f : ε → ε') (s : σ) (e : ε) :
    (stop s e).mapError f = stop s (f e) := rfl

@[simp] theorem state_done (s : σ) : (done s : Attempt ε σ).state = s := rfl

@[simp] theorem stopped_done (s : σ) : (done s : Attempt ε σ).stopped = none := rfl

@[simp] theorem state_stop (s : σ) (e : ε) : (stop s e).state = s := rfl

@[simp] theorem stopped_stop (s : σ) (e : ε) : (stop s e).stopped = some e := rfl

/-- An attempt that did not stop went through to the state it reached. -/
theorem eq_done {a : Attempt ε σ} (h : a.stopped = none) : a = done a.state := by
  cases a
  exact congrArg (Attempt.mk _) h

/-- What went through as a whole went through as far as the first step. -/
theorem stopped_of_andThen {a : Attempt ε σ} {next : σ → Attempt ε σ}
    (h : (a.andThen next).stopped = none) : a.stopped = none := by
  unfold andThen at h
  split at h
  · next hnone => exact hnone
  · exact h

end Attempt

end LiveMarkup
