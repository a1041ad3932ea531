import Calculator.Proofs.Evaluation

/-! Evaluations as a run under an interrupt sees them. Here a poll is a step of its own that may
raise a signal, a failure is the other signal, and whoever handles failures has to let the
interruption pass. `Evaluation.watch` turns an evaluation into such a run; it commutes with
every way in which evaluations are put together. -/

namespace Calculator

inductive Signal
  | interrupted
  | failed (f : Failure)

/-- Runs that count their polls, on from those made before. A signal keeps the count. -/
abbrev Watched (α : Type) := ExceptT Signal (StateM Nat) α

namespace Watched

variable {α β : Type}

def runFrom (w : Watched α) (n : Nat) : Except Signal α × Nat := w.run.run n

/-- Asks the interrupt, which counts as a poll whatever the answer is. -/
def check (fires : Nat → Bool) : Watched Unit := do
  let n ← get
  set (n + 1)
  if fires n then throw .interrupted

def answer : Except Failure α → Watched α
  | .ok a => pure a
  | .error f => throw (.failed f)

def expectSuccess (subject : String) (w : Watched α) : Watched α :=
  tryCatch w fun
    | .failed f => throw (.failed (if f.isDomain then .internal subject f else f))
    | .interrupted => throw .interrupted

theorem ext {v w : Watched α} (h : ∀ n, v.runFrom n = w.runFrom n) : v = w := funext h

@[simp] theorem runFrom_pure (a : α) (n : Nat) : (pure a : Watched α).runFrom n = (.ok a, n) := rfl

@[simp] theorem runFrom_throw (s : Signal) (n : Nat) :
    (throw s : Watched α).runFrom n = (.error s, n) := rfl

theorem runFrom_bind (w : Watched α) (f : α → Watched β) (n : Nat) :
    (w >>= f).runFrom n =
      match w.runFrom n with
      | (.ok a, m) => (f a).runFrom m
      | (.error s, m) => (.error s, m) := by
  change (ExceptT.bind w f).run.run n = _
  unfold runFrom ExceptT.run StateT.run
  simp only [bind, ExceptT.bind, ExceptT.mk, StateT.bind]
  cases w n with
  | mk ending m => cases ending <;> rfl

@[simp] theorem runFrom_check (fires : Nat → Bool) (n : Nat) :
    (check fires).runFrom n = (if fires n then .error .interrupted else .ok (), n + 1) := by
  change (ite (fires n = true) (throw .interrupted) (pure ()) : Watched Unit).runFrom (n + 1) = _
  by_cases h : fires n <;> simp [h]

theorem runFrom_expectSuccess (subject : String) (w : Watched α) (n : Nat) :
    (expectSuccess subject w).runFrom n =
      match w.runFrom n with
      | (.ok a, m) => (.ok a, m)
      | (.error .interrupted, m) => (.error .interrupted, m)
      | (.error (.failed f), m) =>
        (.error (.failed (if f.isDomain then .internal subject f else f)), m) := by
  unfold expectSuccess runFrom ExceptT.run StateT.run
  simp only [tryCatch, tryCatchThe, MonadExceptOf.tryCatch, ExceptT.tryCatch, ExceptT.mk, bind,
    StateT.bind]
  cases w n with
  | mk ending m =>
    cases ending with
    | ok a => rfl
    | error s => cases s <;> rfl

end Watched

namespace Evaluation

variable {α β : Type} (fires : Nat → Bool)

/-- The run of an evaluation under an interrupt. -/
def watch (e : Evaluation α) : Watched α := ExceptT.mk fun n =>
  match e.computation.runFrom fires n with
  | (none, m) => (.error .interrupted, m)
  | (some (.ok a), m) => (.ok a, m)
  | (some (.error f), m) => (.error (.failed f), m)

theorem runFrom_watch (e : Evaluation α) (n : Nat) :
    (e.watch fires).runFrom n =
      match e.computation.runFrom fires n with
      | (none, m) => (.error .interrupted, m)
      | (some (.ok a), m) => (.ok a, m)
      | (some (.error f), m) => (.error (.failed f), m) := rfl

@[simp] theorem watch_pure (a : α) : (pure a : Evaluation α).watch fires = pure a := rfl

@[simp] theorem watch_answer (e : Except Failure α) :
    (answer e).watch fires = Watched.answer e := by cases e <;> rfl

@[simp] theorem watch_throw (f : Failure) :
    (throw f : Evaluation α).watch fires = throw (.failed f) := rfl

@[simp] theorem watch_bind (e : Evaluation α) (f : α → Evaluation β) :
    (e >>= f).watch fires = e.watch fires >>= fun a => (f a).watch fires := by
  apply Watched.ext
  intro n
  rw [Watched.runFrom_bind, runFrom_watch, runFrom_watch, computation_bind, Polling.runFrom_bind]
  cases e.computation.runFrom fires n with
  | mk ending m =>
    cases ending with
    | none => rfl
    | some ending => cases ending <;> rfl

@[simp] theorem watch_poll : poll.watch fires = Watched.check fires := by
  apply Watched.ext
  intro n
  have point : poll.computation = .poll none fun _ => .done (.ok ()) := rfl
  rw [Watched.runFrom_check, runFrom_watch, point, Polling.runFrom]
  by_cases h : fires n <;> simp [h, Polling.runFrom]

@[simp] theorem watch_expectSuccess (subject : String) (e : Evaluation α) :
    (expectSuccess subject e).watch fires = Watched.expectSuccess subject (e.watch fires) := by
  apply Watched.ext
  intro n
  rw [Watched.runFrom_expectSuccess, runFrom_watch, runFrom_watch, computation_expectSuccess,
    Polling.runFrom_bind]
  cases e.computation.runFrom fires n with
  | mk ending m =>
    cases ending with
    | none => rfl
    | some ending => cases ending <;> rfl

@[simp] theorem watch_announce (name : String) (e : Evaluation α) :
    (announce name e).watch fires = e.watch fires := by
  apply Watched.ext
  intro n
  have announced : (announce name e).computation = e.computation.announce name := rfl
  rw [runFrom_watch, runFrom_watch, announced, Polling.runFrom_announce]

theorem le_runFrom_watch (e : Evaluation α) (n : Nat) : n ≤ ((e.watch fires).runFrom n).2 := by
  have polls : ((e.watch fires).runFrom n).2 = (e.computation.runFrom fires n).2 := by
    rw [runFrom_watch]
    rcases e.computation.runFrom fires n with ⟨_ | (_ | _), m⟩ <;> rfl
  rw [polls]
  exact Polling.le_runFrom fires e.computation n

/-- What an uninterrupted evaluation comes to, as the ending of a run. -/
def ending (e : Evaluation α) : Except Signal α :=
  match e.result with
  | .ok a => .ok a
  | .error f => .error (.failed f)

theorem watch_never (e : Evaluation α) :
    (e.watch Polling.never).runFrom 0 = (e.ending, e.polls) := by
  have whole := Polling.run_never e.computation
  rw [Polling.run] at whole
  rw [runFrom_watch, whole, ending, result]
  cases e.computation.result <;> rfl

/-- The cut law: with `k` polls allowed, either everything goes as without an interrupt, or
poll `k + 1` ends the run. -/
theorem watch_after (e : Evaluation α) (k : Nat) :
    (e.watch (Polling.after k)).runFrom 0 =
      if e.polls ≤ k then (e.ending, e.polls) else (.error .interrupted, k + 1) := by
  have cut := Polling.run_after e.computation k
  rw [Polling.run] at cut
  rw [runFrom_watch, cut, ending, result, polls]
  by_cases h : e.computation.polls ≤ k
  · simp only [h, if_true]
    cases e.computation.result <;> rfl
  · simp only [h, if_false]

end Evaluation
end Calculator
