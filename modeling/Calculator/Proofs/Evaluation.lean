import Calculator.Evaluation
import Calculator.Proofs.Polling
import Mathlib.Data.Nat.Factorial.Basic

/-! Equations of evaluations. `result` turns sequencing into sequencing of failures or values,
and `polls` adds up the polls of the parts that are reached. The operations on numbers get
one equation each, so that nothing later has to look at how they poll. -/

namespace Calculator

namespace Evaluation

variable {α β : Type}

theorem computation_bind (e : Evaluation α) (f : α → Evaluation β) :
    (e >>= f).computation = e.computation >>= fun
      | .ok a => (f a).computation
      | .error g => pure (.error g) :=
  congrArg (e.computation >>= ·) (funext fun ending => by cases ending <;> rfl)

theorem computation_expectSuccess (subject : String) (e : Evaluation α) :
    (expectSuccess subject e).computation = e.computation >>= fun
      | .ok a => pure (.ok a)
      | .error f => pure (.error (if f.isDomain then .internal subject f else f)) :=
  congrArg (e.computation >>= ·) (funext fun ending => by cases ending <;> rfl)

@[simp] theorem result_pure (a : α) : (pure a : Evaluation α).result = .ok a := rfl
@[simp] theorem result_throw (f : Failure) : (throw f : Evaluation α).result = .error f := rfl
@[simp] theorem result_answer (e : Except Failure α) : (answer e).result = e := rfl
@[simp] theorem result_poll : poll.result = .ok () := rfl

@[simp] theorem polls_pure (a : α) : (pure a : Evaluation α).polls = 0 := rfl
@[simp] theorem polls_throw (f : Failure) : (throw f : Evaluation α).polls = 0 := rfl
@[simp] theorem polls_answer (e : Except Failure α) : (answer e).polls = 0 := rfl
@[simp] theorem polls_poll : poll.polls = 1 := rfl

@[simp] theorem result_bind (e : Evaluation α) (f : α → Evaluation β) :
    (e >>= f).result = e.result >>= fun a => (f a).result := by
  rw [result, computation_bind, Polling.result_bind, result]
  cases e.computation.result <;> rfl

theorem polls_bind (e : Evaluation α) (f : α → Evaluation β) :
    (e >>= f).polls = e.polls + match e.result with
      | .ok a => (f a).polls
      | .error _ => 0 := by
  rw [polls, computation_bind, Polling.polls_bind, result]
  cases e.computation.result <;> rfl

@[simp] theorem result_expectSuccess (subject : String) (e : Evaluation α) :
    (expectSuccess subject e).result =
      e.result.mapError fun f => if f.isDomain then .internal subject f else f := by
  rw [result, computation_expectSuccess, Polling.result_bind, result]
  cases e.computation.result <;> rfl

@[simp] theorem polls_expectSuccess (subject : String) (e : Evaluation α) :
    (expectSuccess subject e).polls = e.polls := by
  rw [polls, computation_expectSuccess, Polling.polls_bind, polls]
  cases e.computation.result <;> rfl

@[simp] theorem result_announce (name : String) (e : Evaluation α) :
    (announce name e).result = e.result := Polling.result_announce name e.computation

@[simp] theorem polls_announce (name : String) (e : Evaluation α) :
    (announce name e).polls = e.polls := Polling.polls_announce name e.computation

@[simp] theorem result_lift (c : Polling α) :
    Evaluation.result (ExceptT.lift c) = .ok c.result := Polling.result_bind _ _

@[simp] theorem polls_lift (c : Polling α) : Evaluation.polls (ExceptT.lift c) = c.polls :=
  Polling.polls_bind _ _

theorem run_eq_some_iff (fires : Nat → Bool) (e : Evaluation α) (answer : Except Failure α) :
    (e.computation.run fires).1 = some answer ↔
      answer = e.result ∧ ∀ i < e.polls, fires i = false :=
  Polling.run_eq_some_iff fires e.computation answer

end Evaluation

namespace Number
open Evaluation

@[simp] theorem result_polled (operation : Unit → Except Failure Number) :
    (polled operation).result = operation () := rfl

theorem result_product (n k : Nat) :
    (product n (k + 1) k.factorial).result = (k + n).factorial := by
  -- the loop invariant: from `k!` on, `n` more factors lead to `(k + n)!`
  induction n generalizing k with
  | zero => rfl
  | succ n ih =>
    have next := ih (k + 1)
    rw [Nat.factorial_succ, Nat.mul_comm] at next
    rw [product, show k + (n + 1) = k + 1 + n by omega, ← next]
    split <;> rfl

theorem result_factorial (x : Number) :
    x.factorial.result = do
      let n ← x.factorialArgument
      return x.derive false (.ofInt n.factorial) := by
  have loop (n : Nat) : (product (n - 1) 2 1).result = n.factorial := by
    have all := result_product (n - 1) 1
    rw [Nat.factorial_one] at all
    have whole : (1 + (n - 1)).factorial = n.factorial := by
      cases n with
      | zero => rfl
      | succ n => rw [Nat.add_sub_cancel, Nat.add_comm]
    rw [← whole, ← all]
  simp only [factorial, result_bind, result_answer, result_lift, loop, result_pure]
  rfl

theorem polls_product (n k acc : Nat) :
    (product n (k + 1) acc).polls + k / 256 = (k + n) / 256 := by
  induction n generalizing k acc with
  | zero => exact Nat.zero_add _
  | succ n ih =>
    have rest := ih (k + 1) (acc * (k + 1))
    rw [product, factorsPerPoll]
    split
    · rw [Polling.polls]
      omega
    · omega

theorem polls_factorial {x : Number} {n : Nat} (argument : x.factorialArgument = .ok n) :
    x.factorial.polls = n / 256 := by
  have loop : (product (n - 1) 2 1).polls + 1 / 256 = (1 + (n - 1)) / 256 := polls_product _ 1 1
  simp only [factorial, polls_bind, result_answer, argument, polls_answer, result_lift, polls_lift,
    polls_pure]
  omega

end Number
end Calculator
