import Calculator.Proofs.Tree

/-! Evaluations that succeed, with their polls. `Yields` says both at once, so that the polls of a
sequence are those of its parts without a case for failures; a run under an interrupt has a
value exactly if the evaluation yields it and the interrupt is silent for as many polls. -/

namespace Calculator

variable {α β : Type}

namespace Polling

theorem run_eq_iff {fires : Nat → Bool} {c : Polling α} {a : α} {n : Nat} :
    c.run fires = (some a, n) ↔ a = c.result ∧ n = c.polls ∧ ∀ i < n, fires i = false := by
  constructor
  · intro h
    obtain ⟨answer, silent⟩ := (run_eq_some_iff fires c a).1 (congrArg Prod.fst h)
    rw [run, runFrom_of_silent fires c 0 (by simpa using silent), Nat.zero_add] at h
    have polls : c.polls = n := congrArg Prod.snd h
    subst polls
    exact ⟨answer, rfl, silent⟩
  · rintro ⟨rfl, rfl, silent⟩
    rw [run, runFrom_of_silent fires c 0 (by simpa using silent), Nat.zero_add]

end Polling

namespace Evaluation

/-- Uninterrupted, the evaluation has the value `a` after `n` polls. -/
def Yields (e : Evaluation α) (a : α) (n : Nat) : Prop := e.result = .ok a ∧ e.polls = n

theorem Yields.unique {e : Evaluation α} {a b : α} {m n : Nat} (h : e.Yields a m)
    (h' : e.Yields b n) : a = b ∧ m = n :=
  ⟨Except.ok.inj (h.1.symm.trans h'.1), h.2.symm.trans h'.2⟩

theorem run_eq_ok_iff {fires : Nat → Bool} {e : Evaluation α} {a : α} {n : Nat} :
    e.computation.run fires = (some (.ok a), n) ↔ e.Yields a n ∧ ∀ i < n, fires i = false := by
  rw [Polling.run_eq_iff, ← and_assoc]
  exact and_congr_left fun _ => and_congr eq_comm eq_comm

theorem polls_polled (operation : Unit → Except Failure Number) :
    (Number.polled operation).polls = 1 := rfl

end Evaluation

theorem Value.polls_convert (x : Number) (target : Value) :
    (convert x target).polls = if target.kind = .number then 1 else 0 := by
  cases target <;> rfl

namespace Juxtaposition
open Evaluation

theorem yields_apply_iff {r : Registry} {form : Juxtaposition} {v w z : Value} {n : Nat} :
    (v.apply r form.mayMultiply form.mustMultiply w).Yields z n ↔
      (form ≠ .call ∧ ∃ x y, v = .number x ∧ w = .number y ∧ .number (x.mul y) = z ∧ n = 1) ∨
      (form ≠ .multiply ∧ ∃ name d y, v = .function name ∧ r.find? name = some d ∧
        w = .number y ∧ d.implementation.run y = .ok z ∧ n = 0) := by
  have product (x y : Number) (may : form ≠ .call) :
      ((Value.number x).apply r form.mayMultiply form.mustMultiply (.number y)).polls = 1 := by
    cases form with
    | call => exact absurd rfl may
    | _ => rfl
  have call (name : String) :
      ((Value.function name).apply r form.mayMultiply form.mustMultiply w).polls = 0 := by
    cases form <;> rfl
  constructor
  · rintro ⟨h, rfl⟩
    obtain ⟨may, x, y, rfl, rfl, value⟩ | ⟨may, name, d, y, rfl, found, rfl, run⟩ :=
      result_eq_ok_iff.1 h
    · exact .inl ⟨may, x, y, rfl, rfl, value, product x y may⟩
    · exact .inr ⟨may, name, d, y, rfl, found, rfl, run, call name⟩
  · rintro (⟨may, x, y, rfl, rfl, value, rfl⟩ | ⟨may, name, d, y, rfl, found, rfl, run, rfl⟩)
    · exact ⟨result_eq_ok_iff.2 (.inl ⟨may, x, y, rfl, rfl, value⟩), product x y may⟩
    · exact ⟨result_eq_ok_iff.2 (.inr ⟨may, name, d, y, rfl, found, rfl, run⟩), call name⟩

end Juxtaposition

namespace Tree
open Evaluation

variable {env : Environment}

theorem polls_literal (t : String) : ((literal t).evaluate env).polls = 1 := by
  simp only [evaluate, evaluateWith, polls_bind, polls_poll, result_poll, result_answer,
    polls_answer]
  cases Number.ofLiteral t <;> rfl

theorem polls_identifier (n : String) :
    ((identifier n).evaluate env).polls = (env.resolve n).polls + 1 := by
  simp only [evaluate, evaluateWith, polls_bind, polls_poll, result_poll]
  omega

theorem polls_unary {op : Unary} {t : Tree} {x : Number}
    (operand : (t.evaluate env).result = .ok (.number x)) :
    ((unary op t).evaluate env).polls = (t.evaluate env).polls + (op.run x).polls + 1 := by
  simp only [evaluate] at operand
  simp only [evaluate, evaluateWith, polls_bind, operand, Value.expectNumber, result_poll,
    result_answer, polls_poll, polls_answer]
  cases (op.run x).result <;> simp only [polls_pure] <;> omega

theorem yields_unary_iff {op : Unary} {t : Tree} {z : Value} {n : Nat} :
    ((unary op t).evaluate env).Yields z n ↔
      ∃ x m y k, (t.evaluate env).Yields (.number x) m ∧ (op.run x).Yields y k ∧
        .number y = z ∧ n = m + k + 1 := by
  constructor
  · rintro ⟨h, rfl⟩
    obtain ⟨x, y, operand, run, value⟩ := result_unary_eq_ok_iff.1 h
    exact ⟨x, _, y, _, ⟨operand, rfl⟩, ⟨run, rfl⟩, value, polls_unary operand⟩
  · rintro ⟨x, m, y, k, ⟨operand, rfl⟩, ⟨run, rfl⟩, value, rfl⟩
    exact ⟨result_unary_eq_ok_iff.2 ⟨x, y, operand, run, value⟩, polls_unary operand⟩

theorem polls_arithmetic {op : Arithmetic} {l r : Tree} {x y : Number}
    (left : (l.evaluate env).result = .ok (.number x))
    (right : (r.evaluate env).result = .ok (.number y)) :
    ((binary (.arithmetic op) l r).evaluate env).polls =
      (l.evaluate env).polls + (r.evaluate env).polls + 2 := by
  simp only [evaluate] at left right
  simp only [evaluate, evaluateWith, polls_bind, left, right, Value.expectNumber, result_poll,
    result_answer, Number.result_polled, polls_poll, polls_answer, polls_polled]
  cases op.run x y <;> simp only [polls_pure] <;> omega

theorem yields_arithmetic_iff {op : Arithmetic} {l r : Tree} {z : Value} {n : Nat} :
    ((binary (.arithmetic op) l r).evaluate env).Yields z n ↔
      ∃ x m y k c, (l.evaluate env).Yields (.number x) m ∧ (r.evaluate env).Yields (.number y) k ∧
        op.run x y = .ok c ∧ .number c = z ∧ n = m + k + 2 := by
  constructor
  · rintro ⟨h, rfl⟩
    obtain ⟨x, y, c, left, right, run, value⟩ := result_arithmetic_eq_ok_iff.1 h
    exact ⟨x, _, y, _, c, ⟨left, rfl⟩, ⟨right, rfl⟩, run, value, polls_arithmetic left right⟩
  · rintro ⟨x, m, y, k, c, ⟨left, rfl⟩, ⟨right, rfl⟩, run, value, rfl⟩
    exact ⟨result_arithmetic_eq_ok_iff.2 ⟨x, y, c, left, right, run, value⟩,
      polls_arithmetic left right⟩

theorem polls_juxtaposition {form : Juxtaposition} {l r : Tree} {v w : Value}
    (left : (l.evaluate env).result = .ok v) (right : (r.evaluate env).result = .ok w) :
    ((binary (.juxtaposition form) l r).evaluate env).polls =
      (l.evaluate env).polls + (r.evaluate env).polls +
        (v.apply env.registry form.mayMultiply form.mustMultiply w).polls + 1 := by
  simp only [evaluate] at left right
  simp only [evaluate, evaluateWith, polls_bind, left, right, result_poll, polls_poll]
  omega

theorem yields_juxtaposition_iff {form : Juxtaposition} {l r : Tree} {z : Value} {n : Nat} :
    ((binary (.juxtaposition form) l r).evaluate env).Yields z n ↔
      ∃ v m w k j, (l.evaluate env).Yields v m ∧ (r.evaluate env).Yields w k ∧
        (v.apply env.registry form.mayMultiply form.mustMultiply w).Yields z j ∧
        n = m + k + j + 1 := by
  constructor
  · rintro ⟨h, rfl⟩
    obtain ⟨v, w, left, right, applied⟩ := result_juxtaposition_eq_ok_iff.1 h
    exact ⟨v, _, w, _, _, ⟨left, rfl⟩, ⟨right, rfl⟩, ⟨applied, rfl⟩,
      polls_juxtaposition left right⟩
  · rintro ⟨v, m, w, k, j, ⟨left, rfl⟩, ⟨right, rfl⟩, ⟨applied, rfl⟩, rfl⟩
    exact ⟨result_juxtaposition_eq_ok_iff.2 ⟨v, w, left, right, applied⟩,
      polls_juxtaposition left right⟩

theorem polls_conversion {l r : Tree} {target : Value} {x : Number}
    (right : (r.evaluate env).result = .ok target) (proper : target.kind ≠ .function)
    (left : (l.evaluate env).result = .ok (.number x)) :
    ((binary .conversion l r).evaluate env).polls =
      (r.evaluate env).polls + (l.evaluate env).polls +
        (if target.kind = .number then 1 else 0) + 1 := by
  simp only [evaluate] at left right
  simp only [evaluate, evaluateWith, polls_bind, left, right, proper, if_false, result_poll,
    polls_poll, Value.conversionSource, Value.expectNumber, result_answer,
    polls_answer, Value.polls_convert]
  omega

theorem yields_conversion_iff {l r : Tree} {z : Value} {n : Nat} :
    ((binary .conversion l r).evaluate env).Yields z n ↔
      ∃ target m x k, (r.evaluate env).Yields target m ∧ target.kind ≠ .function ∧
        (l.evaluate env).Yields (.number x) k ∧ .number (Value.present x target) = z ∧
        n = m + k + (if target.kind = .number then 1 else 0) + 1 := by
  constructor
  · rintro ⟨h, rfl⟩
    obtain ⟨target, x, right, proper, left, value⟩ := result_conversion_eq_ok_iff.1 h
    exact ⟨target, _, x, _, ⟨right, rfl⟩, proper, ⟨left, rfl⟩, value,
      polls_conversion right proper left⟩
  · rintro ⟨target, m, x, k, ⟨right, rfl⟩, proper, ⟨left, rfl⟩, value, rfl⟩
    exact ⟨result_conversion_eq_ok_iff.2 ⟨target, x, right, proper, left, value⟩,
      polls_conversion right proper left⟩

end Tree
end Calculator
