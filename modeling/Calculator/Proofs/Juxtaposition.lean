import Calculator.Proofs.Success
import Calculator.Registry.Builtin

/-! The three forms of writing two expressions side by side, and the product. On success they
differ in nothing but which left sides they accept: a call wants a function, a product wants a
number, and the implicit form takes what either of them takes. Failures may differ, since
arithmetic refuses its left operand before the right one is evaluated. -/

namespace Calculator

namespace Juxtaposition

theorem yields_implicit_iff {r : Registry} {v w z : Value} {n : Nat} :
    (v.apply r implicit.mayMultiply implicit.mustMultiply w).Yields z n ↔
      (v.apply r call.mayMultiply call.mustMultiply w).Yields z n ∨
      (v.apply r multiply.mayMultiply multiply.mustMultiply w).Yields z n := by
  simp only [yields_apply_iff, ne_eq, reduceCtorEq, not_true_eq_false, not_false_eq_true,
    true_and, false_and, or_false, false_or]
  exact or_comm

end Juxtaposition

namespace Tree
open Evaluation

variable {env : Environment} {l r : Tree}

theorem yields_implicit_iff {z : Value} {n : Nat} :
    ((binary (.juxtaposition .implicit) l r).evaluate env).Yields z n ↔
      ((binary (.juxtaposition .call) l r).evaluate env).Yields z n ∨
      ((binary (.juxtaposition .multiply) l r).evaluate env).Yields z n := by
  simp only [yields_juxtaposition_iff, Juxtaposition.yields_implicit_iff, or_and_right,
    and_or_left, exists_or]

theorem yields_multiply_iff {z : Value} {n : Nat} :
    ((binary (.juxtaposition .multiply) l r).evaluate env).Yields z n ↔
      ((binary (.arithmetic .mul) l r).evaluate env).Yields z n := by
  rw [yields_juxtaposition_iff, yields_arithmetic_iff]
  constructor
  · rintro ⟨v, m, w, k, j, left, right, applied, rfl⟩
    obtain ⟨-, x, y, rfl, rfl, value, rfl⟩ | ⟨called, -⟩ := Juxtaposition.yields_apply_iff.1 applied
    · exact ⟨x, m, y, k, x.mul y, left, right, rfl, value, rfl⟩
    · exact absurd rfl called
  · rintro ⟨x, m, y, k, c, left, right, run, value, rfl⟩
    cases run
    refine ⟨.number x, m, .number y, k, 1, left, right, ?_, rfl⟩
    exact Juxtaposition.yields_apply_iff.2 (.inl ⟨by decide, x, y, rfl, rfl, value, rfl⟩)

theorem not_yields_multiply_of_call {v w : Value} {m n : Nat}
    (called : ((binary (.juxtaposition .call) l r).evaluate env).Yields v m) :
    ¬ ((binary (.juxtaposition .multiply) l r).evaluate env).Yields w n := by
  intro multiplied
  obtain ⟨f, _, _, _, _, function, -, call, -⟩ := yields_juxtaposition_iff.1 called
  obtain ⟨x, _, _, _, _, number, -, product, -⟩ := yields_juxtaposition_iff.1 multiplied
  obtain ⟨may, -⟩ | ⟨-, name, _, _, rfl, -⟩ := Juxtaposition.yields_apply_iff.1 call
  · exact may rfl
  · obtain ⟨-, _, _, rfl, -⟩ | ⟨may, -⟩ := Juxtaposition.yields_apply_iff.1 product
    · cases (function.unique number).1
    · exact may rfl

/-- Under every interrupt a call and a product of the same sides never both succeed, the implicit
form succeeds as the one that does, and a product succeeds as a multiplication does. -/
theorem run_implicit_eq_call_or_multiply (env : Environment) (fires : Nat → Bool) (l r : Tree) :
    let run (op : Binary) := ((binary op l r).evaluate env).computation.run fires
    (∀ v w m n, ¬ (run (.juxtaposition .call) = (some (.ok v), m) ∧
      run (.juxtaposition .multiply) = (some (.ok w), n))) ∧
    (∀ v n, run (.juxtaposition .implicit) = (some (.ok v), n) ↔
      run (.juxtaposition .call) = (some (.ok v), n) ∨
      run (.juxtaposition .multiply) = (some (.ok v), n)) ∧
    (∀ v n, run (.juxtaposition .multiply) = (some (.ok v), n) ↔
      run (.arithmetic .mul) = (some (.ok v), n)) := by
  intro run
  simp only [run, run_eq_ok_iff]
  refine ⟨?_, ?_, ?_⟩
  · rintro v w m n ⟨⟨called, -⟩, multiplied, -⟩
    exact not_yields_multiply_of_call called multiplied
  · intro v n
    rw [yields_implicit_iff, or_and_right]
  · intro v n
    rw [yields_multiply_iff]

/-- A product of a function looks for its right side first, a multiplication does not. -/
example :
    let env : Environment := ⟨.standard, .builtin, .empty⟩
    ((binary (.juxtaposition .multiply) (identifier "sqrt") (identifier "x")).evaluate env).result =
      .error (.unboundName "x") ∧
    ((binary (.arithmetic .mul) (identifier "sqrt") (identifier "x")).evaluate env).result =
      .error (.expectedNumber "function" "sqrt") := by decide

end Tree
end Calculator
