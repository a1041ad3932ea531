import Calculator.Proofs.Power
import Calculator.Proofs.Tree
import Calculator.Registry.Builtin

/-! Subtraction adds what negation gives, and division multiplies by what the reciprocal gives.
For Gaussian rationals the two ways agree in the value, the mark and the presentation. Whether an
operand fails, is no number or is a divisor that is zero, each way meets the same failure first,
since the left operand is evaluated and checked before anything on the right. -/

namespace Calculator

namespace Closed

theorem difference_eq_sum_negate (z w : Gaussian) :
    difference (.exact z) (.exact w) = sum (.exact z) (negate (.exact w)) := by
  rw [negate, scale_exact]
  refine congrArg exact (Gaussian.toComplex_injective ?_)
  push_cast [Gaussian.toComplex_sub, Gaussian.toComplex_add, Gaussian.toComplex_mul,
    Gaussian.toComplex_ofInt]
  ring

theorem quotient_eq_product_quotient (z w : Gaussian) :
    quotient (.exact z) (.exact w) = product (.exact z) (quotient (.ofInt 1) (.exact w)) := by
  refine congrArg exact (Gaussian.toComplex_injective ?_)
  simp [div_eq_mul_inv]

end Closed

namespace Number

variable {x y : Number} {z w : Gaussian}

theorem sub_eq_add_negate (hx : x.value = .exact z) (hy : y.value = .exact w) :
    x.sub y = x.add y.negate := by
  have value : y.negate.value = Closed.negate (.exact w) := congrArg Closed.negate hy
  have approx : y.negate.approx = y.approx := by
    rw [negate, derive, hy, Closed.negate, Closed.scale_exact]
    simp [Closed.isExact, Closed.gaussian?]
  rw [sub, add, value, approx, hx, hy, Closed.difference_eq_sum_negate]

theorem exists_reciprocal (hy : y.value = .exact w) (nonzero : y.value ≠ .zero) :
    ∃ r, (ofInt 1).div y = .ok r ∧ r.value = Closed.quotient (.ofInt 1) (.exact w) ∧
      r.approx = y.approx := by
  refine ⟨_, if_neg nonzero, ?_, ?_⟩
  · exact congrArg (Closed.quotient (.ofInt 1)) hy
  · rw [hy]
    simp [derive, ofInt, ofClosed, Closed.ofInt, Closed.quotient, Closed.isExact, Closed.gaussian?]

theorem div_eq_mul_reciprocal (hx : x.value = .exact z) (hy : y.value = .exact w) :
    x.div y = do
      let r ← (ofInt 1).div y
      return x.mul r := by
  by_cases zero : y.value = .zero
  · rw [div, div, if_pos zero, if_pos zero, error_bind]
  · obtain ⟨r, reciprocal, value, approx⟩ := exists_reciprocal hy zero
    rw [reciprocal, ok_bind, pure_eq_ok, div, if_neg zero, mul, value, approx, hx, hy,
      Closed.quotient_eq_product_quotient]

end Number

namespace Tree
open Evaluation

variable {env : Environment} {a b : Tree}

theorem operand_unary (op : Unary) (t : Tree) :
    (unary op t).operand env = (do
      let x ← t.operand env
      (op.run x).result) := by
  rw [operand, result_unary, bind_assoc]
  refine bind_congr fun x => ?_
  cases (op.run x).result <;> rfl

theorem result_arithmetic_eq_of_run {op op' : Arithmetic} {inner : Unary}
    (agree : ∀ x y, (a.evaluate env).result = .ok (.number x) →
      (b.evaluate env).result = .ok (.number y) →
      op.run x y = do
        let y' ← (inner.run y).result
        op'.run x y') :
    ((binary (.arithmetic op) a b).evaluate env).result =
      ((binary (.arithmetic op') a (unary inner b)).evaluate env).result := by
  rw [result_arithmetic, result_arithmetic, operand_unary]
  cases left : a.operand env with
  | error f => rfl
  | ok x =>
    cases right : b.operand env with
    | error f => rfl
    | ok y =>
      simp only [ok_bind, agree x y (operand_eq_ok_iff.1 left) (operand_eq_ok_iff.1 right),
        bind_assoc]

/-- If the operands that are numbers have rational parts, a difference is the sum with the negated
right operand and a quotient the product by its reciprocal: without an interrupt both ways answer
with the same value, in the same presentation and with the same mark, or with the same failure. -/
theorem run_sub_div_eq_add_mul (env : Environment) (a b : Tree)
    (rational : ∀ t ∈ [a, b], ∀ x, (t.evaluate env).result = .ok (.number x) →
      ∃ z, x.value = .exact z) :
    (((binary (.arithmetic .sub) a b).evaluate env).computation.run Polling.never).1 =
      (((binary (.arithmetic .add) a (unary .negate b)).evaluate env).computation.run
        Polling.never).1 ∧
    (((binary (.arithmetic .div) a b).evaluate env).computation.run Polling.never).1 =
      (((binary (.arithmetic .mul) a (unary .reciprocal b)).evaluate env).computation.run
        Polling.never).1 := by
  have left {x : Number} := rational a (by simp) x
  have right {y : Number} := rational b (by simp) y
  simp only [Polling.run_never]
  constructor
  · refine congrArg some (result_arithmetic_eq_of_run fun x y hx hy => ?_)
    obtain ⟨z, hz⟩ := left hx
    obtain ⟨w, hw⟩ := right hy
    exact congrArg Except.ok (Number.sub_eq_add_negate hz hw)
  · refine congrArg some (result_arithmetic_eq_of_run fun x y hx hy => ?_)
    obtain ⟨z, hz⟩ := left hx
    obtain ⟨w, hw⟩ := right hy
    exact Number.div_eq_mul_reciprocal hz hw

/-- A complex divisor that is known approximately. -/
theorem run_sub_div_eq_add_mul_complex :
    let env : Environment := ⟨.standard, .builtin, .empty⟩
    let a := binary .conversion (literal "5") (identifier "hex")
    let twice := binary (.juxtaposition .implicit) (literal "2") (identifier "i")
    let b := binary (.juxtaposition .call) (identifier "approximately")
      (binary (.arithmetic .add) (literal "1") twice)
    let x := (Number.ofInt 5).withBase .hexadecimal
    let y := (Number.ofClosed (.exact ⟨1, 2⟩)).approximately
    (a.evaluate env).result = .ok (.number x) ∧ (b.evaluate env).result = .ok (.number y) ∧
    (((binary (.arithmetic .div) a b).evaluate env).computation.run Polling.never).1 =
      (((binary (.arithmetic .mul) a (unary .reciprocal b)).evaluate env).computation.run
        Polling.never).1 ∧
    (((binary (.arithmetic .div) a b).evaluate env).computation.run Polling.never).1 =
      some (.ok (.number ((Number.ofClosed (.exact ⟨1, -2⟩)).approximately.withBase
        .hexadecimal))) := by
  intro env a twice b x y
  have left : (a.evaluate env).result = .ok (.number x) := by decide +kernel
  have right : (b.evaluate env).result = .ok (.number y) := by decide +kernel
  have rational : ∀ t ∈ [a, b], ∀ x, (t.evaluate env).result = .ok (.number x) →
      ∃ z, x.value = .exact z := by
    intro t listed n value
    rcases List.mem_pair.1 listed with rfl | rfl
    · rw [left] at value
      cases value
      exact ⟨_, rfl⟩
    · rw [right] at value
      cases value
      exact ⟨_, rfl⟩
  refine ⟨left, right, (run_sub_div_eq_add_mul env a b rational).2, ?_⟩
  decide +kernel

end Tree
end Calculator
