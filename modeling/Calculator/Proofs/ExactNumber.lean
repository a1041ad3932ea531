import Calculator.Proofs.Failure
import Calculator.Proofs.Gaussian
import Mathlib.Analysis.SpecialFunctions.Pow.Complex

/-! What the operations on numbers compute. A number with an exact value denotes a complex
number, and as long as operands are exact every operation is the one of the complex field: it
succeeds where that operation is defined, with its value, and fails as numbers do elsewhere.
Exponents are integers here; other powers leave the field of Gaussian rationals. -/

namespace Calculator

namespace Number

/-- The number is known exactly and is `z`. -/
def Denotes (x : Number) (z : ℂ) : Prop := ∃ g, x.value = .exact g ∧ g.toComplex = z

theorem Denotes.value_eq_zero_iff {x : Number} {z : ℂ} (h : x.Denotes z) :
    x.value = .zero ↔ z = 0 := by
  obtain ⟨g, value, rfl⟩ := h
  rw [value, Closed.zero, Closed.exact.injEq, Gaussian.toComplex_eq_zero_iff]

theorem Denotes.factorialArgument_eq_ok_iff {x : Number} {z : ℂ} (h : x.Denotes z) {n : Nat} :
    x.factorialArgument = .ok n ↔ z = n := by
  obtain ⟨g, value, rfl⟩ := h
  have recognised : x.value.toInt? = g.toInt? := by rw [value]; rfl
  rw [factorialArgument, recognised, ← Int.cast_natCast, ← Gaussian.toInt?_eq_some_iff]
  rcases g.toInt? with _ | (m | m) <;> simp

end Number

/-- An answer that is a number denoting `z` if `regular` holds, approximate or not as `marked`
says, and a failure of the kind numbers have if `regular` does not hold. -/
structure Answers (answer : Except Failure Value) (regular : Prop) (z : ℂ) (marked : Bool) :
    Prop where
  value : regular → ∃ x, answer = .ok (.number x) ∧ x.Denotes z ∧ x.approx = marked
  failure : ¬ regular → ∃ f, answer = .error f ∧ f.family = .number

namespace Answers

variable {regular : Prop} {z : ℂ} {marked : Bool}

theorem of_value {x : Number} (holds : regular) (denotes : x.Denotes z)
    (approx : x.approx = marked) : Answers (.ok (.number x)) regular z marked :=
  ⟨fun _ => ⟨x, rfl, denotes, approx⟩, fun fails => absurd holds fails⟩

theorem of_failure {f : Failure} (fails : ¬ regular) (family : f.family = .number) :
    Answers (.error f) regular z marked :=
  ⟨fun holds => absurd holds fails, fun _ => ⟨f, rfl, family⟩⟩

theorem of_derive {x : Number} {other : Bool} {g : Gaussian} (holds : regular)
    (value : g.toComplex = z) :
    Answers (.ok (.number (x.derive other (.exact g)))) regular z (x.approx || other) := by
  refine of_value holds ⟨g, rfl, value⟩ ?_
  simp [Number.derive, Closed.isExact, Closed.gaussian?]

theorem bind {answer : Except Failure Value} {next : Value → Except Failure Value}
    {regular' : Prop} {z' : ℂ} {marked' : Bool} (h : Answers answer regular z marked)
    (rest : ∀ x, regular → x.Denotes z → x.approx = marked →
      Answers (next (.number x)) regular' z' marked') :
    Answers (answer >>= next) (regular ∧ regular') z' marked' := by
  by_cases first : regular
  · obtain ⟨x, rfl, denotes, approx⟩ := h.value first
    rw [ok_bind]
    have after := rest x first denotes approx
    exact ⟨fun holds => after.value holds.2, fun fails => after.failure fun h => fails ⟨first, h⟩⟩
  · obtain ⟨f, rfl, family⟩ := h.failure first
    exact of_failure (fun holds => first holds.1) family

end Answers

namespace Closed

theorem power?_of_integer (z : Gaussian) (n : Int) (regular : z = .zero → 0 ≤ n) :
    ∃ g, power? (.exact z) (.ofInt n) = some (.exact g) ∧ g.toComplex = z.toComplex ^ n := by
  have exponent : (ofInt n = zero) ↔ n = 0 := by
    simp [ofInt, zero, Gaussian.ofInt, Gaussian.zero]
  unfold power?
  by_cases empty : n = 0
  · rw [if_pos (exponent.2 empty), empty]
    exact ⟨.one, rfl, by simp⟩
  · rw [if_neg (mt exponent.1 empty)]
    by_cases base : z = .zero
    · have positive : isPositive (ofInt n) = true := by
        have := regular base
        simp only [isPositive, ofInt, Gaussian.ofInt, true_and, decide_eq_true_eq]
        exact_mod_cast lt_of_le_of_ne this (Ne.symm empty)
      rw [base, if_pos (show exact .zero = zero from rfl), if_pos positive]
      exact ⟨.zero, rfl, by simp [zero_zpow n empty]⟩
    · rw [if_neg (by simpa [zero] using base)]
      by_cases unit : z = .one
      · rw [unit, if_pos (show exact .one = one from rfl)]
        exact ⟨.one, rfl, by simp⟩
      · rw [if_neg (by simpa [one] using unit)]
        exact ⟨z.zpow n, by simp [ofInt, Gaussian.ofInt, gaussianPower], z.toComplex_zpow n⟩

end Closed

namespace Arithmetic

noncomputable def meaning : Arithmetic → ℂ → ℂ → ℂ
  | add, z, w => z + w
  | sub, z, w => z - w
  | mul, z, w => z * w
  | div, z, w => z / w
  | pow, z, w => z ^ w

def Regular : Arithmetic → ℂ → ℂ → Prop
  | div, _, w => w ≠ 0
  | pow, z, w => ¬(z = 0 ∧ w.re < 0)
  | _, _, _ => True

theorem answers_div {x y : Number} {z w : ℂ} (hx : x.Denotes z) (hy : y.Denotes w) :
    Answers (do return .number (← x.div y)) (w ≠ 0) (z / w) (x.approx || y.approx) := by
  by_cases divisor : y.value = .zero
  · have zero : w = 0 := hy.value_eq_zero_iff.1 divisor
    rw [Number.div, if_pos divisor]
    exact Answers.of_failure (fun regular => regular zero) rfl
  · have regular : w ≠ 0 := mt hy.value_eq_zero_iff.2 divisor
    obtain ⟨g, gvalue, rfl⟩ := hx
    obtain ⟨h, hvalue, rfl⟩ := hy
    rw [Number.div, if_neg divisor, gvalue, hvalue]
    exact Answers.of_derive regular (Gaussian.toComplex_div g h)

theorem answers_pow {x y : Number} {z : ℂ} {n : Int} (hx : x.Denotes z) (hy : y.Denotes n) :
    Answers (do return .number (← x.pow y)) (Regular pow z n) (z ^ n) (x.approx || y.approx) := by
  obtain ⟨h, value, exponent⟩ := hy
  rw [← Gaussian.toComplex_ofInt] at exponent
  have integer : y.value = .ofInt n := by
    rw [value, Gaussian.toComplex_injective exponent, Closed.ofInt]
  have negative : Closed.isNegative y.value = true ↔ n < 0 := by
    simp [integer, Closed.isNegative, Closed.ofInt, Gaussian.ofInt]
  by_cases undefined : x.value = .zero ∧ Closed.isNegative y.value
  · have fails : z = 0 ∧ (n : ℂ).re < 0 := by
      rw [hx.value_eq_zero_iff, negative] at undefined
      exact ⟨undefined.1, by simpa using undefined.2⟩
    rw [Number.pow, Number.powIn, if_pos undefined]
    exact Answers.of_failure (fun regular => regular fails) rfl
  · have regular : Regular pow z n := by
      intro fails
      apply undefined
      rw [hx.value_eq_zero_iff, negative]
      exact ⟨fails.1, by simpa using fails.2⟩
    obtain ⟨g, gvalue, rfl⟩ := hx
    have holds : g = .zero → 0 ≤ n := by
      intro zero
      by_contra below
      exact undefined ⟨gvalue.trans (congrArg _ zero), negative.2 (by omega)⟩
    obtain ⟨p, power, pvalue⟩ := Closed.power?_of_integer g n holds
    rw [Number.pow, Number.powIn, if_neg undefined, gvalue, integer,
      AlgebraSystem.standard_power?, power]
    exact Answers.of_derive regular pvalue

theorem answers_run {op : Arithmetic} {x y : Number} {z w : ℂ} (hx : x.Denotes z)
    (hy : y.Denotes w) (integral : op = .pow → ∃ n : Int, w = n) :
    Answers (do return .number (← op.run x y)) (op.Regular z w) (op.meaning z w)
      (x.approx || y.approx) := by
  cases op with
  | div => exact answers_div hx hy
  | pow =>
    obtain ⟨n, rfl⟩ := integral rfl
    rw [meaning, Complex.cpow_intCast]
    exact answers_pow hx hy
  | add =>
    obtain ⟨g, gvalue, rfl⟩ := hx
    obtain ⟨h, hvalue, rfl⟩ := hy
    rw [run, Number.add, gvalue, hvalue]
    exact Answers.of_derive trivial (Gaussian.toComplex_add g h)
  | sub =>
    obtain ⟨g, gvalue, rfl⟩ := hx
    obtain ⟨h, hvalue, rfl⟩ := hy
    rw [run, Number.sub, gvalue, hvalue]
    exact Answers.of_derive trivial (Gaussian.toComplex_sub g h)
  | mul =>
    obtain ⟨g, gvalue, rfl⟩ := hx
    obtain ⟨h, hvalue, rfl⟩ := hy
    rw [run, Number.mul, gvalue, hvalue]
    exact Answers.of_derive trivial (Gaussian.toComplex_mul g h)

end Arithmetic

namespace Unary

noncomputable def meaning : Unary → ℂ → ℂ
  | parens, z => z
  | plus, z => z
  | negate, z => -z
  | reciprocal, z => z⁻¹
  | factorial, z => ⌊z.re⌋₊.factorial

def Regular : Unary → ℂ → Prop
  | reciprocal, z => z ≠ 0
  | factorial, z => ∃ n : Nat, z = n
  | _, _ => True

theorem answers_factorial {x : Number} {z : ℂ} (hx : x.Denotes z) :
    Answers (do return .number (← x.factorial.result)) (∃ n : Nat, z = n)
      ⌊z.re⌋₊.factorial x.approx := by
  rw [Number.result_factorial]
  cases argument : x.factorialArgument with
  | ok n =>
    have natural : z = n := hx.factorialArgument_eq_ok_iff.1 argument
    have answered : Answers (.ok (.number (x.derive false (.ofInt n.factorial))))
        (∃ n : Nat, z = n) (n.factorial : Int) (x.approx || false) :=
      Answers.of_derive ⟨n, natural⟩ (Gaussian.toComplex_ofInt n.factorial)
    rw [Bool.or_false, Int.cast_natCast] at answered
    have floor : ⌊z.re⌋₊ = n := by rw [natural, Complex.natCast_re, Nat.floor_natCast]
    rw [floor]
    exact answered
  | error f =>
    refine Answers.of_failure ?_ (Number.family_of_factorialArgument_eq_error argument)
    rintro ⟨n, natural⟩
    rw [hx.factorialArgument_eq_ok_iff.2 natural] at argument
    cases argument

theorem answers_run {op : Unary} {x : Number} {z : ℂ} (hx : x.Denotes z) :
    Answers (do return .number (← (op.run x).result)) (op.Regular z) (op.meaning z)
      x.approx := by
  cases op with
  | parens => exact Answers.of_value trivial hx rfl
  | plus => exact Answers.of_value trivial hx rfl
  | negate =>
    obtain ⟨g, value, rfl⟩ := hx
    have answered : Answers (.ok (.number (x.derive false (.exact (.ofInt (-1) * g)))))
        True (-g.toComplex) (x.approx || false) := by
      refine Answers.of_derive trivial ?_
      rw [Gaussian.toComplex_mul, Gaussian.toComplex_ofInt, Int.cast_neg, Int.cast_one, neg_one_mul]
    rw [Bool.or_false] at answered
    rw [run, Number.negate, value]
    exact answered
  | reciprocal =>
    have one : (Number.ofInt 1).Denotes 1 := ⟨.ofInt 1, rfl, by simp⟩
    have answered := Arithmetic.answers_div one hx
    rw [one_div] at answered
    exact answered
  | factorial => exact answers_factorial hx

end Unary
end Calculator
