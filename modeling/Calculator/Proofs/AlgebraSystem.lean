import Calculator.AlgebraSystem
import Calculator.Proofs.Gaussian
import Mathlib.Analysis.SpecialFunctions.Log.Base
import Mathlib.Data.Int.GCD
import Mathlib.NumberTheory.Padics.PadicVal.Basic

/-! What the calculator relies on in an algebra system. Where it is asked for a power, a root, an
absolute value or a logarithm it finds one, and an answer that is a Gaussian rational is the right
number; nothing is said of the form of any other answer. Integer roots are extracted, powers,
quotients and negative numbers follow the roots of their parts, and a logarithm gives back the
powers of its base. -/

namespace Calculator

/-- A value is found, and if it is a Gaussian rational then it is `z`. -/
structure Evaluates (answer? : Option Closed) (z : ℂ) : Prop where
  exists_eq : ∃ v, answer? = some v
  sound : ∀ g, answer? = some (.exact g) → g.toComplex = z

namespace AlgebraSystem

structure ExtractsRoots (A : AlgebraSystem) : Prop where
  power {a : ℚ} (q : ℚ) : 0 < a →
    Evaluates (A.power? (.ofRat a) (.ofRat q)) ((a : ℝ) ^ (q : ℝ) : ℝ)
  /-- Roots of integers are extracted. -/
  root_pow {k n : ℕ} : 0 < k → 0 < n →
    A.power? (.ofRat (k ^ n : ℕ)) (.ofRat (1 / n)) = some (.ofRat k)
  /-- The root of a fraction is taken of its numerator and its denominator. -/
  root_div {a b n : ℕ} {s t : ℚ} : 0 < a → 0 < b → 0 < n →
    A.power? (.ofRat a) (.ofRat (1 / n)) = some (.ofRat s) →
    A.power? (.ofRat b) (.ofRat (1 / n)) = some (.ofRat t) →
    A.power? (.ofRat (a / b)) (.ofRat (1 / n)) = some (.ofRat (s / t))
  power_of_root {a q s : ℚ} : 0 < a →
    A.power? (.ofRat a) (.ofRat (1 / q.den)) = some (.ofRat s) →
    A.power? (.ofRat a) (.ofRat q) = some (.ofRat (s ^ q.num))
  sqrt_zero : A.power? .zero (.ofRat (1 / 2)) = some .zero
  sqrt_neg {r : ℚ} : 0 < r →
    Evaluates (A.power? (.ofRat (-r)) (.ofRat (1 / 2))) (Complex.I * √(r : ℝ))
  sqrt_neg_of_sqrt {r s : ℚ} : 0 < r →
    A.power? (.ofRat r) (.ofRat (1 / 2)) = some (.ofRat s) →
    A.power? (.ofRat (-r)) (.ofRat (1 / 2)) = some (.exact ⟨0, s⟩)
  isReal_ofRat (r : ℚ) : A.isReal (.ofRat r) = true
  realRoot {n : ℕ} {r : ℚ} {c : ℝ} : Odd n → c ^ n = r →
    Evaluates (A.realRoot? n (.ofRat r)) c
  realRoot_zero {n : ℕ} : Odd n → A.realRoot? n .zero = some .zero
  realRoot_of_root {n : ℕ} {r s : ℚ} : Odd n → 0 < r →
    A.power? (.ofRat r) (.ofRat (1 / n)) = some (.ofRat s) →
    A.realRoot? n (.ofRat r) = some (.ofRat s) ∧ A.realRoot? n (.ofRat (-r)) = some (.ofRat (-s))
  abs (g : Gaussian) : Evaluates (A.elementary? .abs (.exact g)) ‖g.toComplex‖
  abs_zero : A.elementary? .abs .zero = some .zero
  abs_of_sqrt {g : Gaussian} {s : ℚ} : 0 < g.normSq →
    A.power? (.ofRat g.normSq) (.ofRat (1 / 2)) = some (.ofRat s) →
    A.elementary? .abs (.exact g) = some (.ofRat s)

structure ExtractsExponents (A : AlgebraSystem) : Prop where
  logarithm {b : ℕ} {r : ℚ} : 2 ≤ b → 0 < r →
    Evaluates (A.logarithm? b (.ofRat r)) (Real.logb b r)
  logarithm_one {b : ℕ} : 2 ≤ b → A.logarithm? b .one = some .zero
  /-- Powers of the base add to the logarithm of the other factor. -/
  logarithm_mul_zpow {b : ℕ} {r s : ℚ} (k : ℤ) : 2 ≤ b → 0 < r →
    A.logarithm? b (.ofRat r) = some (.ofRat s) →
    A.logarithm? b (.ofRat (r * b ^ k)) = some (.ofRat (s + k))
  logarithm_zero {b : ℕ} : 2 ≤ b → A.logarithm? b .zero = none

end AlgebraSystem

/-- A rational power with a rational value has a base that is a power: the exponents of the two
powers that are equal have no common divisor. -/
theorem exists_pow_eq_of_rpow {a q x : ℚ} (positive : 0 < a) (h : (x : ℝ) = (a : ℝ) ^ (q : ℝ)) :
    ∃ s, 0 ≤ s ∧ s ^ q.den = a := by
  have real : (x : ℝ) ^ q.den = (a : ℝ) ^ q.num := by
    have exponent : (q : ℝ) * (q.den : ℝ) = q.num := by exact_mod_cast Rat.mul_den_eq_num q
    have base : (0 : ℝ) ≤ a := by exact_mod_cast positive.le
    rw [h, ← Real.rpow_natCast, ← Real.rpow_mul base, exponent, Real.rpow_intCast]
  have rational : x ^ q.den = a ^ q.num := by exact_mod_cast real
  obtain ⟨y, power⟩ : ∃ y, a ^ q.num.natAbs = y ^ q.den := by
    obtain sign | sign := Int.natAbs_eq q.num
    · exact ⟨x, by rw [rational, sign, zpow_natCast, Int.natAbs_natCast]⟩
    · refine ⟨x⁻¹, ?_⟩
      rw [inv_pow, rational, sign, zpow_neg, inv_inv, zpow_natCast, Int.natAbs_neg,
        Int.natAbs_natCast]
  obtain ⟨c, root, -⟩ := (pow_eq_pow_iff_of_coprime q.reduced).1 power
  refine ⟨|c|, abs_nonneg c, ?_⟩
  rw [← abs_pow, ← root, abs_of_pos positive]

/-- A number has a rational logarithm to a base that two divides once only if it is a power of the
base: the exponent is how often two divides the number. -/
theorem exists_zpow_eq_of_logb {b : ℕ} {r t : ℚ} (positive : 0 < r) (large : 2 ≤ b)
    (once : padicValRat 2 b = 1) (h : (t : ℝ) = Real.logb b r) : ∃ k : ℤ, r = (b : ℚ) ^ k := by
  have base : (0 : ℝ) < b := by exact_mod_cast (show 0 < b by omega)
  have other : (b : ℝ) ≠ 1 := by exact_mod_cast (show b ≠ 1 by omega)
  have exponential : (b : ℝ) ^ (t : ℝ) = r :=
    (Real.logb_eq_iff_rpow_eq base other (by exact_mod_cast positive)).1 h.symm
  have real : (b : ℝ) ^ t.num = (r : ℝ) ^ t.den := by
    have exponent : (t : ℝ) * (t.den : ℝ) = t.num := by exact_mod_cast Rat.mul_den_eq_num t
    rw [← exponential, ← Real.rpow_natCast, ← Real.rpow_mul base.le, exponent, Real.rpow_intCast]
  have rational : (b : ℚ) ^ t.num = r ^ t.den :=
    Rat.cast_injective (show (((b : ℚ) ^ t.num : ℚ) : ℝ) = (r ^ t.den : ℚ) by push_cast; exact real)
  have valuation : t.num = t.den * padicValRat 2 r := by
    have same := congrArg (padicValRat 2) rational
    rwa [padicValRat.zpow, padicValRat.pow, once, mul_one] at same
  refine ⟨padicValRat 2 r, (pow_left_inj₀ positive.le (zpow_nonneg ?_ _) t.den_ne_zero).1 ?_⟩
  · exact_mod_cast Nat.zero_le b
  · rw [← rational, valuation, mul_comm, zpow_mul, zpow_natCast]

end Calculator
