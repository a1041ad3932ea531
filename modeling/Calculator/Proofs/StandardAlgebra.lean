import Calculator.Proofs.AlgebraSystem
import Calculator.Proofs.Rendering
import Calculator.Proofs.Root

/-! The algebra system that runs extracts roots and exponents. A power of a positive rational is
exact just where its root is found, and the logarithm of a positive rational where nothing is left
of it once the base has been divided out of numerator and denominator. -/

namespace Calculator

namespace Gaussian

theorem one_mul (z : Gaussian) : one * z = z := toComplex_injective (by simp)

theorem i_mul_ofRat (s : ℚ) : i * ofRat s = ⟨0, s⟩ := by
  apply toComplex_injective
  apply Complex.ext <;> simp

theorem ofInt_neg_one_mul_ofRat (s : ℚ) : ofInt (-1) * ofRat s = ofRat (-s) :=
  toComplex_injective (by simp)

theorem normSq_pos {z : Gaussian} (h : z.im ≠ 0) : 0 < z.normSq := by
  have := mul_self_pos.2 h
  have := mul_self_nonneg z.re
  rw [normSq]
  linarith

theorem norm_toComplex (g : Gaussian) : ‖g.toComplex‖ = √(g.normSq : ℝ) := by
  rw [Complex.norm_def, Complex.normSq_apply, normSq]
  push_cast
  rfl

end Gaussian

theorem one_div_num {n : ℕ} (positive : 0 < n) : (1 / n : ℚ).num = 1 := by
  rw [one_div, Rat.inv_natCast_num_of_pos positive]

theorem one_div_den {n : ℕ} (positive : 0 < n) : (1 / n : ℚ).den = n := by
  rw [one_div, Rat.inv_natCast_den_of_pos positive]

namespace Closed

theorem scale_exact (c z : Gaussian) : scale c (.exact z) = .exact (c * z) := by
  have absorbed : Gaussian.zero * z = .zero := Gaussian.toComplex_injective (by simp)
  have kept : Gaussian.one * z = z := Gaussian.toComplex_injective (by simp)
  unfold scale
  split_ifs with zero one
  · rw [zero, absorbed]
    rfl
  · rw [one, kept]
  · rfl

theorem ratPower_of_pow_eq {a q s : ℚ} (root : 0 ≤ s) (power : s ^ q.den = a) :
    ratPower a q = ofRat (s ^ q.num) := by
  unfold ratPower
  split_ifs with unit integer
  · have one : s = 1 := (pow_eq_one_iff_of_nonneg root q.den_ne_zero).1 (power.trans unit)
    rw [one, one_zpow]
    rfl
  · rw [← power, integer, pow_one]
  · rw [(Root.rat?_eq_some_iff q.den_pos).2 ⟨root, power⟩]

theorem isExact_ratPower_iff {a q : ℚ} (positive : 0 < a) :
    (ratPower a q).isExact = true ↔ ∃ s, 0 ≤ s ∧ s ^ q.den = a := by
  refine ⟨fun exact => ?_, fun ⟨s, root, power⟩ => ratPower_of_pow_eq root power ▸ rfl⟩
  unfold ratPower at exact
  split_ifs at exact with unit integer
  · exact ⟨1, zero_le_one, by rw [one_pow, unit]⟩
  · exact ⟨a, positive.le, by rw [integer, pow_one]⟩
  · split at exact
    · next s found => exact ⟨s, (Root.rat?_eq_some_iff q.den_pos).1 found⟩
    · cases exact

theorem isExact_scale_ratPower {c : Gaussian} (nonzero : c ≠ .zero) (a q : ℚ) :
    (scale c (ratPower a q)).isExact = (ratPower a q).isExact := by
  cases power : ratPower a q with
  | exact z => rw [scale_exact]; rfl
  | surd d roots =>
    unfold scale
    rw [if_neg nonzero]
    split_ifs <;> rfl
  | _ =>
    unfold ratPower at power
    split_ifs at power
    · cases power
    · cases power
    · split at power <;> cases power

theorem ofRat_eq_zero_iff (r : ℚ) : ofRat r = zero ↔ r = 0 := by
  simp [ofRat, zero, Gaussian.ofRat, Gaussian.zero]

theorem ofRat_eq_one_iff (r : ℚ) : ofRat r = one ↔ r = 1 := by
  simp [ofRat, one, Gaussian.ofRat, Gaussian.one]

theorem power?_eq_gaussianPower {a q : ℚ} (zero : a ≠ 0) (one : a ≠ 1) (empty : q ≠ 0) :
    power? (ofRat a) (ofRat q) = some (gaussianPower (.ofRat a) q) := by
  unfold power?
  simp only [ofRat_eq_zero_iff, ofRat_eq_one_iff, zero, one, empty, if_false]
  rfl

theorem power?_of_pos {a : ℚ} (positive : 0 < a) (q : ℚ) :
    power? (ofRat a) (ofRat q) = some (ratPower a q) := by
  by_cases empty : q = 0
  · have whole : a ^ q.den = a := by rw [empty, Rat.den_zero, pow_one]
    rw [ratPower_of_pow_eq positive.le whole, empty, Rat.num_zero, zpow_zero]
    unfold power?
    rw [if_pos ((ofRat_eq_zero_iff 0).2 rfl)]
    rfl
  · by_cases unit : a = 1
    · rw [unit, ratPower, if_pos rfl]
      unfold power?
      rw [if_neg ((ofRat_eq_zero_iff q).not.2 empty)]
      rfl
    · rw [power?_eq_gaussianPower positive.ne' unit empty, gaussianPower]
      by_cases integer : q.den = 1
      · have power : (Gaussian.ofRat a).zpow q.num = .ofRat (a ^ q.num) := by
          apply Gaussian.toComplex_injective
          rw [Gaussian.toComplex_zpow, Gaussian.toComplex_ofRat, Gaussian.toComplex_ofRat,
            Rat.cast_zpow]
        rw [if_pos integer, ratPower, if_neg unit, if_pos integer, power, ofRat]
      · rw [if_neg integer, if_pos ⟨rfl, positive⟩]
        rfl

theorem power?_half_of_neg {r : ℚ} (negative : r < 0) :
    power? (ofRat r) (ofRat (1 / 2)) = some (scale .i (ratPower (-r) (1 / 2))) := by
  have unit : Gaussian.i.zpow 1 = .i := Gaussian.toComplex_injective (by
    rw [Gaussian.toComplex_zpow, zpow_one])
  have real : (Gaussian.ofRat r).im = 0 := rfl
  have left : ¬ 0 < (Gaussian.ofRat r).re := negative.le.not_gt
  have num : (1 / 2 : ℚ).num = 1 := one_div_num two_pos
  have den : (1 / 2 : ℚ).den = 2 := one_div_den two_pos
  rw [power?_eq_gaussianPower negative.ne (by linarith) (by norm_num), gaussianPower, num, den,
    unit, if_neg (by decide), if_neg (fun h => left h.2), if_pos ⟨real, rfl⟩]
  rfl

theorem negate_ofRat (r : ℚ) : negate (ofRat r) = ofRat (-r) := by
  rw [negate, ofRat, scale_exact, Gaussian.ofInt_neg_one_mul_ofRat]
  rfl

theorem isNegative_ofRat (r : ℚ) : isNegative (ofRat r) = decide (r < 0) := by
  simp [isNegative, ofRat, Gaussian.ofRat]

theorem realRoot?_of_pos {r : ℚ} (n : ℕ) (positive : 0 < r) :
    realRoot? n (ofRat r) = some (ratPower r (1 / n)) := by
  rw [realRoot?, isNegative_ofRat, decide_eq_false positive.le.not_gt, power?_of_pos positive]
  rfl

theorem realRoot?_of_neg {r : ℚ} (n : ℕ) (negative : r < 0) :
    realRoot? n (ofRat r) = some (scale (.ofInt (-1)) (ratPower (-r) (1 / n))) := by
  rw [realRoot?, isNegative_ofRat, decide_eq_true negative, negate_ofRat,
    power?_of_pos (neg_pos.2 negative)]
  rfl

theorem realRoot?_zero {n : ℕ} (degree : 0 < n) : realRoot? n zero = some zero := by
  have right : (0 : ℚ) < 1 / n := by positivity
  have exponent : isPositive (ofRat (1 / n)) = true := by
    simpa [isPositive, ofRat, Gaussian.ofRat] using degree
  have left : ¬ isNegative zero = true := by decide
  unfold realRoot? power?
  rw [if_neg left, if_neg ((ofRat_eq_zero_iff (1 / n)).not.2 right.ne'), if_pos rfl,
    if_pos exponent]

theorem modulus_of_real {z : Gaussian} (real : z.im = 0) : modulus z = ofRat |z.re| := by
  rw [modulus, if_pos real]
  split_ifs with negative
  · rw [abs_of_neg negative]
  · rw [abs_of_nonneg (not_lt.1 negative)]

theorem multiplicity_pow {b : ℕ} (base : 2 ≤ b) (k : ℕ) : multiplicity b (b ^ k) = k := by
  simpa using multiplicity_pow_mul base (Nat.coprime_one_right b) k

theorem multiplicity_one (b : ℕ) : multiplicity b 1 = 0 := by
  rw [multiplicity, if_neg]
  rintro ⟨base, -, divides⟩
  rw [Nat.mod_eq_of_lt (by omega)] at divides
  cases divides

theorem exponentIn_zpow {b : ℕ} (base : 2 ≤ b) (k : ℤ) : exponentIn b ((b : ℚ) ^ k) = k := by
  cases k with
  | ofNat n =>
    have whole : (b : ℚ) ^ Int.ofNat n = (b ^ n : ℕ) := by
      rw [Int.ofNat_eq_natCast, zpow_natCast, Nat.cast_pow]
    rw [exponentIn, whole, Rat.num_natCast, Rat.den_natCast, Int.natAbs_natCast,
      multiplicity_pow base, multiplicity_one, Int.natCast_zero, Int.sub_zero]
    rfl
  | negSucc n =>
    have inverse : (b : ℚ) ^ Int.negSucc n = ((b ^ (n + 1) : ℕ) : ℚ)⁻¹ := by
      rw [zpow_negSucc, Nat.cast_pow]
    have positive : 0 < b ^ (n + 1) := Nat.pow_pos (by omega)
    rw [exponentIn, inverse, Rat.inv_natCast_num_of_pos positive,
      Rat.inv_natCast_den_of_pos positive, Int.natAbs_one, multiplicity_pow base,
      multiplicity_one, Int.natCast_zero, Int.zero_sub]
    rfl

theorem ratLogarithm_eq_ofInt {b : ℕ} {r : ℚ} {k : ℤ} (base : 2 ≤ b) (power : r = (b : ℚ) ^ k) :
    ratLogarithm b r = ofInt k := by
  have nonzero : (b : ℚ) ^ k ≠ 0 := zpow_ne_zero k (Nat.cast_ne_zero.2 (by omega))
  rw [power, ratLogarithm, exponentIn_zpow base]
  exact if_pos (div_self nonzero)

theorem eq_zpow_of_isExact_ratLogarithm {b : ℕ} {r : ℚ} (base : 2 ≤ b)
    (exact : (ratLogarithm b r).isExact = true) : r = (b : ℚ) ^ exponentIn b r := by
  have nonzero : (b : ℚ) ^ exponentIn b r ≠ 0 :=
    zpow_ne_zero _ (Nat.cast_ne_zero.2 (by omega))
  unfold ratLogarithm at exact
  dsimp only at exact
  split_ifs at exact with whole none
  · rwa [div_eq_one_iff_eq nonzero] at whole
  · cases exact
  · cases exact

theorem valueAt?_abs (g : Gaussian) : valueAt? .abs (.exact g) = some (modulus g) := rfl

theorem logarithm?_of_pos (b : ℕ) {r : ℚ} (positive : 0 < r) :
    logarithm? b (ofRat r) = some (ratLogarithm b r) := if_pos ⟨rfl, positive⟩

theorem logarithm?_zero (b : ℕ) : logarithm? b zero = none := by
  have pole : valueAt? .ln zero = none := by decide
  unfold logarithm?
  rw [pole]
  exact if_neg fun h => lt_irrefl _ h.2

end Closed

namespace AlgebraSystem
open Closed

theorem evaluates_exact {g : Gaussian} {z : ℂ} (value : g.toComplex = z) :
    Evaluates (some (.exact g)) z where
  exists_eq := ⟨_, rfl⟩
  sound h same := by
    cases same
    exact value

theorem evaluates_scale_ratPower {c : Gaussian} (nonzero : c ≠ .zero) {a : ℚ} (positive : 0 < a)
    {q : ℚ} :
    Evaluates (some (scale c (ratPower a q))) (c.toComplex * ((a : ℝ) ^ (q : ℝ) : ℝ)) where
  exists_eq := ⟨_, rfl⟩
  sound g h := by
    have known : scale c (ratPower a q) = .exact g := Option.some.inj h
    have exact : (ratPower a q).isExact = true := by
      rw [← isExact_scale_ratPower nonzero, known]
      rfl
    obtain ⟨s, root, power⟩ := (isExact_ratPower_iff positive).1 exact
    rw [ratPower_of_pow_eq root power, Closed.ofRat, scale_exact, Closed.exact.injEq] at known
    have value : ((s ^ q.num : ℚ) : ℝ) = (a : ℝ) ^ (q : ℝ) := by
      have base : (0 : ℝ) ≤ s := by exact_mod_cast root
      have exponent : (q.den : ℝ) * (q : ℝ) = q.num := by exact_mod_cast Rat.den_mul_eq_num q
      rw [← power, Rat.cast_pow, ← Real.rpow_natCast, ← Real.rpow_mul base, exponent,
        Real.rpow_intCast, Rat.cast_zpow]
    rw [← known, Gaussian.toComplex_mul, Gaussian.toComplex_ofRat, ← value]
    push_cast
    rfl

theorem evaluates_ratPower {a : ℚ} (positive : 0 < a) (q : ℚ) :
    Evaluates (some (ratPower a q)) ((a : ℝ) ^ (q : ℝ) : ℝ) := by
  have one := evaluates_scale_ratPower (show Gaussian.one ≠ .zero by decide) positive (q := q)
  rwa [Gaussian.toComplex_one, one_mul] at one

theorem ratPower_one_div_eq_iff {a s : ℚ} {n : ℕ} (positive : 0 < a) (degree : 0 < n) :
    ratPower a (1 / n) = .ofRat s ↔ 0 ≤ s ∧ s ^ n = a := by
  have found {t : ℚ} (root : 0 ≤ t ∧ t ^ n = a) : ratPower a (1 / n) = .ofRat t := by
    rw [ratPower_of_pow_eq root.1 (by rw [one_div_den degree, root.2]), one_div_num degree,
      zpow_one]
  refine ⟨fun h => ?_, found⟩
  obtain ⟨t, root, power⟩ := (isExact_ratPower_iff (q := 1 / n) positive).1 (by rw [h]; rfl)
  rw [one_div_den degree] at power
  have same : Closed.ofRat s = .ofRat t := h.symm.trans (found ⟨root, power⟩)
  simp only [Closed.ofRat, Gaussian.ofRat, Closed.exact.injEq, Gaussian.mk.injEq] at same
  rw [same.1]
  exact ⟨root, power⟩

theorem ratPower_half_eq_iff {a s : ℚ} (positive : 0 < a) :
    ratPower a (1 / 2) = .ofRat s ↔ 0 ≤ s ∧ s ^ 2 = a :=
  ratPower_one_div_eq_iff positive two_pos

theorem rpow_one_div_of_pow_eq {r : ℚ} {c : ℝ} {n : ℕ} (degree : 0 < n) (root : 0 ≤ c)
    (power : c ^ n = r) : (r : ℝ) ^ ((1 / n : ℚ) : ℝ) = c := by
  push_cast
  rw [one_div, ← power, Real.pow_rpow_inv_natCast root degree.ne']

theorem rpow_half (x : ℝ) : x ^ ((1 / 2 : ℚ) : ℝ) = √x := by
  rw [Real.sqrt_eq_rpow]
  norm_num

theorem evaluates_realRoot {n : ℕ} {r : ℚ} {c : ℝ} (odd : Odd n) (power : c ^ n = r) :
    Evaluates (Closed.realRoot? n (.ofRat r)) c := by
  rcases lt_trichotomy r 0 with negative | rfl | positive
  · have left : c < 0 := odd.pow_neg_iff.1 (by rw [power]; exact_mod_cast negative)
    have found := evaluates_scale_ratPower (show Gaussian.ofInt (-1) ≠ .zero by decide)
      (neg_pos.2 negative) (q := 1 / n)
    rw [rpow_one_div_of_pow_eq odd.pos (neg_pos.2 left).le (by
      rw [odd.neg_pow, power, Rat.cast_neg])] at found
    rw [realRoot?_of_neg n negative]
    simpa using found
  · have zero : c = 0 := by simpa [odd.pos.ne'] using power
    rw [show Closed.ofRat 0 = .zero from rfl, realRoot?_zero odd.pos, zero]
    exact evaluates_exact (by simp)
  · have right : 0 < c := odd.pow_pos_iff.1 (by rw [power]; exact_mod_cast positive)
    have found := evaluates_ratPower positive (1 / n)
    rw [rpow_one_div_of_pow_eq odd.pos right.le power] at found
    rw [realRoot?_of_pos n positive]
    exact found

theorem evaluates_modulus (g : Gaussian) : Evaluates (some (modulus g)) ‖g.toComplex‖ := by
  by_cases real : g.im = 0
  · rw [modulus_of_real real]
    refine evaluates_exact ?_
    rw [Gaussian.norm_toComplex, Gaussian.toComplex_ofRat, Gaussian.normSq, real, mul_zero,
      add_zero, Rat.cast_mul, Real.sqrt_mul_self_eq_abs, ← Rat.cast_abs, Complex.ofReal_ratCast]
  · rw [modulus, if_neg real]
    have found := evaluates_ratPower (Gaussian.normSq_pos real) (1 / 2)
    rwa [rpow_half, ← Gaussian.norm_toComplex] at found

theorem modulus_of_sq_eq {g : Gaussian} {s : ℚ} (positive : 0 < g.normSq) (root : 0 ≤ s)
    (square : s ^ 2 = g.normSq) : modulus g = .ofRat s := by
  by_cases real : g.im = 0
  · have same : s = |g.re| := by
      rw [← abs_of_nonneg root, ← sq_eq_sq_iff_abs_eq_abs, square, Gaussian.normSq, real]
      ring
    rw [modulus_of_real real, same]
  · rw [modulus, if_neg real]
    exact (ratPower_half_eq_iff positive).2 ⟨root, square⟩

theorem standard_extractsRoots : standard.ExtractsRoots where
  power q positive := by
    rw [standard_power?, power?_of_pos positive]
    exact evaluates_ratPower positive q
  root_pow {k n} positive degree := by
    have power : (0 : ℚ) < (k ^ n : ℕ) := by exact_mod_cast Nat.pow_pos positive
    rw [standard_power?, power?_of_pos power,
      (ratPower_one_div_eq_iff power degree).2 ⟨Nat.cast_nonneg k, (Nat.cast_pow k n).symm⟩]
  root_div {a b n s t} above below degree numerator denominator := by
    have above : (0 : ℚ) < a := by exact_mod_cast above
    have below : (0 : ℚ) < b := by exact_mod_cast below
    rw [standard_power?, power?_of_pos above, Option.some.injEq,
      ratPower_one_div_eq_iff above degree] at numerator
    rw [standard_power?, power?_of_pos below, Option.some.injEq,
      ratPower_one_div_eq_iff below degree] at denominator
    rw [standard_power?, power?_of_pos (div_pos above below), Option.some.injEq,
      ratPower_one_div_eq_iff (div_pos above below) degree, div_pow, numerator.2, denominator.2]
    exact ⟨div_nonneg numerator.1 denominator.1, rfl⟩
  power_of_root {a q s} positive root := by
    rw [standard_power?, power?_of_pos positive, Option.some.injEq,
      ratPower_one_div_eq_iff positive q.den_pos] at root
    rw [standard_power?, power?_of_pos positive, ratPower_of_pow_eq root.1 root.2]
  sqrt_zero := by decide +kernel
  sqrt_neg {r} positive := by
    have found := evaluates_scale_ratPower (show Gaussian.i ≠ .zero by decide) positive
      (q := 1 / 2)
    rw [Gaussian.toComplex_i, rpow_half] at found
    rw [standard_power?, power?_half_of_neg (neg_neg_of_pos positive), neg_neg]
    exact found
  sqrt_neg_of_sqrt {r s} positive root := by
    rw [standard_power?, power?_of_pos positive, Option.some.injEq] at root
    rw [standard_power?, power?_half_of_neg (neg_neg_of_pos positive), neg_neg, root, Closed.ofRat,
      scale_exact, Gaussian.i_mul_ofRat]
  isReal_ofRat r := rfl
  realRoot odd power := evaluates_realRoot odd power
  realRoot_zero {n} odd := realRoot?_zero odd.pos
  realRoot_of_root {n r s} odd positive root := by
    rw [standard_power?, power?_of_pos positive, Option.some.injEq] at root
    rw [standard_realRoot?, realRoot?_of_pos n positive,
      realRoot?_of_neg n (neg_neg_of_pos positive), neg_neg, root, Closed.ofRat, scale_exact,
      Gaussian.ofInt_neg_one_mul_ofRat]
    exact ⟨rfl, rfl⟩
  abs g := evaluates_modulus g
  abs_zero := by decide +kernel
  abs_of_sqrt {g s} positive root := by
    rw [standard_power?, power?_of_pos positive, Option.some.injEq,
      ratPower_half_eq_iff positive] at root
    rw [standard_elementary?, valueAt?_abs, modulus_of_sq_eq positive root.1 root.2]

theorem standard_extractsExponents : standard.ExtractsExponents where
  logarithm {b r} base positive := by
    rw [standard_logarithm?, logarithm?_of_pos b positive]
    refine ⟨⟨_, rfl⟩, fun g h => ?_⟩
    have known : ratLogarithm b r = .exact g := Option.some.inj h
    have power := eq_zpow_of_isExact_ratLogarithm base (by rw [known]; rfl)
    rw [ratLogarithm_eq_ofInt base power, Closed.ofInt, Closed.exact.injEq] at known
    have large : (1 : ℝ) < b := by exact_mod_cast base
    have value : Real.logb b r = exponentIn b r := by
      rw [Real.logb_eq_iff_rpow_eq (by linarith) large.ne' (by exact_mod_cast positive),
        Real.rpow_intCast]
      calc (b : ℝ) ^ exponentIn b r = (((b : ℚ) ^ exponentIn b r : ℚ) : ℝ) := by push_cast; rfl
        _ = r := by rw [← power]
    rw [← known, Gaussian.toComplex_ofInt, value, Complex.ofReal_intCast]
  logarithm_one {b} base := by
    rw [standard_logarithm?, show Closed.one = .ofRat 1 from rfl, logarithm?_of_pos b one_pos,
      ratLogarithm_eq_ofInt base (zpow_zero (b : ℚ)).symm]
    rfl
  logarithm_mul_zpow {b r s} k base positive found := by
    have below : (0 : ℚ) < b := by exact_mod_cast (show 0 < b by omega)
    rw [standard_logarithm?, logarithm?_of_pos b positive, Option.some.injEq] at found
    have power := eq_zpow_of_isExact_ratLogarithm base (by rw [found]; rfl)
    rw [ratLogarithm_eq_ofInt base power] at found
    have value : s = exponentIn b r := by
      simpa [Closed.ofInt, Gaussian.ofInt, Closed.ofRat, Gaussian.ofRat] using found.symm
    rw [standard_logarithm?, logarithm?_of_pos b (mul_pos positive (zpow_pos below k)), power,
      ← zpow_add₀ below.ne', ratLogarithm_eq_ofInt base rfl, value]
    simp [Closed.ofInt, Gaussian.ofInt, Closed.ofRat, Gaussian.ofRat]
  logarithm_zero {b} base := logarithm?_zero b

end AlgebraSystem
end Calculator
