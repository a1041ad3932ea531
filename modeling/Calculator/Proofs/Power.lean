import Calculator.Number.Text
import Calculator.Proofs.StandardAlgebra

/-! Which powers, roots and absolute values of exact numbers are exact. They are where what is
asked for is rational: a power of a positive rational where numerator and denominator are perfect
powers of the degree of the root, a square root where the magnitude is a square, a cube root where
the number is a cube, and an absolute value where the sum of the squares of both parts is a
square. In all cases the exact answer is the root itself. This holds with every algebra system that
extracts roots. -/

namespace Calculator

namespace Root

theorem exists_pow_eq_iff {k : Nat} {q : ℚ} (positive : 0 < q) :
    (∃ s, 0 ≤ s ∧ s ^ k = q) ↔
      (∃ m : ℕ, m ^ k = q.num.natAbs) ∧ ∃ n : ℕ, n ^ k = q.den := by
  constructor
  · rintro ⟨s, -, rfl⟩
    exact ⟨⟨s.num.natAbs, by rw [Rat.num_pow, Int.natAbs_pow]⟩, s.den, by rw [Rat.den_pow]⟩
  · rintro ⟨⟨m, above⟩, n, below⟩
    have magnitude : (q.num.natAbs : ℚ) = q.num := by
      rw [Nat.cast_natAbs, abs_of_pos (Rat.num_pos.2 positive)]
    refine ⟨m / n, by positivity, ?_⟩
    calc ((m : ℚ) / n) ^ k = ((m ^ k : ℕ) : ℚ) / (n ^ k : ℕ) := by push_cast; rw [div_pow]
      _ = q := by rw [above, below, magnitude, Rat.num_div_den]

end Root

theorem exists_pow_eq_of_odd {n : ℕ} (odd : Odd n) (x : ℝ) : ∃ c : ℝ, c ^ n = x := by
  obtain right | left := le_total 0 x
  · exact ⟨x ^ (n : ℝ)⁻¹, Real.rpow_inv_natCast_pow right odd.pos.ne'⟩
  · refine ⟨-(-x) ^ (n : ℝ)⁻¹, ?_⟩
    rw [odd.neg_pow, Real.rpow_inv_natCast_pow (neg_nonneg.2 left) odd.pos.ne', neg_neg]

theorem Closed.isExact_iff {v : Closed} : v.isExact = true ↔ ∃ g, v = .exact g := by
  cases v <;> simp [isExact, gaussian?]

section
variable {A : AlgebraSystem} (roots : A.ExtractsRoots)
include roots

namespace AlgebraSystem.ExtractsRoots

theorem power?_eq {a q s : ℚ} (positive : 0 < a) (root : 0 ≤ s) (power : s ^ q.den = a) :
    A.power? (.ofRat a) (.ofRat q) = some (.ofRat (s ^ q.num)) := by
  have nonzero : s ≠ 0 := by
    rintro rfl
    exact positive.ne ((zero_pow q.den_ne_zero).symm.trans power)
  have above : 0 < s.num.natAbs := Int.natAbs_pos.2 (Rat.num_ne_zero.2 nonzero)
  have fraction : ((s.num.natAbs : ℕ) : ℚ) / s.den = s := by
    rw [Nat.cast_natAbs, abs_of_nonneg (Rat.num_nonneg.2 root), Rat.num_div_den]
  have found := roots.root_div (Nat.pow_pos above) (Nat.pow_pos s.den_pos) q.den_pos
    (roots.root_pow above q.den_pos) (roots.root_pow s.den_pos q.den_pos)
  rw [Nat.cast_pow, Nat.cast_pow, ← div_pow, fraction, power] at found
  exact roots.power_of_root positive found

theorem exists_root {a q : ℚ} {g : Gaussian} (positive : 0 < a)
    (found : A.power? (.ofRat a) (.ofRat q) = some (.exact g)) : ∃ s, 0 ≤ s ∧ s ^ q.den = a :=
  exists_pow_eq_of_rpow positive (congrArg Complex.re ((roots.power q positive).sound g found))

end AlgebraSystem.ExtractsRoots

end

namespace Number

/-- The number is exact just if there is a root of the kind asked for, and is then the value that
goes with the root. -/
structure ExactAt (z : Number) (IsRoot : ℚ → Prop) (value : ℚ → Gaussian) : Prop where
  exact_iff : z.approx = false ↔ ∃ s, IsRoot s
  value_eq : ∀ s, IsRoot s → z.value = .exact (value s)

theorem approx_derive_eq_false_iff {x : Number} {other : Bool} (hx : x.approx = false)
    (hother : other = false) (v : Closed) :
    (x.derive other v).approx = false ↔ ∃ g, v = .exact g := by
  simp [derive, hx, hother, Closed.isExact_iff]

theorem exactAt_derive {x : Number} (exact : x.approx = false) {v : Closed} {P : ℚ → Prop}
    {f : ℚ → Gaussian} (sound : ∀ g, v = .exact g → ∃ s, P s)
    (found : ∀ s, P s → v = .exact (f s)) :
    (x.derive false v).ExactAt P f where
  exact_iff := (approx_derive_eq_false_iff exact rfl v).trans
    ⟨fun ⟨g, same⟩ => sound g same, fun ⟨s, root⟩ => ⟨f s, found s root⟩⟩
  value_eq := found

theorem applyFunctionIn_eq_ok {A : AlgebraSystem} {x : Number} {t name : String}
    {f : NamedFunction} {e v : Closed} (text : x.text = .ok t) (argument : x.value = e)
    (named : NamedFunction.ofName? name = some f) (value : f.valueIn? A e = some v) :
    x.applyFunctionIn A name = .ok (x.derive false v) := by
  simp [applyFunctionIn, named, applyNamedIn, render, text, argument, value]

section
variable {A : AlgebraSystem} (roots : A.ExtractsRoots) {x : Number} {t : String}
include roots

theorem powIn_of_pos {y : Number} {a q : ℚ} (hx : x.approx = false) (hy : y.approx = false)
    (base : x.value = .ofRat a) (exponent : y.value = .ofRat q) (positive : 0 < a) :
    ∃ z, x.powIn A y = .ok z ∧
      (z.approx = false ↔ (∃ m : ℕ, m ^ q.den = a.num.natAbs) ∧ ∃ n : ℕ, n ^ q.den = a.den) ∧
      (z.approx = false → ∃ r, 0 < r ∧ r ^ q.den = a ^ q.num ∧ z.value = .ofRat r) := by
  obtain ⟨v, answer⟩ := (roots.power q positive).exists_eq
  have exact_iff : (x.derive y.approx v).approx = false ↔ ∃ s, 0 ≤ s ∧ s ^ q.den = a := by
    rw [approx_derive_eq_false_iff hx hy]
    constructor
    · rintro ⟨g, rfl⟩
      exact roots.exists_root positive answer
    · rintro ⟨s, root, power⟩
      have value := answer.symm.trans (roots.power?_eq positive root power)
      exact ⟨.ofRat (s ^ q.num), Option.some.inj value⟩
  refine ⟨x.derive y.approx v, ?_, exact_iff.trans (Root.exists_pow_eq_iff positive), ?_⟩
  · have nonzero : Closed.ofRat a ≠ .zero := (Closed.ofRat_eq_zero_iff a).not.2 positive.ne'
    rw [powIn, base, exponent, if_neg fun h => nonzero h.1, answer]
  · intro unmarked
    obtain ⟨s, root, power⟩ := exact_iff.1 unmarked
    have nonzero : s ≠ 0 := by
      rintro rfl
      exact positive.ne ((zero_pow q.den_ne_zero).symm.trans power)
    refine ⟨s ^ q.num, zpow_pos (lt_of_le_of_ne root nonzero.symm) _, ?_,
      Option.some.inj (answer.symm.trans (roots.power?_eq positive root power))⟩
    calc (s ^ q.num) ^ q.den = (s ^ q.den) ^ q.num := by
          rw [← zpow_natCast, ← zpow_natCast, zpow_comm]
      _ = a ^ q.num := by rw [power]

theorem root?_eq {a s : ℚ} {n : ℕ} (positive : 0 < a) (degree : 0 < n) (root : 0 ≤ s)
    (power : s ^ n = a) : A.power? (.ofRat a) (.ofRat (1 / n)) = some (.ofRat s) := by
  have found := roots.power?_eq (q := 1 / n) positive root (by rw [one_div_den degree, power])
  rwa [one_div_num degree, zpow_one] at found

theorem sqrt_of_exact {r : ℚ} (exact : x.approx = false) (real : x.value = .ofRat r)
    (text : x.text = .ok t) :
    ∃ z, x.applyFunctionIn A "sqrt" = .ok z ∧ z.ExactAt (fun s => 0 ≤ s ∧ s ^ 2 = |r|)
      fun s => if 0 ≤ r then ⟨s, 0⟩ else ⟨0, s⟩ := by
  have named : NamedFunction.ofName? "sqrt" = some .sqrt := by decide
  rcases lt_trichotomy r 0 with negative | rfl | positive
  · have opposite : 0 < -r := neg_pos.2 negative
    have left := roots.sqrt_neg opposite
    rw [neg_neg] at left
    obtain ⟨v, answer⟩ := left.exists_eq
    refine ⟨_, applyFunctionIn_eq_ok text real named answer, exactAt_derive exact ?_ ?_⟩
    · rintro g rfl
      have value := congrArg Complex.im (left.sound g answer)
      simp only [Gaussian.toComplex_im, Complex.I_mul_im, Complex.ofReal_re] at value
      refine ⟨g.im, ?_, ?_⟩
      · exact_mod_cast value.symm ▸ Real.sqrt_nonneg _
      · rw [abs_of_neg negative]
        have square := congrArg (· ^ 2) value
        rw [Real.sq_sqrt (by exact_mod_cast opposite.le)] at square
        exact_mod_cast square
    · rintro s ⟨root, power⟩
      rw [abs_of_neg negative] at power
      have found := roots.sqrt_neg_of_sqrt opposite (root?_eq roots opposite two_pos root power)
      rw [neg_neg] at found
      rw [if_neg negative.not_ge]
      exact Option.some.inj (answer.symm.trans found)
  · refine ⟨_, applyFunctionIn_eq_ok text real named roots.sqrt_zero, exactAt_derive exact ?_ ?_⟩
    · exact fun g _ => ⟨0, by norm_num⟩
    · rintro s ⟨-, power⟩
      rw [abs_zero, sq_eq_zero_iff] at power
      rw [if_pos le_rfl, power]
      rfl
  · obtain ⟨v, answer⟩ := (roots.power (1 / 2) positive).exists_eq
    refine ⟨_, applyFunctionIn_eq_ok text real named answer, exactAt_derive exact ?_ ?_⟩
    · rintro g rfl
      have root := roots.exists_root positive answer
      rwa [show (1 / 2 : ℚ).den = 2 from one_div_den two_pos, ← abs_of_pos positive] at root
    · rintro s ⟨root, power⟩
      rw [abs_of_pos positive] at power
      rw [if_pos positive.le]
      exact Option.some.inj (answer.symm.trans (root?_eq roots positive two_pos root power))

theorem cbrt_of_exact {r : ℚ} (exact : x.approx = false) (real : x.value = .ofRat r)
    (text : x.text = .ok t) :
    ∃ z, x.applyFunctionIn A "cbrt" = .ok z ∧ z.ExactAt (fun s => s ^ 3 = r) (⟨·, 0⟩) := by
  have named : NamedFunction.ofName? "cbrt" = some .cbrt := by decide
  have odd : Odd 3 := by decide
  have asked : NamedFunction.cbrt.valueIn? A (.ofRat r) = A.realRoot? 3 (.ofRat r) :=
    if_pos (roots.isReal_ofRat r)
  obtain ⟨c, root⟩ : ∃ c : ℝ, c ^ 3 = r := exists_pow_eq_of_odd odd r
  obtain ⟨v, answer⟩ := (roots.realRoot odd root).exists_eq
  refine ⟨_, applyFunctionIn_eq_ok text real named (asked.trans answer), exactAt_derive exact ?_ ?_⟩
  · rintro g rfl
    have value := congrArg Complex.re ((roots.realRoot odd root).sound g answer)
    rw [Gaussian.toComplex_re, Complex.ofReal_re] at value
    refine ⟨g.re, ?_⟩
    rw [← value] at root
    exact_mod_cast root
  · rintro s rfl
    refine Option.some.inj (answer.symm.trans ?_)
    rcases lt_trichotomy s 0 with negative | rfl | positive
    · have opposite : 0 < (-s) ^ 3 := pow_pos (neg_pos.2 negative) 3
      have found := root?_eq roots opposite three_pos (neg_pos.2 negative).le rfl
      have below := (roots.realRoot_of_root odd opposite found).2
      rwa [odd.neg_pow, neg_neg, neg_neg] at below
    · rw [zero_pow three_ne_zero]
      exact roots.realRoot_zero odd
    · have found := root?_eq roots (pow_pos positive 3) three_pos positive.le rfl
      exact (roots.realRoot_of_root odd (pow_pos positive 3) found).1

theorem abs_of_exact {g : Gaussian} (exact : x.approx = false) (value : x.value = .exact g)
    (text : x.text = .ok t) :
    ∃ z, x.applyFunctionIn A "abs" = .ok z ∧
      z.ExactAt (fun s => 0 ≤ s ∧ s ^ 2 = g.re ^ 2 + g.im ^ 2) (⟨·, 0⟩) := by
  have named : NamedFunction.ofName? "abs" = some (.elementary .abs) := by decide
  have norm : g.normSq = g.re ^ 2 + g.im ^ 2 := by rw [Gaussian.normSq, sq, sq]
  obtain ⟨v, answer⟩ := (roots.abs g).exists_eq
  refine ⟨_, applyFunctionIn_eq_ok text value named answer, exactAt_derive exact ?_ ?_⟩
  · rintro h rfl
    have distance := congrArg Complex.re ((roots.abs g).sound h answer)
    rw [Gaussian.toComplex_re, Complex.ofReal_re, Gaussian.norm_toComplex] at distance
    refine ⟨h.re, by exact_mod_cast distance.symm ▸ Real.sqrt_nonneg _, ?_⟩
    have nonneg : 0 ≤ g.normSq := by rw [norm]; positivity
    have square := congrArg (· ^ 2) distance
    rw [Real.sq_sqrt (by exact_mod_cast nonneg)] at square
    rw [← norm]
    exact_mod_cast square
  · rintro s ⟨root, power⟩
    refine Option.some.inj (answer.symm.trans ?_)
    rw [← norm] at power
    by_cases zero : s = 0
    · rw [zero, zero_pow two_ne_zero, eq_comm, Gaussian.normSq,
        mul_self_add_mul_self_eq_zero] at power
      obtain rfl : g = .zero := Gaussian.toComplex_injective (Complex.ext
        (by simp [power.1]) (by simp [power.2]))
      rw [zero]
      exact roots.abs_zero
    · have positive : 0 < g.normSq := by rw [← power]; positivity
      exact roots.abs_of_sqrt positive (root?_eq roots positive two_pos root power)

/-- Powers with rational exponents and roots are exact just where they can be. A power of a
positive rational is exact if numerator and denominator of the base are perfect powers for the
denominator of the exponent, and the roots and the absolute value are exact if there is a
rational root; they then are that root, or `i` times it. The named functions want the text of
their argument. -/
theorem exact_iff_root :
    (∀ (x y : Number) (a q : ℚ), x.approx = false → y.approx = false → x.value = .ofRat a →
      y.value = .ofRat q → 0 < a →
      ∃ z, x.powIn A y = .ok z ∧
        (z.approx = false ↔ (∃ m : ℕ, m ^ q.den = a.num.natAbs) ∧ ∃ n : ℕ, n ^ q.den = a.den) ∧
        (z.approx = false → ∃ r, 0 < r ∧ r ^ q.den = a ^ q.num ∧ z.value = .ofRat r)) ∧
    (∀ (x : Number) (r : ℚ) (t : String), x.approx = false → x.value = .ofRat r →
      x.text = .ok t →
      (∃ z, x.applyFunctionIn A "sqrt" = .ok z ∧ z.ExactAt (fun s => 0 ≤ s ∧ s ^ 2 = |r|)
        fun s => if 0 ≤ r then ⟨s, 0⟩ else ⟨0, s⟩) ∧
      ∃ z, x.applyFunctionIn A "cbrt" = .ok z ∧ z.ExactAt (fun s => s ^ 3 = r) (⟨·, 0⟩)) ∧
    (∀ (x : Number) (g : Gaussian) (t : String), x.approx = false → x.value = .exact g →
      x.text = .ok t →
      ∃ z, x.applyFunctionIn A "abs" = .ok z ∧
        z.ExactAt (fun s => 0 ≤ s ∧ s ^ 2 = g.re ^ 2 + g.im ^ 2) (⟨·, 0⟩)) := by
  refine ⟨?powers, ?roots, ?moduli⟩
  case powers =>
    intro x y a q hx hy base exponent positive
    exact powIn_of_pos roots hx hy base exponent positive
  case roots =>
    intro x r t exact real text
    exact ⟨sqrt_of_exact roots exact real text, cbrt_of_exact roots exact real text⟩
  case moduli =>
    intro x g t exact value text
    exact abs_of_exact roots exact value text

end

theorem exact_iff_root_inverse_square :
    (∃ z r, (ofRat (8 / 27)).pow (ofRat (-2 / 3)) = .ok z ∧ z.approx = false ∧ 0 < r ∧
      r ^ (-2 / 3 : ℚ).den = (8 / 27) ^ (-2 / 3 : ℚ).num ∧ z.value = .ofRat r) ∧
    (∃ z, (ofInt (-4)).applyFunction "sqrt" = .ok z ∧ z.value = .exact ⟨0, 2⟩) ∧
    (∃ z, (ofInt (-8)).applyFunction "cbrt" = .ok z ∧ z.value = .exact ⟨-2, 0⟩) ∧
    ∃ z, (ofClosed (.exact ⟨3 / 2, -2⟩)).applyFunction "abs" = .ok z ∧
      z.value = .exact ⟨5 / 2, 0⟩ := by
  obtain ⟨powers, roots, moduli⟩ := exact_iff_root AlgebraSystem.standard_extractsRoots
  refine ⟨?_, ?_, ?_, ?_⟩
  · obtain ⟨z, power, exact, value⟩ := powers (ofRat (8 / 27)) (ofRat (-2 / 3)) (8 / 27) (-2 / 3)
      rfl rfl rfl rfl (by norm_num)
    have perfect : (∃ m : ℕ, m ^ (-2 / 3 : ℚ).den = (8 / 27 : ℚ).num.natAbs) ∧
        ∃ n : ℕ, n ^ (-2 / 3 : ℚ).den = (8 / 27 : ℚ).den :=
      ⟨⟨2, by decide +kernel⟩, 3, by decide +kernel⟩
    obtain ⟨r, positive, root, same⟩ := value (exact.2 perfect)
    exact ⟨z, r, power, exact.2 perfect, positive, root, same⟩
  · obtain ⟨⟨z, applied, found⟩, -⟩ := roots (ofInt (-4)) (-4) "-4" rfl (by decide +kernel)
      (by decide +kernel)
    exact ⟨z, applied, found.value_eq 2 (by norm_num)⟩
  · obtain ⟨-, z, applied, found⟩ := roots (ofInt (-8)) (-8) "-8" rfl (by decide +kernel)
      (by decide +kernel)
    exact ⟨z, applied, found.value_eq (-2) (by norm_num)⟩
  · obtain ⟨z, applied, found⟩ := moduli (ofClosed (.exact ⟨3 / 2, -2⟩)) ⟨3 / 2, -2⟩ "1.5 - 2i"
      rfl rfl (by decide +kernel)
    exact ⟨z, applied, found.value_eq (5 / 2) (by norm_num)⟩

end Number
end Calculator
