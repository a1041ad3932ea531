import Calculator.Positional
import Mathlib.Algebra.Order.Field.Power
import Mathlib.Algebra.Order.Archimedean.Basic
import Mathlib.Data.Nat.Cast.Order.Field
import Mathlib.Data.Nat.Log
import Mathlib.Tactic.FieldSimp
import Mathlib.Tactic.Linarith
import Mathlib.Tactic.Positivity
import Mathlib.Tactic.Ring

/-! Rounding to a number of digits, in any base and under any rule that goes to a nearest integer
and respects order. The rounded number is off by at most half a unit of its last digit, keeps
what has no more digits, stays between the powers of the base around the number, and respects
order even where numbers of different length meet. -/

namespace Calculator.Positional

variable {b : ℕ}

theorem log_mul_self_spec {n : ℕ} (base : 2 ≤ b) (nonzero : n ≠ 0) :
    (b * b) ^ Nat.log (b * b) n = b ^ (2 * Nat.log (b * b) n) ∧
      b ^ (2 * Nat.log (b * b) n) ≤ n ∧ n < b ^ (2 * Nat.log (b * b) n + 1 + 1) := by
  have squared (e : ℕ) : (b * b) ^ e = b ^ (2 * e) := by rw [← sq, pow_mul]
  have most := Nat.pow_log_le_self (b * b) nonzero
  have least := Nat.lt_pow_succ_log_self (show 1 < b * b by nlinarith) n
  rw [squared] at most least
  exact ⟨squared _, most, least⟩

theorem leading_eq (base : 2 ≤ b) (n : ℕ) : leading b n = (Nat.log b n, n / b ^ Nat.log b n) := by
  induction b using leading.induct n with
  | case1 b large e m eq odd ih =>
    obtain ⟨squared, -, least⟩ := log_mul_self_spec base (n := n) (by omega)
    obtain ⟨rfl, rfl⟩ := Prod.mk.inj (eq.symm.trans (ih (by nlinarith)))
    rw [squared] at eq odd
    rw [leading, if_pos large, eq]
    generalize Nat.log (b * b) n = e at *
    have log : Nat.log b n = 2 * e + 1 := by
      refine Nat.log_eq_of_pow_le_of_lt_pow ?_ least
      rw [pow_succ']
      exact (Nat.le_div_iff_mul_le (by positivity)).1 odd
    simp only [odd, if_true, log, pow_succ, Nat.div_div_eq_div_mul]
  | case2 b large e m eq even ih =>
    obtain ⟨squared, most, -⟩ := log_mul_self_spec base (n := n) (by omega)
    obtain ⟨rfl, rfl⟩ := Prod.mk.inj (eq.symm.trans (ih (by nlinarith)))
    rw [squared] at eq even
    rw [leading, if_pos large, eq]
    generalize Nat.log (b * b) n = e at *
    have log : Nat.log b n = 2 * e := by
      refine Nat.log_eq_of_pow_le_of_lt_pow most ?_
      rw [pow_succ']
      exact (Nat.div_lt_iff_lt_mul (by positivity)).1 (not_le.1 even)
    simp only [even, if_false, log]
  | case3 b small =>
    have short : n < b := by omega
    rw [leading, if_neg small, Nat.log_of_lt short, pow_zero, Nat.div_one]

theorem exponent_spec {n d : ℕ} (base : 2 ≤ b) (above : 0 < n) (below : 0 < d) :
    (b : ℚ) ^ exponent b n d ≤ n / d ∧ (n : ℚ) / d < (b : ℚ) ^ (exponent b n d + 1) := by
  have positive : (0 : ℚ) < d := by exact_mod_cast below
  unfold exponent
  by_cases large : d ≤ n
  · have most := Nat.pow_log_le_self b (Nat.div_pos large below).ne'
    have least := Nat.lt_pow_succ_log_self (by omega : 1 < b) (n / d)
    rw [if_pos large, leading_eq base]
    generalize Nat.log b (n / d) = e at *
    rw [Nat.le_div_iff_mul_le below] at most
    rw [Nat.div_lt_iff_lt_mul below] at least
    rw [le_div_iff₀ positive, div_lt_iff₀ positive, zpow_natCast]
    constructor
    · exact_mod_cast most
    · rw [show (e : ℤ) + 1 = (e + 1 : ℕ) by rfl, zpow_natCast]
      exact_mod_cast least
  · have reciprocal : (d + n - 1) / n - 1 = (d - 1) / n := by
      rw [show d + n - 1 = d - 1 + n by omega, Nat.add_div_right _ above, Nat.add_sub_cancel]
    have nonzero : (d - 1) / n ≠ 0 := (Nat.div_pos (by omega) above).ne'
    have most := Nat.pow_log_le_self b nonzero
    have least := Nat.lt_pow_succ_log_self (by omega : 1 < b) ((d - 1) / n)
    rw [if_neg large, reciprocal, leading_eq base]
    generalize Nat.log b ((d - 1) / n) = e at *
    rw [Nat.le_div_iff_mul_le above] at most
    rw [Nat.div_lt_iff_lt_mul above] at least
    have power : (0 : ℚ) < (b : ℚ) ^ e := by positivity
    have power' : (0 : ℚ) < (b : ℚ) ^ (e + 1) := by positivity
    constructor
    · have reach : d ≤ b ^ (e + 1) * n := by
        rw [Nat.succ_eq_add_one] at least
        omega
      rw [show -((e : ℤ) + 1) = -((e + 1 : ℕ) : ℤ) by push_cast; rfl, zpow_neg, zpow_natCast,
        le_div_iff₀ positive, inv_mul_le_iff₀ power']
      exact_mod_cast reach
    · have short : b ^ e * n < d := by omega
      rw [neg_add_rev, neg_add_cancel_comm, zpow_neg, zpow_natCast, div_lt_iff₀ positive,
        lt_inv_mul_iff₀ power]
      exact_mod_cast short

theorem exponent_mono {n d n' d' : ℕ} (base : 2 ≤ b) (above : 0 < n) (below : 0 < d)
    (above' : 0 < n') (below' : 0 < d') (le : (n : ℚ) / d ≤ n' / d') :
    exponent b n d ≤ exponent b n' d' := by
  have one : (1 : ℚ) < b := by exact_mod_cast base
  have bound := ((exponent_spec base above below).1.trans le).trans_lt
    (exponent_spec base above' below').2
  exact Int.lt_add_one_iff.1 ((zpow_lt_zpow_iff_right₀ one).1 bound)

theorem shifted_spec {n d : ℕ} (base : 0 < b) (positive : 0 < d) (k : ℤ) :
    0 < (shifted b n d k).2 ∧
      ((shifted b n d k).1 : ℚ) / (shifted b n d k).2 = n / d * (b : ℚ) ^ k := by
  unfold shifted
  by_cases up : 0 ≤ k
  · obtain ⟨j, rfl⟩ := Int.eq_ofNat_of_zero_le up
    rw [if_pos up]
    refine ⟨positive, ?_⟩
    rw [Int.toNat_natCast, Nat.pow_eq, zpow_natCast]
    push_cast
    ring
  · obtain ⟨j, rfl⟩ := Int.exists_eq_neg_ofNat (by omega : k ≤ 0)
    rw [if_neg up]
    refine ⟨by rw [Nat.pow_eq]; positivity, ?_⟩
    rw [neg_neg, Int.toNat_natCast, Nat.pow_eq, zpow_neg, zpow_natCast]
    push_cast
    ring

theorem shifted_positive {n d : ℕ} (base : 0 < b) (above : 0 < n) (k : ℤ) :
    0 < (shifted b n d k).1 := by
  unfold shifted
  split
  · rw [Nat.pow_eq]
    positivity
  · exact above

/-- A rule that takes a fraction to a nearest integer and respects order. -/
structure IsNearest (nearest : ℕ → ℕ → ℕ) : Prop where
  close {n d : ℕ} (positive : 0 < d) : |(nearest n d : ℚ) - n / d| ≤ 1 / 2
  mono {n d n' d' : ℕ} (positive : 0 < d) (positive' : 0 < d') (le : (n : ℚ) / d ≤ n' / d') :
    nearest n d ≤ nearest n' d'

theorem div_eq_quotient_add (n : ℕ) {d : ℕ} (positive : 0 < d) :
    (n : ℚ) / d = (n / d : ℕ) + ((n % d : ℕ) : ℚ) / d := by
  have nonzero : (d : ℚ) ≠ 0 := by exact_mod_cast positive.ne'
  field_simp
  exact_mod_cast (Nat.div_add_mod n d).symm

theorem quotient_le {n d n' d' : ℕ} (positive' : 0 < d')
    (le : (n : ℚ) / d ≤ n' / d') : n / d ≤ n' / d' := by
  rw [Nat.le_div_iff_mul_le positive', ← Nat.cast_le (α := ℚ), Nat.cast_mul,
    ← le_div_iff₀ (by exact_mod_cast positive')]
  exact Nat.cast_div_le.trans le

theorem remainder_le {n d n' d' : ℕ} (positive : 0 < d) (positive' : 0 < d')
    (le : (n : ℚ) / d ≤ n' / d') (same : n / d = n' / d') : n % d * d' ≤ n' % d' * d := by
  rw [div_eq_quotient_add n positive, div_eq_quotient_add n' positive', same,
    add_le_add_iff_left, div_le_div_iff₀ (by exact_mod_cast positive)
    (by exact_mod_cast positive')] at le
  exact_mod_cast le

/-- A rule that raises some quotients: those with more than half of the divisor behind them and
none with less, and with one of them every one of the same quotient and a larger fraction. -/
theorem IsNearest.of_raises {nearest : ℕ → ℕ → ℕ} (raises : ℕ → ℕ → ℕ → Prop)
    [∀ q r d, Decidable (raises q r d)]
    (rule : ∀ n d, nearest n d = if raises (n / d) (n % d) d then n / d + 1 else n / d)
    (above : ∀ q r d, raises q r d → d ≤ 2 * r) (below : ∀ q r d, ¬ raises q r d → 2 * r ≤ d)
    (up : ∀ q r d r' d', 0 < d → 0 < d' → r * d' ≤ r' * d → raises q r d → raises q r' d') :
    IsNearest nearest where
  close {n d} positive := by
    have divisor : (0 : ℚ) < d := by exact_mod_cast positive
    have part : ((n % d : ℕ) : ℚ) / d < 1 := by
      rw [div_lt_one divisor]
      exact_mod_cast Nat.mod_lt n positive
    have part' : 0 ≤ ((n % d : ℕ) : ℚ) / d := by positivity
    rw [div_eq_quotient_add n positive, abs_le, rule]
    split
    · next raised =>
      have half : (1 : ℚ) / 2 ≤ (n % d : ℕ) / d := by
        rw [div_le_div_iff₀ two_pos divisor]
        exact_mod_cast (by have := above _ _ _ raised; omega)
      rw [Nat.cast_add_one]
      constructor <;> linarith
    · next kept =>
      have half : ((n % d : ℕ) : ℚ) / d ≤ 1 / 2 := by
        rw [div_le_div_iff₀ divisor two_pos]
        exact_mod_cast (by have := below _ _ _ kept; omega)
      constructor <;> linarith
  mono {n d n' d'} positive positive' le := by
    have quotients := quotient_le positive' le
    by_cases same : n / d = n' / d'
    · have remainders := remainder_le positive positive' le same
      rw [rule, rule, same]
      split
      · next raised => rw [if_pos (up _ _ _ _ _ positive positive' remainders raised)]
      · split <;> omega
    · rw [rule, rule]
      split <;> split <;> omega

theorem nearestUp_isNearest : IsNearest nearestUp := by
  refine .of_raises (fun _ r d => d ≤ 2 * r) (fun n d => rfl) (fun _ _ _ h => h)
    (fun _ _ _ h => by omega) fun _ r d r' d' positive _ le raised => ?_
  by_contra less
  nlinarith

theorem nearestEven_isNearest : IsNearest nearestEven := by
  refine .of_raises (fun q r d => d < 2 * r ∨ d = 2 * r ∧ q % 2 = 1) (fun n d => rfl)
    (fun _ _ _ h => by omega) (fun _ _ _ h => by omega) fun q r d r' d' positive _ le raised => ?_
  rcases raised with more | ⟨rfl, odd⟩
  · left
    nlinarith
  · have enough : d' ≤ 2 * r' := by nlinarith
    omega

theorem eq_of_abs_sub_lt_one {m n : ℤ} (near : |(m : ℚ) - n| < 1) : m = n := by
  rw [← Int.cast_sub, ← Int.cast_abs, ← Int.cast_one, Int.cast_lt, Int.abs_lt_one_iff] at near
  omega

namespace IsNearest
variable {nearest : ℕ → ℕ → ℕ}

theorem natCast (rule : IsNearest nearest) (c : ℕ) : nearest c 1 = c := by
  have close := rule.close (n := c) one_pos
  rw [Nat.cast_one, div_one] at close
  have near : |((nearest c 1 : ℤ) : ℚ) - (c : ℤ)| < 1 := by
    push_cast
    linarith
  exact_mod_cast eq_of_abs_sub_lt_one near

theorem le_of_le (rule : IsNearest nearest) {c n d : ℕ} (positive : 0 < d)
    (le : (c : ℚ) ≤ n / d) : c ≤ nearest n d := by
  rw [← rule.natCast c]
  exact rule.mono one_pos positive (by simpa using le)

theorem le_of_ge (rule : IsNearest nearest) {c n d : ℕ} (positive : 0 < d)
    (ge : (n : ℚ) / d ≤ c) : nearest n d ≤ c := by
  rw [← rule.natCast c]
  exact rule.mono positive one_pos (by simpa using ge)

end IsNearest

def Scaled.value (b : ℕ) (x : Scaled) : ℚ := x.coefficient * (b : ℚ) ^ x.exponent

theorem Scaled.fraction_spec (base : 0 < b) (x : Scaled) :
    0 < (x.fraction b).2 ∧ ((x.fraction b).1 : ℚ) / (x.fraction b).2 = x.value b := by
  simpa [Scaled.fraction, Scaled.value] using shifted_spec base one_pos x.exponent

/-- What rounding to `k` digits makes of a number between `b ^ e` and `b ^ (e + 1)`, if it is
off by at most `s` units of the last digit. -/
structure RoundsTo (b k : ℕ) (s v : ℚ) (e : ℤ) (x : Scaled) : Prop where
  least : (b : ℚ) ^ e ≤ v
  most : v < (b : ℚ) ^ (e + 1)
  exponent : x.exponent = e - (k - 1)
  long : b ^ (k - 1) ≤ x.coefficient
  short : x.coefficient ≤ b ^ k
  close : |x.value b - v| ≤ s * (b : ℚ) ^ (e - (k - 1))

section
variable {nearest : ℕ → ℕ → ℕ} {k n d n' d' : ℕ}

theorem round_eq (nearest : ℕ → ℕ → ℕ) (b k n d : ℕ) :
    round nearest b k n d = ⟨nearest (shifted b n d (k - 1 - exponent b n d)).1
      (shifted b n d (k - 1 - exponent b n d)).2, exponent b n d - (k - 1)⟩ := rfl

theorem round_roundsTo (rule : IsNearest nearest) (base : 2 ≤ b) (digits : 1 ≤ k) (above : 0 < n)
    (below : 0 < d) : RoundsTo b k (1 / 2) (n / d) (exponent b n d) (round nearest b k n d) := by
  obtain ⟨least, most⟩ := exponent_spec base above below
  obtain ⟨positive, scaled⟩ := shifted_spec (n := n) (by omega : 0 < b) below
    (k - 1 - exponent b n d)
  have nonzero : (b : ℚ) ≠ 0 := by positivity
  rw [round_eq]
  generalize exponent b n d = e at *
  generalize (n : ℚ) / d = v at *
  generalize shifted b n d (k - 1 - e) = p at *
  have power : (0 : ℚ) < (b : ℚ) ^ (k - 1 - e) := by positivity
  refine ⟨least, most, rfl, rule.le_of_le positive ?_, rule.le_of_ge positive ?_, ?_⟩
  · calc ((b ^ (k - 1) : ℕ) : ℚ) = (b : ℚ) ^ e * (b : ℚ) ^ (k - 1 - e) := by
          rw [← zpow_add₀ nonzero, Nat.cast_pow, ← zpow_natCast]
          congr 1
          omega
      _ ≤ v * (b : ℚ) ^ (k - 1 - e) := by gcongr
      _ = p.1 / p.2 := scaled.symm
  · calc (p.1 : ℚ) / p.2 = v * (b : ℚ) ^ (k - 1 - e) := scaled
      _ ≤ (b : ℚ) ^ (e + 1) * (b : ℚ) ^ (k - 1 - e) := by gcongr
      _ = ((b ^ k : ℕ) : ℚ) := by
          rw [← zpow_add₀ nonzero, Nat.cast_pow, ← zpow_natCast]
          congr 1
          omega
  · have unit : (0 : ℚ) < (b : ℚ) ^ (e - (k - 1)) := by positivity
    have inverse : (b : ℚ) ^ (k - 1 - e) * (b : ℚ) ^ (e - (k - 1)) = 1 := by
      rw [← zpow_add₀ nonzero, show (k - 1 - e) + (e - (k - 1)) = (0 : ℤ) by ring, zpow_zero]
    have close := rule.close (n := p.1) positive
    rw [scaled] at close
    calc |Scaled.value b ⟨nearest p.1 p.2, e - (k - 1)⟩ - v|
        = |(nearest p.1 p.2 - v * (b : ℚ) ^ (k - 1 - e)) * (b : ℚ) ^ (e - (k - 1))| := by
          rw [sub_mul, mul_assoc, inverse, mul_one, Scaled.value]
      _ = |nearest p.1 p.2 - v * (b : ℚ) ^ (k - 1 - e)| * (b : ℚ) ^ (e - (k - 1)) := by
          rw [abs_mul, abs_of_pos unit]
      _ ≤ 1 / 2 * (b : ℚ) ^ (e - (k - 1)) := by gcongr

end

namespace RoundsTo
variable {k : ℕ} {s v : ℚ} {e : ℤ} {x : Scaled}

theorem weaken {t : ℚ} (h : RoundsTo b k s v e x) (le : s ≤ t) : RoundsTo b k t v e x where
  least := h.least
  most := h.most
  exponent := h.exponent
  long := h.long
  short := h.short
  close := h.close.trans (by gcongr)

theorem coefficient_ne_zero (h : RoundsTo b k s v e x) (base : 0 < b) : x.coefficient ≠ 0 :=
  ((Nat.pow_pos base).trans_le h.long).ne'

theorem le_value (h : RoundsTo b k s v e x) (base : 2 ≤ b) (digits : 1 ≤ k) :
    (b : ℚ) ^ e ≤ x.value b := by
  have nonzero : (b : ℚ) ≠ 0 := by positivity
  have long : ((b ^ (k - 1) : ℕ) : ℚ) ≤ x.coefficient := by exact_mod_cast h.long
  calc (b : ℚ) ^ e = (b ^ (k - 1) : ℕ) * (b : ℚ) ^ (e - (k - 1)) := by
        rw [Nat.cast_pow, ← zpow_natCast, ← zpow_add₀ nonzero]
        congr 1
        omega
    _ ≤ x.coefficient * (b : ℚ) ^ (e - (k - 1)) := by gcongr
    _ = x.value b := by rw [Scaled.value, h.exponent]

theorem value_le (h : RoundsTo b k s v e x) (base : 2 ≤ b) : x.value b ≤ (b : ℚ) ^ (e + 1) := by
  have nonzero : (b : ℚ) ≠ 0 := by positivity
  have short : (x.coefficient : ℚ) ≤ (b ^ k : ℕ) := by exact_mod_cast h.short
  calc x.value b = x.coefficient * (b : ℚ) ^ (e - (k - 1)) := by rw [Scaled.value, h.exponent]
    _ ≤ (b ^ k : ℕ) * (b : ℚ) ^ (e - (k - 1)) := by gcongr
    _ = (b : ℚ) ^ (e + 1) := by
        rw [Nat.cast_pow, ← zpow_natCast, ← zpow_add₀ nonzero]
        congr 1
        omega

theorem value_eq (h : RoundsTo b k s v e x) (base : 2 ≤ b) {c : ℤ}
    (near : |c * (b : ℚ) ^ (e - (k - 1)) - v| < (1 - s) * (b : ℚ) ^ (e - (k - 1))) :
    x.value b = c * (b : ℚ) ^ (e - (k - 1)) := by
  have unit : (0 : ℚ) < (b : ℚ) ^ (e - (k - 1)) := by positivity
  have close := h.close
  rw [Scaled.value, h.exponent] at close ⊢
  generalize (b : ℚ) ^ (e - (k - 1)) = u at *
  have apart : |((x.coefficient : ℤ) : ℚ) - c| * u < 1 * u := by
    calc |((x.coefficient : ℤ) : ℚ) - c| * u = |(x.coefficient * u - v) - (c * u - v)| := by
          rw [← abs_of_pos unit, ← abs_mul, abs_of_pos unit]
          push_cast
          ring_nf
      _ ≤ |x.coefficient * u - v| + |c * u - v| := abs_sub _ _
      _ < 1 * u := by linarith
  rw [← eq_of_abs_sub_lt_one (lt_of_mul_lt_mul_right apart unit.le), Int.cast_natCast]

theorem binary_close (h : RoundsTo 2 k (1 / 2) v e x) : |x.value 2 - v| * 2 ^ k ≤ v := by
  have unit : (2 : ℚ) ^ e = 1 / 2 * 2 ^ (e - (k - 1)) * 2 ^ k := by
    rw [one_div, ← zpow_neg_one, ← zpow_natCast (2 : ℚ) k, ← zpow_add₀ two_ne_zero,
      ← zpow_add₀ two_ne_zero]
    congr 1
    ring
  calc |x.value 2 - v| * 2 ^ k ≤ 1 / 2 * 2 ^ (e - (k - 1)) * 2 ^ k := by
        gcongr
        exact_mod_cast h.close
    _ = 2 ^ e := unit.symm
    _ ≤ v := by exact_mod_cast h.least

end RoundsTo

theorem round_mono {nearest : ℕ → ℕ → ℕ} {k n d n' d' : ℕ} (rule : IsNearest nearest)
    (base : 2 ≤ b) (digits : 1 ≤ k) (above : 0 < n) (below : 0 < d) (above' : 0 < n')
    (below' : 0 < d') (le : (n : ℚ) / d ≤ n' / d') :
    (round nearest b k n d).value b ≤ (round nearest b k n' d').value b := by
  obtain same | less := (exponent_mono base above below above' below' le).eq_or_lt
  · obtain ⟨positive, scaled⟩ := shifted_spec (n := n) (by omega : 0 < b) below
      (k - 1 - exponent b n d)
    obtain ⟨positive', scaled'⟩ := shifted_spec (n := n') (by omega : 0 < b) below'
      (k - 1 - exponent b n d)
    have power : (0 : ℚ) < (b : ℚ) ^ (k - 1 - exponent b n d) := by positivity
    have coefficients := rule.mono positive positive' (by rw [scaled, scaled']; gcongr)
    rw [round_eq, round_eq, ← same, Scaled.value, Scaled.value]
    gcongr
  · have one : (1 : ℚ) ≤ b := by exact_mod_cast (by omega : 1 ≤ b)
    calc (round nearest b k n d).value b ≤ (b : ℚ) ^ (exponent b n d + 1) :=
          (round_roundsTo rule base digits above below).value_le base
      _ ≤ (b : ℚ) ^ exponent b n' d' := zpow_le_zpow_right₀ one less
      _ ≤ (round nearest b k n' d').value b :=
          (round_roundsTo rule base digits above' below').le_value base digits

section
variable {nearest : ℕ → ℕ → ℕ} {c k : ℕ} {x y : Scaled}

theorem fraction_positive (base : 0 < c) (nonzero : x.coefficient ≠ 0) : 0 < (x.fraction c).1 :=
  shifted_positive base (Nat.pos_of_ne_zero nonzero) _

theorem exponent_fraction_mono (base : 2 ≤ b) (base' : 0 < c) (nonzero : x.coefficient ≠ 0)
    (nonzero' : y.coefficient ≠ 0) (le : x.value c ≤ y.value c) :
    exponent b (x.fraction c).1 (x.fraction c).2 ≤
      exponent b (y.fraction c).1 (y.fraction c).2 := by
  obtain ⟨positive, value⟩ := x.fraction_spec base'
  obtain ⟨positive', value'⟩ := y.fraction_spec base'
  refine exponent_mono base (fraction_positive base' nonzero) positive
    (fraction_positive base' nonzero') positive' ?_
  rwa [value, value']

theorem round_fraction_roundsTo (rule : IsNearest nearest) (base : 2 ≤ b) (base' : 0 < c)
    (digits : 1 ≤ k) (nonzero : x.coefficient ≠ 0) :
    RoundsTo b k (1 / 2) (x.value c) (exponent b (x.fraction c).1 (x.fraction c).2)
      (round nearest b k (x.fraction c).1 (x.fraction c).2) := by
  obtain ⟨positive, value⟩ := x.fraction_spec base'
  rw [← value]
  exact round_roundsTo rule base digits (fraction_positive base' nonzero) positive

theorem round_fraction_mono (rule : IsNearest nearest) (base : 2 ≤ b) (base' : 0 < c)
    (digits : 1 ≤ k) (nonzero : x.coefficient ≠ 0) (nonzero' : y.coefficient ≠ 0)
    (le : x.value c ≤ y.value c) :
    (round nearest b k (x.fraction c).1 (x.fraction c).2).value b ≤
      (round nearest b k (y.fraction c).1 (y.fraction c).2).value b := by
  obtain ⟨positive, value⟩ := x.fraction_spec base'
  obtain ⟨positive', value'⟩ := y.fraction_spec base'
  refine round_mono rule base digits (fraction_positive base' nonzero) positive
    (fraction_positive base' nonzero') positive' ?_
  rwa [value, value']

end

end Calculator.Positional
