import Calculator.Number.Rounded
import Calculator.Proofs.Rounding

/-! The binary precision behind a number of decimal digits. The factor in `bits` is a little more
than `log₂ 10`; that it is not less is seen from sixteen tenth powers, each rounded up to
sixty-four bits. -/

namespace Calculator.Rounded
open Positional

/-- From `m / 2 ^ 63 * 2 ^ e` to its tenth power, rounded up. -/
def tenthPower (p : ℕ × ℕ) : ℕ × ℕ :=
  let carried := Nat.log2 (p.1 ^ 10) - 630
  (p.1 ^ 10 / 2 ^ (567 + carried) + 1, 10 * p.2 + carried)

theorem tenthPower_bound {t : ℕ} {p : ℕ × ℕ} (bound : t * 2 ^ 63 ≤ p.1 * 2 ^ p.2) :
    t ^ 10 * 2 ^ 63 ≤ (tenthPower p).1 * 2 ^ (tenthPower p).2 := by
  obtain ⟨m, e⟩ := p
  simp only [tenthPower] at *
  generalize Nat.log2 (m ^ 10) - 630 = carried
  have above : m ^ 10 ≤ (m ^ 10 / 2 ^ (567 + carried) + 1) * 2 ^ (567 + carried) := by
    rw [mul_comm]
    exact (Nat.lt_mul_div_succ _ (by positivity)).le
  have scaled := calc
    t ^ 10 * 2 ^ 63 * 2 ^ 567 = (t * 2 ^ 63) ^ 10 := by
      rw [mul_pow, ← pow_mul, mul_assoc, ← pow_add]
    _ ≤ (m * 2 ^ e) ^ 10 := Nat.pow_le_pow_left bound 10
    _ = m ^ 10 * 2 ^ (10 * e) := by rw [mul_pow, ← pow_mul, mul_comm e]
    _ ≤ (m ^ 10 / 2 ^ (567 + carried) + 1) * 2 ^ (567 + carried) * 2 ^ (10 * e) := by gcongr
    _ = (m ^ 10 / 2 ^ (567 + carried) + 1) * 2 ^ (10 * e + carried) * 2 ^ 567 := by
      rw [mul_assoc, mul_assoc, ← pow_add, ← pow_add]
      congr 2
      omega
  exact Nat.le_of_mul_le_mul_right scaled (by positivity)

theorem iterate_tenthPower_bound (j : ℕ) :
    10 ^ 10 ^ j * 2 ^ 63 ≤
      (tenthPower^[j] (10 * 2 ^ 60, 3)).1 * 2 ^ (tenthPower^[j] (10 * 2 ^ 60, 3)).2 := by
  induction j with
  | zero => decide +kernel
  | succ j ih =>
    rw [Function.iterate_succ_apply', pow_succ 10 j, pow_mul]
    exact tenthPower_bound ih

theorem ten_pow_le_of_iterate {j k : ℕ}
    (short : (tenthPower^[j] (10 * 2 ^ 60, 3)).1 ≤ 2 ^ 64)
    (least : (tenthPower^[j] (10 * 2 ^ 60, 3)).2 + 1 ≤ k) : 10 ^ 10 ^ j ≤ 2 ^ k := by
  have bound := iterate_tenthPower_bound j
  generalize tenthPower^[j] (10 * 2 ^ 60, 3) = p at *
  have scaled := calc
    10 ^ 10 ^ j * 2 ^ 63 ≤ p.1 * 2 ^ p.2 := bound
    _ ≤ 2 ^ 64 * 2 ^ p.2 := by gcongr
    _ = 2 ^ (p.2 + 1) * 2 ^ 63 := by ring
    _ ≤ 2 ^ k * 2 ^ 63 := by gcongr; omega
  exact Nat.le_of_mul_le_mul_right scaled (by positivity)

theorem ten_pow_le : 10 ^ 10 ^ 16 ≤ 2 ^ 33219280948873626 :=
  ten_pow_le_of_iterate (by decide +kernel) (by decide +kernel)

theorem seven_mul_ten_pow_le {scale factor d k : ℕ} (positive : 0 < scale)
    (log : 10 ^ scale ≤ 2 ^ factor) (enough : 2 * ((d + 1) * factor) ≤ (2 * k + 1) * scale) :
    7 * 10 ^ d ≤ 2 ^ k := by
  have powers := calc
    (10 ^ (2 * (d + 1))) ^ scale = (10 ^ scale) ^ (2 * (d + 1)) := by
      rw [← pow_mul, ← pow_mul, mul_comm]
    _ ≤ (2 ^ factor) ^ (2 * (d + 1)) := by gcongr
    _ = 2 ^ (2 * ((d + 1) * factor)) := by rw [← pow_mul]; ring_nf
    _ ≤ 2 ^ ((2 * k + 1) * scale) := Nat.pow_le_pow_right two_pos enough
    _ = (2 ^ (2 * k + 1)) ^ scale := pow_mul _ _ _
  have squares : 10 ^ (2 * (d + 1)) ≤ 2 ^ (2 * k + 1) :=
    (Nat.pow_le_pow_iff_left positive.ne').1 powers
  have tens : 10 ^ (2 * (d + 1)) = 100 * (10 ^ d) ^ 2 := by ring
  have twos : 2 ^ (2 * k + 1) = 2 * (2 ^ k) ^ 2 := by ring
  by_contra less
  have square := Nat.pow_lt_pow_left (not_le.1 less) two_ne_zero
  rw [mul_pow] at square
  omega

theorem seven_mul_ten_pow_le_two_pow_bits (d : ℕ) : 7 * 10 ^ d ≤ 2 ^ bits d := by
  have close := nearestEven_isNearest.close (n := (d + 1) * 33219280948873626)
    (d := 10000000000000000) (by norm_num)
  have lower : ((d + 1) * 33219280948873626 : ℕ) / ((10000000000000000 : ℕ) : ℚ) ≤
      bits d + 1 / 2 := by
    have := (abs_le.1 close).1
    rw [bits]
    linarith
  rw [div_le_iff₀ (by norm_num)] at lower
  refine seven_mul_ten_pow_le (by norm_num) ten_pow_le ?_
  push_cast at lower
  have whole : 2 * (((d + 1) * 33219280948873626 : ℕ) : ℚ) ≤
      ((2 * bits d + 1) * 10 ^ 16 : ℕ) := by
    push_cast
    linarith
  exact_mod_cast whole

end Calculator.Rounded
