import Calculator.Proofs.Precision

/-! Rounding to a single digit. The detour over two digits costs less than an eighth of a unit
beyond the half that rounding costs anyway, and respects order: two numbers with the same two
digits are told apart, if at all, by what follows these digits, which is rounded in the same
way. -/

namespace Calculator.Rounded

open Positional

variable {x y : Scaled}

/-- The power of ten that `timesTen` multiplies with. -/
def binaryTen (k : ℤ) : Scaled :=
  round nearestEven 2 13 (shifted 10 1 1 k).1 (shifted 10 1 1 k).2

def product (x : Scaled) (k : ℤ) : Scaled :=
  ⟨x.coefficient * (binaryTen k).coefficient, x.exponent + (binaryTen k).exponent⟩

theorem timesTen_eq (x : Scaled) (k : ℤ) : timesTen x k =
    round nearestEven 2 13 ((product x k).fraction 2).1 ((product x k).fraction 2).2 := rfl

theorem value_product (x : Scaled) (k : ℤ) :
    (product x k).value 2 = x.value 2 * (binaryTen k).value 2 := by
  simp only [product, Scaled.value, Nat.cast_mul, zpow_add₀ (show ((2 : ℕ) : ℚ) ≠ 0 by norm_num)]
  ring

theorem binaryTen_roundsTo (k : ℤ) :
    ∃ e, RoundsTo 2 13 (1 / 2) (10 ^ k) e (binaryTen k) := by
  obtain ⟨positive, value⟩ := shifted_spec (b := 10) (n := 1) (by omega) one_pos k
  have above := shifted_positive (b := 10) (n := 1) (d := 1) (by omega) one_pos k
  have rounds := round_roundsTo nearestEven_isNearest le_rfl (by omega : 1 ≤ 13) above positive
  simp only [Nat.cast_one, div_one, one_mul, Nat.cast_ofNat] at value
  rw [value] at rounds
  exact ⟨_, rounds⟩

theorem product_nonzero (nonzero : x.coefficient ≠ 0) (k : ℤ) : (product x k).coefficient ≠ 0 := by
  obtain ⟨e, rounds⟩ := binaryTen_roundsTo k
  have long := rounds.long
  exact Nat.mul_ne_zero nonzero (by omega)

theorem timesTen_roundsTo (nonzero : x.coefficient ≠ 0) (k : ℤ) :
    ∃ e, RoundsTo 2 13 (1 / 2) (x.value 2 * (binaryTen k).value 2) e (timesTen x k) := by
  have rounds := round_fraction_roundsTo (k := 13) nearestEven_isNearest le_rfl two_pos (by omega)
    (product_nonzero nonzero k)
  rw [value_product] at rounds
  exact ⟨_, rounds⟩

theorem timesTen_close (nonzero : x.coefficient ≠ 0) (k : ℤ) :
    |(timesTen x k).value 2 - x.value 2 * 10 ^ k| ≤ x.value 2 * 10 ^ k / 4000 := by
  obtain ⟨_, factor⟩ := binaryTen_roundsTo k
  obtain ⟨_, result⟩ := timesTen_roundsTo nonzero k
  have factor := factor.binary_close
  have result := result.binary_close
  have positive : 0 ≤ x.value 2 := by
    unfold Scaled.value
    positivity
  have scaled : |x.value 2 * (binaryTen k).value 2 - x.value 2 * 10 ^ k| * 2 ^ 13 ≤
      x.value 2 * 10 ^ k := by
    rw [← mul_sub, abs_mul, abs_of_nonneg positive, mul_assoc]
    gcongr
  generalize x.value 2 * (binaryTen k).value 2 = product at *
  generalize x.value 2 * 10 ^ k = exact at *
  rw [abs_le]
  have := abs_le.1 (le_div_iff₀ (by norm_num) |>.2 result)
  have := abs_le.1 (le_div_iff₀ (by norm_num) |>.2 scaled)
  constructor <;> linarith

/-- What follows a quotient, as a binary number; the divisor is a power of two. -/
def rest (n d : ℕ) : Scaled := ⟨n % d, -(leading 2 d).1⟩

/-- The quotient, raised by one if what follows it goes above a half as a single digit. -/
def twoDigits (depth n d : ℕ) : ℕ :=
  if n % d = 0 then n / d
  else match depth with
    | 0 => n / d
    | depth + 1 =>
      let p := (singleDigit depth (rest n d)).fraction 10
      if p.2 < 2 * p.1 then n / d + 1 else n / d

/-- The place of the first decimal digit of a binary number. -/
def place (x : Scaled) : ℤ := exponent 10 (x.fraction 2).1 (x.fraction 2).2

def tens (x : Scaled) : ℕ × ℕ := (timesTen x (1 - place x)).fraction 2

theorem half_lt_value_iff (y : Scaled) :
    1 / 2 < y.value 10 ↔ (y.fraction 10).2 < 2 * (y.fraction 10).1 := by
  obtain ⟨positive, value⟩ := y.fraction_spec (b := 10) (by omega)
  rw [← value, div_lt_div_iff₀ two_pos (by exact_mod_cast positive), mul_comm]
  norm_cast
  omega

theorem singleDigit_eq (depth : ℕ) (x : Scaled) : singleDigit depth x =
    ⟨nearestEven (twoDigits depth (tens x).1 (tens x).2) 10, place x⟩ := by
  cases depth with
  | zero => rfl
  | succ depth => rfl

theorem twoDigits_zero (n d : ℕ) : twoDigits 0 n d = n / d := ite_self (n / d)

theorem twoDigits_succ (depth n d : ℕ) : twoDigits (depth + 1) n d =
    if n % d ≠ 0 ∧ 1 / 2 < (singleDigit depth (rest n d)).value 10 then n / d + 1 else n / d := by
  unfold twoDigits
  by_cases whole : n % d = 0
  · simp only [whole, if_true, ne_eq, not_true_eq_false, false_and, if_false]
  · simp only [whole, if_false, ne_eq, not_false_eq_true, true_and, half_lt_value_iff]

theorem twoDigits_eq_or (depth n d : ℕ) :
    twoDigits depth n d = n / d ∨ n % d ≠ 0 ∧ twoDigits depth n d = n / d + 1 := by
  unfold twoDigits
  split
  · exact .inl rfl
  · next proper =>
    cases depth with
    | zero => exact .inl rfl
    | succ depth =>
      dsimp only
      split
      · exact .inr ⟨proper, rfl⟩
      · exact .inl rfl

theorem twoDigits_close (depth : ℕ) {n d : ℕ} (positive : 0 < d) :
    |(twoDigits depth n d : ℚ) - n / d| ≤ 1 := by
  have divisor : (0 : ℚ) < d := by exact_mod_cast positive
  have part : ((n % d : ℕ) : ℚ) / d < 1 := by
    rw [div_lt_one divisor]
    exact_mod_cast Nat.mod_lt n positive
  have part' : 0 ≤ ((n % d : ℕ) : ℚ) / d := by positivity
  rw [div_eq_quotient_add n positive, abs_le]
  rcases twoDigits_eq_or depth n d with eq | ⟨-, eq⟩
  · rw [eq]
    constructor <;> linarith
  · rw [eq, Nat.cast_add_one]
    constructor <;> linarith

theorem tens_spec (x : Scaled) : 0 < (tens x).2 ∧
    ((tens x).1 : ℚ) / (tens x).2 = (timesTen x (1 - place x)).value 2 :=
  (timesTen x (1 - place x)).fraction_spec two_pos

theorem coefficient_close (depth : ℕ) (nonzero : x.coefficient ≠ 0)
    (most : x.value 2 * 10 ^ (-place x) < 10) :
    |((singleDigit depth x).coefficient : ℚ) - x.value 2 * 10 ^ (-place x)| ≤ 5 / 8 := by
  obtain ⟨positive, value⟩ := tens_spec x
  have scaled := timesTen_close nonzero (1 - place x)
  have two := twoDigits_close depth (n := (tens x).1) positive
  have one := nearestEven_isNearest.close (n := twoDigits depth (tens x).1 (tens x).2)
    (d := 10) (by omega)
  rw [← value, sub_eq_add_neg 1, zpow_add₀ (by norm_num), zpow_one, mul_left_comm] at scaled
  rw [singleDigit_eq]
  dsimp only
  generalize x.value 2 * 10 ^ (-place x) = q at *
  generalize ((tens x).1 : ℚ) / (tens x).2 = t at *
  rw [Nat.cast_ofNat] at one
  rw [abs_le] at *
  constructor <;> linarith

theorem singleDigit_roundsTo (depth : ℕ) (nonzero : x.coefficient ≠ 0) :
    RoundsTo 10 1 (5 / 8) (x.value 2) (place x) (singleDigit depth x) := by
  obtain ⟨positive, value⟩ := x.fraction_spec two_pos
  obtain ⟨least, most⟩ := exponent_spec (b := 10) (by omega) (fraction_positive two_pos nonzero)
    positive
  rw [value] at least most
  change _ ^ place x ≤ _ at least
  change _ < _ ^ (place x + 1) at most
  have power : (0 : ℚ) < 10 ^ (-place x) := by positivity
  have inverse : (10 : ℚ) ^ place x * 10 ^ (-place x) = 1 := by
    rw [← zpow_add₀ (by norm_num), add_neg_cancel, zpow_zero]
  have least' : 1 ≤ x.value 2 * 10 ^ (-place x) := by
    rw [← inverse]
    gcongr
    exact_mod_cast least
  have most' : x.value 2 * 10 ^ (-place x) < 10 := by
    calc x.value 2 * 10 ^ (-place x) < 10 ^ (place x + 1) * 10 ^ (-place x) := by
          gcongr
          exact_mod_cast most
      _ = 10 := by rw [zpow_add_one₀ (by norm_num), mul_right_comm, inverse, one_mul]
  have close := coefficient_close depth nonzero most'
  have bounds := abs_le.1 close
  refine ⟨least, most, ?_, ?_, ?_, ?_⟩
  · simp [singleDigit_eq]
  · have long : (0 : ℚ) < (singleDigit depth x).coefficient := by linarith
    exact_mod_cast long
  · have short : ((singleDigit depth x).coefficient : ℚ) < 11 := by linarith
    have short : (singleDigit depth x).coefficient < 11 := by exact_mod_cast short
    omega
  · calc |(singleDigit depth x).value 10 - x.value 2|
        = |((singleDigit depth x).coefficient - x.value 2 * 10 ^ (-place x)) * 10 ^ place x| := by
          rw [sub_mul, mul_assoc, mul_comm (10 ^ (-place x)), inverse, mul_one, Scaled.value,
            singleDigit_eq]
          rfl
      _ ≤ 5 / 8 * 10 ^ place x := by
          rw [abs_mul, abs_of_pos (zpow_pos (by norm_num) (place x) : (0 : ℚ) < 10 ^ place x)]
          gcongr
      _ = 5 / 8 * ((10 : ℕ) : ℚ) ^ (place x - ((1 : ℕ) - 1)) := by simp

theorem exists_pow_eq_fraction (x : Scaled) : ∃ j, (x.fraction 2).2 = 2 ^ j := by
  unfold Scaled.fraction shifted
  split
  · exact ⟨0, rfl⟩
  · exact ⟨_, one_mul _⟩

theorem value_rest {n d : ℕ} (power : ∃ j, d = 2 ^ j) :
    (rest n d).value 2 = ((n % d : ℕ) : ℚ) / d := by
  obtain ⟨j, rfl⟩ := power
  rw [Scaled.value, rest, leading_eq le_rfl, Nat.log_pow (by omega), zpow_neg, zpow_natCast]
  push_cast
  rw [div_eq_mul_inv]

theorem timesTen_mono (nonzero : x.coefficient ≠ 0) (nonzero' : y.coefficient ≠ 0)
    (le : x.value 2 ≤ y.value 2) (k : ℤ) : (timesTen x k).value 2 ≤ (timesTen y k).value 2 := by
  rw [timesTen_eq, timesTen_eq]
  refine round_fraction_mono nearestEven_isNearest le_rfl two_pos (by omega)
    (product_nonzero nonzero k) (product_nonzero nonzero' k) ?_
  rw [value_product, value_product]
  have factor : 0 ≤ (binaryTen k).value 2 := by
    unfold Scaled.value
    positivity
  gcongr

theorem twoDigits_mono {depth n d n' d' : ℕ} (power : ∃ j, d = 2 ^ j) (power' : ∃ j, d' = 2 ^ j)
    (le : (n : ℚ) / d ≤ n' / d')
    (deeper : ∀ k < depth, ∀ {x y : Scaled}, x.coefficient ≠ 0 → y.coefficient ≠ 0 →
      x.value 2 ≤ y.value 2 → (singleDigit k x).value 10 ≤ (singleDigit k y).value 10) :
    twoDigits depth n d ≤ twoDigits depth n' d' := by
  have positive : 0 < d := by
    obtain ⟨j, rfl⟩ := power
    positivity
  have positive' : 0 < d' := by
    obtain ⟨j, rfl⟩ := power'
    positivity
  have quotients := quotient_le positive' le
  by_cases same : n / d = n' / d'
  · have remainders := remainder_le positive positive' le same
    cases depth with
    | zero => rw [twoDigits_zero, twoDigits_zero, same]
    | succ depth =>
      rw [twoDigits_succ, twoDigits_succ, same]
      split
      · next raised =>
        have proper : n' % d' ≠ 0 := by
          intro whole
          rw [whole, zero_mul, nonpos_iff_eq_zero, mul_eq_zero] at remainders
          omega
        have order : (rest n d).value 2 ≤ (rest n' d').value 2 := by
          rw [value_rest power, value_rest power', div_le_div_iff₀ (by exact_mod_cast positive)
            (by exact_mod_cast positive')]
          exact_mod_cast remainders
        have deeper : (singleDigit depth (rest n d)).value 10 ≤
            (singleDigit depth (rest n' d')).value 10 :=
          deeper depth (Nat.lt_succ_self depth) raised.1 proper order
        rw [if_pos ⟨proper, raised.2.trans_le deeper⟩]
      · split <;> omega
  · rcases twoDigits_eq_or depth n d with eq | ⟨-, eq⟩ <;>
      rcases twoDigits_eq_or depth n' d' with eq' | ⟨-, eq'⟩ <;> omega

theorem singleDigit_mono (depth : ℕ) (nonzero : x.coefficient ≠ 0) (nonzero' : y.coefficient ≠ 0)
    (le : x.value 2 ≤ y.value 2) :
    (singleDigit depth x).value 10 ≤ (singleDigit depth y).value 10 := by
  induction depth using Nat.strong_induction_on generalizing x y with
  | h depth ih =>
    have places : place x ≤ place y :=
      exponent_fraction_mono (by omega) two_pos nonzero nonzero' le
    obtain same | less := places.eq_or_lt
    · obtain ⟨-, scaled⟩ := tens_spec x
      obtain ⟨-, scaled'⟩ := tens_spec y
      have two : twoDigits depth (tens x).1 (tens x).2 ≤ twoDigits depth (tens y).1 (tens y).2 := by
        refine twoDigits_mono (exists_pow_eq_fraction _) (exists_pow_eq_fraction _) ?_ ih
        rw [scaled, scaled', ← same]
        exact timesTen_mono nonzero nonzero' le _
      have one : nearestEven (twoDigits depth (tens x).1 (tens x).2) 10 ≤
          nearestEven (twoDigits depth (tens y).1 (tens y).2) 10 := by
        refine nearestEven_isNearest.mono (by omega) (by omega) ?_
        gcongr
      rw [singleDigit_eq, singleDigit_eq, Scaled.value, Scaled.value, same]
      dsimp only
      gcongr
    · calc (singleDigit depth x).value 10 ≤ ((10 : ℕ) : ℚ) ^ (place x + 1) :=
            (singleDigit_roundsTo depth nonzero).value_le (by omega)
        _ ≤ ((10 : ℕ) : ℚ) ^ place y := zpow_le_zpow_right₀ (by norm_num) less
        _ ≤ (singleDigit depth y).value 10 :=
            (singleDigit_roundsTo depth nonzero').le_value (by omega) le_rfl

end Calculator.Rounded
