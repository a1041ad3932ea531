import Calculator.Proofs.Numeral
import Calculator.Proofs.SingleDigit

/-! Rounding first to bits and then to decimal digits. Both roundings together are off by less
than a unit of the last digit, also where one of them moves a number into another decade, they
leave a number alone that has no more digits, and they respect order. -/

namespace Calculator.Rounded

open Positional

/-- What a rounded coefficient has to do with a number between `10 ^ e` and `10 ^ (e + 1)`. -/
structure IsAccurate (d : ℕ) (v : ℚ) (e : ℤ) (y : Scaled) : Prop where
  long : 1 ≤ y.coefficient
  short : y.coefficient ≤ 10 ^ d
  place : e - d ≤ y.exponent
  close : |y.value 10 - v| < 10 ^ (e - d + 1)
  exact (c : ℤ) (digits : v = c * 10 ^ (e - d + 1)) : y.value 10 = v

section
variable {d : ℕ} {u x v : ℚ} {e f : ℤ} {y : Scaled}

theorem zpow_eq_unit_mul (d : ℕ) (e : ℤ) :
    (10 : ℚ) ^ (e + 1) = 10 ^ (e - d + 1) * 10 ^ d := by
  rw [← zpow_natCast, ← zpow_add₀ (by norm_num)]
  congr 1
  ring

theorem ten_le_pow (digits : 1 ≤ d) : (10 : ℚ) ≤ 10 ^ d := by
  calc (10 : ℚ) = 10 ^ 1 := (pow_one 10).symm
    _ ≤ 10 ^ d := pow_le_pow_right₀ (by norm_num) digits

theorem abs_sub_lt_unit (most : v < 10 ^ (e + 1)) (near : |x - v| * (7 * 10 ^ d) ≤ v) :
    |x - v| < 10 ^ (e - d + 1) / 7 := by
  have power : (0 : ℚ) < 10 ^ d := by positivity
  rw [zpow_eq_unit_mul d e] at most
  have scaled : |x - v| * 7 * 10 ^ d < 10 ^ (e - d + 1) * 10 ^ d := by linarith
  have := lt_of_mul_lt_mul_right scaled power.le
  linarith

theorem place_near (digits : 1 ≤ d) (least : 10 ^ e ≤ v) (most : v < 10 ^ (e + 1))
    (near : |x - v| * (7 * 10 ^ d) ≤ v) (least' : 10 ^ f ≤ x) (most' : x < 10 ^ (f + 1)) :
    f = e ∨ f = e + 1 ∨ f = e - 1 := by
  have close : |x - v| ≤ v / 70 := by
    have := mul_le_mul_of_nonneg_left (ten_le_pow digits) (abs_nonneg (x - v))
    linarith
  have close := abs_le.1 close
  have power : (0 : ℚ) < 10 ^ (e - 1) := by positivity
  have up : (10 : ℚ) ^ f < 10 ^ (e + 1 + 1) := by
    rw [zpow_add_one₀ (by norm_num)]
    linarith
  have down : (10 : ℚ) ^ (e - 1) < 10 ^ (f + 1) := by
    rw [← sub_add_cancel e 1, zpow_add_one₀ (by norm_num)] at least
    linarith
  have up := (zpow_lt_zpow_iff_right₀ (by norm_num)).1 up
  have down := (zpow_lt_zpow_iff_right₀ (by norm_num)).1 down
  omega

theorem close_of_same_place (rounds : RoundsTo 10 d (5 / 8) x e y)
    (distance : |x - v| < 10 ^ (e - d + 1) / 7) :
    |y.value 10 - v| < 10 ^ (e - d + 1) ∧
      ∀ c : ℤ, v = c * 10 ^ (e - d + 1) → y.value 10 = v := by
  have unit : (0 : ℚ) < 10 ^ (e - d + 1) := by positivity
  have same : e - (d - 1) = e - d + 1 := by ring
  have close := rounds.close
  rw [same, Nat.cast_ofNat] at close
  constructor
  · have := abs_sub_le (y.value 10) x v
    linarith
  · rintro c rfl
    have value := rounds.value_eq (c := c) (by omega)
    rw [same, Nat.cast_ofNat, abs_sub_comm] at value
    exact value (by linarith)

theorem least_coefficient_mul (digits : 1 ≤ d) (f : ℤ) :
    (((10 ^ (d - 1) : ℕ) : ℤ) : ℚ) * 10 ^ (f - (d - 1)) = 10 ^ f := by
  rw [Int.cast_natCast, Nat.cast_pow, Nat.cast_ofNat, ← zpow_natCast, ← zpow_add₀ (by norm_num)]
  congr 1
  omega

theorem greatest_coefficient_mul (d : ℕ) (f : ℤ) :
    (((10 ^ d : ℕ) : ℤ) : ℚ) * 10 ^ (f - (d - 1)) = 10 ^ (f + 1) := by
  rw [Int.cast_natCast, Nat.cast_pow, Nat.cast_ofNat, ← zpow_natCast, ← zpow_add₀ (by norm_num)]
  congr 1
  ring

theorem close_of_next_place (digits : 1 ≤ d) (rounds : RoundsTo 10 d (5 / 8) x (e + 1) y)
    (most : v < 10 ^ (e + 1)) (distance : |x - v| < 10 ^ (e - d + 1) / 7) :
    |y.value 10 - v| < 10 ^ (e - d + 1) ∧
      ∀ c : ℤ, v = c * 10 ^ (e - d + 1) → y.value 10 = v := by
  have unit : (0 : ℚ) < 10 ^ (e - d + 1) := by positivity
  have larger : (10 : ℚ) ^ (e + 1 - (d - 1)) = 10 ^ (e - d + 1) * 10 := by
    rw [← zpow_add_one₀ (by norm_num)]
    congr 1
    ring
  have least := rounds.least
  rw [Nat.cast_ofNat] at least
  have distance := abs_lt.1 distance
  have value : y.value 10 = 10 ^ (e + 1) := by
    have value := rounds.value_eq (c := (10 ^ (d - 1) : ℕ)) (by omega)
    rw [Nat.cast_ofNat, least_coefficient_mul digits, larger] at value
    refine value (abs_lt.2 ⟨?_, ?_⟩) <;> linarith
  rw [value]
  refine ⟨abs_lt.2 ⟨by linarith, by linarith⟩, ?_⟩
  rintro c rfl
  exfalso
  rw [zpow_eq_unit_mul d e, mul_comm] at most
  have below : c < (10 ^ d : ℕ) := by
    have := lt_of_mul_lt_mul_left most unit.le
    exact_mod_cast this
  have below : (c : ℚ) + 1 ≤ 10 ^ d := by exact_mod_cast below
  have gap := mul_le_mul_of_nonneg_left below unit.le
  rw [zpow_eq_unit_mul d e] at least
  linarith

theorem close_of_previous_place (digits : 1 ≤ d) (rounds : RoundsTo 10 d (5 / 8) x (e - 1) y)
    (least : 10 ^ e ≤ v) (distance : |x - v| < 10 ^ (e - d + 1) / 7)
    (near : |x - v| * (7 * 10 ^ d) ≤ v) :
    |y.value 10 - v| < 10 ^ (e - d + 1) ∧
      ∀ c : ℤ, v = c * 10 ^ (e - d + 1) → y.value 10 = v := by
  have unit : (0 : ℚ) < 10 ^ (e - d + 1) := by positivity
  have smaller : (10 : ℚ) ^ (e - 1 - (d - 1)) = 10 ^ (e - d + 1) / 10 := by
    rw [show e - 1 - (d - 1) = e - d + 1 - 1 by ring, zpow_sub_one₀ (by norm_num), div_eq_mul_inv]
  have most := rounds.most
  have close := rounds.close
  rw [Nat.cast_ofNat, sub_add_cancel] at most
  rw [Nat.cast_ofNat, smaller] at close
  constructor
  · have := abs_sub_le (y.value 10) x v
    linarith
  · rintro c rfl
    have full := least_coefficient_mul digits e
    rw [show e - (d - 1) = e - d + 1 by ring] at full
    -- the least number of this place is the only one that can have come from below
    have least_eq : (c : ℚ) * 10 ^ (e - d + 1) = 10 ^ e := by
      refine le_antisymm ?_ least
      have below : c < (10 ^ (d - 1) : ℕ) + 1 := by
        have distance := abs_lt.1 distance
        have : (c : ℚ) * 10 ^ (e - d + 1) < (((10 ^ (d - 1) : ℕ) : ℤ) + 1) * 10 ^ (e - d + 1) := by
          linarith
        exact_mod_cast lt_of_mul_lt_mul_right this unit.le
      have below : (c : ℚ) ≤ ((10 ^ (d - 1) : ℕ) : ℤ) := by
        exact_mod_cast Int.lt_add_one_iff.1 below
      rw [← full]
      gcongr
    rw [least_eq] at near ⊢
    have closer : |x - 10 ^ e| ≤ 10 ^ (e - d + 1) / 70 := by
      have tenth := zpow_eq_unit_mul d e
      rw [zpow_add_one₀ (by norm_num)] at tenth
      have scaled : |x - 10 ^ e| * 70 * 10 ^ d ≤ 10 ^ (e - d + 1) * 10 ^ d := by linarith
      have := le_of_mul_le_mul_right scaled (by positivity)
      linarith
    have value := rounds.value_eq (c := (10 ^ d : ℕ)) (by omega)
    rw [Nat.cast_ofNat, greatest_coefficient_mul, sub_add_cancel, smaller, abs_sub_comm] at value
    exact value (by linarith)

theorem isAccurate_of_roundsTo (digits : 1 ≤ d) (rounds : RoundsTo 10 d (5 / 8) x f y)
    (least : 10 ^ e ≤ v) (most : v < 10 ^ (e + 1)) (near : |x - v| * (7 * 10 ^ d) ≤ v) :
    IsAccurate d v e y := by
  have least' := rounds.least
  have most' := rounds.most
  rw [Nat.cast_ofNat] at least' most'
  have places := place_near digits least most near least' most'
  have distance := abs_sub_lt_unit most near
  have long : 1 ≤ y.coefficient := (Nat.one_le_pow (d - 1) 10 (by omega)).trans rounds.long
  have place : e - d ≤ y.exponent := by
    rw [rounds.exponent]
    omega
  obtain rfl | rfl | rfl := places
  · obtain ⟨close, exact⟩ := close_of_same_place rounds distance
    exact ⟨long, rounds.short, place, close, exact⟩
  · obtain ⟨close, exact⟩ := close_of_next_place digits rounds most distance
    exact ⟨long, rounds.short, place, close, exact⟩
  · obtain ⟨close, exact⟩ := close_of_previous_place digits rounds least distance near
    exact ⟨long, rounds.short, place, close, exact⟩

end

section
variable {d k n m n' m' : ℕ}

theorem binary_roundsTo (bits_pos : 1 ≤ k) (above : 0 < n) (below : 0 < m) :
    RoundsTo 2 k (1 / 2) (n / m) (exponent 2 n m) (round nearestEven 2 k n m) :=
  round_roundsTo nearestEven_isNearest le_rfl bits_pos above below

theorem one_le_bits (d : ℕ) : 1 ≤ bits d := by
  by_contra none
  have bound := seven_mul_ten_pow_le_two_pow_bits d
  have power := Nat.one_le_pow d 10 (by omega)
  rw [show bits d = 0 by omega, pow_zero] at bound
  omega

theorem binary_near (above : 0 < n) (below : 0 < m) (le : d ≤ k) :
    |(round nearestEven 2 (bits k) n m).value 2 - n / m| * (7 * 10 ^ d) ≤ n / m := by
  have enough : (7 : ℚ) * 10 ^ d ≤ 2 ^ bits k := by
    have power : 7 * 10 ^ d ≤ 2 ^ bits k :=
      (Nat.mul_le_mul_left 7 (Nat.pow_le_pow_right (by omega) le)).trans
        (seven_mul_ten_pow_le_two_pow_bits k)
    exact_mod_cast power
  calc |(round nearestEven 2 (bits k) n m).value 2 - n / m| * (7 * 10 ^ d)
      ≤ |(round nearestEven 2 (bits k) n m).value 2 - n / m| * 2 ^ bits k := by gcongr
    _ ≤ n / m := (binary_roundsTo (one_le_bits k) above below).binary_close

theorem ofBinary_roundsTo {x : Scaled} (digits : 1 ≤ d) (nonzero : x.coefficient ≠ 0) :
    RoundsTo 10 d (1 / 2) (x.value 2) (place x) (ofBinary d x) :=
  round_fraction_roundsTo nearestUp_isNearest (by omega) two_pos digits nonzero

theorem ofFraction_isAccurate (digits : 1 ≤ d) (above : 0 < n) (below : 0 < m) {e : ℤ}
    (least : (10 : ℚ) ^ e ≤ n / m) (most : (n : ℚ) / m < 10 ^ (e + 1)) :
    IsAccurate d (n / m) e (ofFraction d n m) := by
  have nonzero (k : ℕ) : (round nearestEven 2 (bits k) n m).coefficient ≠ 0 :=
    (binary_roundsTo (one_le_bits k) above below).coefficient_ne_zero two_pos
  unfold ofFraction
  split
  · next single =>
    subst single
    exact isAccurate_of_roundsTo le_rfl (singleDigit_roundsTo 5 (nonzero 2)) least most
      (binary_near above below (by omega))
  · have rounds := (ofBinary_roundsTo digits (nonzero d)).weaken (t := 5 / 8) (by norm_num)
    exact isAccurate_of_roundsTo digits rounds least most (binary_near above below le_rfl)

theorem ofBinary_mono {x y : Scaled} (digits : 1 ≤ d) (nonzero : x.coefficient ≠ 0)
    (nonzero' : y.coefficient ≠ 0) (le : x.value 2 ≤ y.value 2) :
    (ofBinary d x).value 10 ≤ (ofBinary d y).value 10 :=
  round_fraction_mono nearestUp_isNearest (by omega) two_pos digits nonzero nonzero' le

theorem ofFraction_mono (digits : 1 ≤ d) (above : 0 < n) (below : 0 < m) (above' : 0 < n')
    (below' : 0 < m') (le : (n : ℚ) / m ≤ n' / m') :
    (ofFraction d n m).value 10 ≤ (ofFraction d n' m').value 10 := by
  have nonzero {n m : ℕ} (above : 0 < n) (below : 0 < m) (k : ℕ) :
      (round nearestEven 2 (bits k) n m).coefficient ≠ 0 :=
    (binary_roundsTo (one_le_bits k) above below).coefficient_ne_zero two_pos
  have binary (k : ℕ) : (round nearestEven 2 (bits k) n m).value 2 ≤
      (round nearestEven 2 (bits k) n' m').value 2 :=
    round_mono nearestEven_isNearest le_rfl (one_le_bits k) above below above' below' le
  unfold ofFraction
  split
  · exact singleDigit_mono 5 (nonzero above below 2) (nonzero above' below' 2) (binary 2)
  · exact ofBinary_mono digits (nonzero above below d) (nonzero above' below' d) (binary d)

end

end Calculator.Rounded
