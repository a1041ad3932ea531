import Calculator.Gaussian.Root
import Mathlib.Analysis.SpecialFunctions.Pow.NthRootLemmas
import Mathlib.Algebra.Order.Field.Rat
import Mathlib.Data.Nat.Log
import Mathlib.Data.Rat.Lemmas

/-! Exact roots are found whenever they exist. Newton's iteration ends at the integer part of the
root, so a natural number is a perfect power exactly if a root is answered, and a rational is
one exactly if its numerator and its denominator are. -/

namespace Calculator.Root

theorem descend_eq_nthRoot {k n estimate : Nat} (positive : 0 < k)
    (above : n < (estimate + 1) ^ k) : descend k n estimate = Nat.nthRoot k n := by
  -- the estimate stays above the root, and where it no longer falls its power is not above `n`
  obtain ⟨j, rfl⟩ := Nat.exists_eq_succ_of_ne_zero positive.ne'
  induction estimate using descend.induct (j + 1) n with
  | case1 estimate next falls ih =>
    rw [descend, if_pos falls]
    refine ih ?_
    have nonzero : estimate ≠ 0 := ((Nat.zero_le next).trans_lt falls).ne'
    have tangent := Nat.nthRoot.lt_pow_go_succ_aux (a := n) (n := j) nonzero
    rwa [Nat.add_comm (n / estimate ^ j)] at tangent
  | case2 estimate next stays =>
    rw [descend, if_neg stays]
    have least : (j + 1) * estimate ≤ j * estimate + n / estimate ^ j := by
      rw [Nat.mul_comm]
      exact Nat.mul_le_of_le_div _ _ _ (not_lt.1 stays)
    rw [Nat.succ_mul] at least
    have quotient : estimate ≤ n / estimate ^ j := by omega
    refine (Nat.nthRoot_eq_of_le_of_lt ?_ above).symm
    rw [Nat.pow_succ']
    exact Nat.mul_le_of_le_div _ _ _ quotient

theorem floor_eq_nthRoot {k : Nat} (positive : 0 < k) (n : Nat) :
    floor k n = Nat.nthRoot k n := by
  have below : n < 2 ^ (n.log2 + 1) := Nat.lt_log2_self
  unfold floor
  split_ifs with small linear short square
  · obtain rfl | rfl : n = 0 ∨ n = 1 := by omega
    · exact (Nat.nthRoot_zero_right positive.ne').symm
    · exact Nat.nthRoot_one_right.symm
  · obtain rfl : k = 1 := by omega
    rfl
  · refine (Nat.nthRoot_eq_of_le_of_lt ?_ ?_).symm
    · rw [Nat.one_pow]
      omega
    · exact below.trans_le (Nat.pow_le_pow_right (by omega) short)
  · rw [square]
    exact (Nat.nthRoot_eq_of_le_of_lt (Nat.sqrt_le' n) (Nat.lt_succ_sqrt' n)).symm
  · refine descend_eq_nthRoot positive (below.trans_le ?_)
    have exponent : n.log2 + 1 ≤ (n.log2 / k + 1) * k := by
      rw [Nat.mul_comm]
      exact Nat.lt_mul_div_succ n.log2 positive
    calc 2 ^ (n.log2 + 1) ≤ 2 ^ ((n.log2 / k + 1) * k) := Nat.pow_le_pow_right (by omega) exponent
      _ = (2 ^ (n.log2 / k + 1)) ^ k := Nat.pow_mul ..
      _ ≤ (Nat.pow 2 (n.log2 / k + 1) + 1) ^ k := Nat.pow_le_pow_left (Nat.le_succ _) k

theorem nat?_eq_some_iff {k n r : Nat} (positive : 0 < k) : nat? k n = some r ↔ r ^ k = n := by
  have injective (s : Nat) : s ^ k = r ^ k → s = r := fun h => Nat.pow_left_injective positive.ne' h
  simp only [nat?, floor_eq_nthRoot positive]
  split_ifs with small short perfect
  · rw [Option.some.injEq]
    obtain rfl | rfl : n = 0 ∨ n = 1 := by omega
    · rw [pow_eq_zero_iff positive.ne', eq_comm]
    · rw [Nat.pow_eq_one, or_iff_left positive.ne', eq_comm]
  · refine iff_of_false nofun fun power => ?_
    -- the least power that is not zero or one is already too large
    have two : 2 ≤ r := by
      by_contra less
      obtain rfl | rfl : r = 0 ∨ r = 1 := by omega
      · rw [Nat.zero_pow positive] at power
        omega
      · rw [Nat.one_pow] at power
        omega
    have least : 2 ^ (n.log2 + 1) ≤ n := calc
      2 ^ (n.log2 + 1) ≤ 2 ^ k := Nat.pow_le_pow_right (by omega) short
      _ ≤ r ^ k := Nat.pow_le_pow_left two k
      _ = n := power
    exact absurd least (not_le.2 Nat.lt_log2_self)
  · rw [Option.some.injEq]
    exact ⟨fun h => h ▸ perfect, fun h => injective _ (perfect.trans h.symm)⟩
  · refine iff_of_false nofun fun power => perfect ?_
    rw [← power]
    exact congrArg (· ^ k) (Nat.nthRoot_pow positive.ne' r)

theorem rat?_eq_some_iff {k : Nat} {q s : ℚ} (positive : 0 < k) :
    rat? k q = some s ↔ 0 ≤ s ∧ s ^ k = q := by
  unfold rat?
  split_ifs with negative
  · refine iff_of_false nofun ?_
    rintro ⟨root, rfl⟩
    exact absurd (Rat.num_nonneg.2 (pow_nonneg root k)) (not_le.2 negative)
  · have magnitude : ((q.num.natAbs : ℤ) : ℚ) = q.num := by rw [Int.natAbs_of_nonneg (by omega)]
    constructor
    · intro h
      split at h
      · next a b above below =>
        cases h
        rw [nat?_eq_some_iff positive] at above below
        rw [Rat.mkRat_eq_div]
        refine ⟨div_nonneg (Int.cast_nonneg (Int.natCast_nonneg a)) (Nat.cast_nonneg b), ?_⟩
        rw [div_pow, ← Rat.num_div_den q, ← magnitude, ← above, ← below]
        push_cast
        rfl
      · cases h
    · rintro ⟨root, rfl⟩
      have above : nat? k (s ^ k).num.natAbs = some s.num.natAbs := by
        rw [nat?_eq_some_iff positive, Rat.num_pow, Int.natAbs_pow]
      have below : nat? k (s ^ k).den = some s.den := by
        rw [nat?_eq_some_iff positive, Rat.den_pow]
      have numerator : (s.num.natAbs : Int) = s.num := Int.natAbs_of_nonneg (Rat.num_nonneg.2 root)
      simp only [above, below, numerator, Rat.mkRat_self]

end Calculator.Root
