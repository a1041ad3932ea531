import Calculator.Gaussian
import Mathlib.Data.Complex.Basic
import Mathlib.Data.Rat.Cast.Lemmas

/-! Gaussian rationals as complex numbers. `toComplex` is injective and takes every operation to
the one of the complex field, inverses and integer powers included; the algorithms behind
them, by parts and by repeated squaring, are looked at here and nowhere else. -/

namespace Calculator.Gaussian

def toComplex (z : Gaussian) : ℂ := ⟨z.re, z.im⟩

@[simp] theorem toComplex_re (z : Gaussian) : z.toComplex.re = z.re := rfl
@[simp] theorem toComplex_im (z : Gaussian) : z.toComplex.im = z.im := rfl

theorem toComplex_injective {z w : Gaussian} (h : z.toComplex = w.toComplex) : z = w := by
  have re : z.re = w.re := Rat.cast_injective (congrArg Complex.re h)
  have im : z.im = w.im := Rat.cast_injective (congrArg Complex.im h)
  cases z
  cases w
  simp_all

@[simp] theorem toComplex_ofRat (q : Rat) : (ofRat q).toComplex = q := by
  apply Complex.ext <;> simp [ofRat]

@[simp] theorem toComplex_ofInt (n : Int) : (ofInt n).toComplex = n := by
  apply Complex.ext <;> simp [ofInt]

@[simp] theorem toComplex_zero : zero.toComplex = 0 := by
  apply Complex.ext <;> simp [zero]

@[simp] theorem toComplex_one : one.toComplex = 1 := by
  apply Complex.ext <;> simp [one]

@[simp] theorem toComplex_i : i.toComplex = Complex.I := by
  apply Complex.ext <;> simp [i]

@[simp] theorem toComplex_add (z w : Gaussian) :
    (z + w).toComplex = z.toComplex + w.toComplex := by
  change (add z w).toComplex = _
  apply Complex.ext <;> simp [add]

@[simp] theorem toComplex_sub (z w : Gaussian) :
    (z - w).toComplex = z.toComplex - w.toComplex := by
  change (sub z w).toComplex = _
  apply Complex.ext <;> simp [sub]

@[simp] theorem toComplex_mul (z w : Gaussian) :
    (z * w).toComplex = z.toComplex * w.toComplex := by
  change (mul z w).toComplex = _
  apply Complex.ext <;> simp [mul]

@[simp] theorem toComplex_inv (z : Gaussian) : z.inv.toComplex = z.toComplex⁻¹ := by
  apply Complex.ext <;> simp [inv, normSq, Complex.inv_re, Complex.inv_im, Complex.normSq_apply]

@[simp] theorem toComplex_div (z w : Gaussian) :
    (z / w).toComplex = z.toComplex / w.toComplex := by
  change (z * w.inv).toComplex = _
  rw [toComplex_mul, toComplex_inv, div_eq_mul_inv]

theorem toComplex_eq_zero_iff {z : Gaussian} : z.toComplex = 0 ↔ z = .zero := by
  rw [← toComplex_zero]
  exact ⟨toComplex_injective, congrArg _⟩

theorem toComplex_npowFrom (acc z : Gaussian) (n : Nat) :
    (npowFrom acc z n).toComplex = acc.toComplex * z.toComplex ^ n := by
  -- the exponent is halved at each step, and `acc * z ^ n` stays what it was
  induction n using Nat.strong_induction_on generalizing acc z with
  | _ n ih =>
    rw [npowFrom]
    by_cases done : n = 0
    · simp [done]
    · rw [if_neg done, ih (n / 2) (by omega), toComplex_mul, ← pow_two, ← pow_mul]
      by_cases odd : n % 2 = 1
      · have split : n = 1 + 2 * (n / 2) := by omega
        rw [if_pos odd, toComplex_mul, mul_assoc, ← pow_succ', Nat.add_comm, ← split]
      · have split : 2 * (n / 2) = n := by omega
        rw [if_neg odd, split]

theorem toComplex_npow (z : Gaussian) (n : Nat) : (z.npow n).toComplex = z.toComplex ^ n := by
  by_cases real : z.im = 0
  · have power : z.npow n = ofRat (z.re ^ n) := if_pos real
    have base : z = ofRat z.re := by rw [ofRat, ← real]
    rw [power, toComplex_ofRat, Rat.cast_pow, ← toComplex_ofRat, ← base]
  · rw [npow, if_neg real, toComplex_npowFrom, toComplex_one, one_mul]

theorem toComplex_zpow (z : Gaussian) (n : Int) : (z.zpow n).toComplex = z.toComplex ^ n := by
  cases n with
  | ofNat n => exact (toComplex_npow z n).trans (zpow_natCast _ n).symm
  | negSucc n => rw [zpow, toComplex_inv, toComplex_npow, zpow_negSucc]

theorem toInt?_eq_some_iff {z : Gaussian} {n : Int} : z.toInt? = some n ↔ z.toComplex = n := by
  constructor
  · intro h
    rw [toInt?, Option.ite_none_right_eq_some] at h
    obtain ⟨⟨real, whole⟩, num⟩ := h
    have re : z.re = n := by
      rw [← Option.some.inj num]
      exact (Rat.den_eq_one_iff z.re).1 whole |>.symm
    apply Complex.ext <;> simp [real, re]
  · intro h
    have same : z = ofInt n := toComplex_injective (h.trans (toComplex_ofInt n).symm)
    rw [same, toInt?, if_pos ⟨rfl, Rat.den_intCast n⟩]
    exact congrArg some (Rat.num_intCast n)

end Calculator.Gaussian
