import Calculator.Proofs.StandardAlgebra

/-! What a radical denotes. The factors that are found of a number multiply to it, whatever
divisors were tried, so the powers of the factors of a rational make up a power of the rational.
Taking out whole powers and joining the powers of the same factor keep the value. A power of a
positive rational is thus the rational, or the multiple of a radical, that is answered. -/

namespace Calculator

theorem Closed.pow_multiplicity_dvd (b n : ℕ) : b ^ multiplicity b n ∣ n := by
  induction n using multiplicity.induct b with
  | case1 n divides ih =>
    rw [multiplicity, if_pos divides, pow_succ']
    exact Nat.mul_dvd_of_dvd_div (Nat.dvd_of_mod_eq_zero divides.2.2) ih
  | case2 n done =>
    rw [multiplicity, if_neg done]
    exact one_dvd n

namespace Radical

noncomputable def value (r : List (ℕ × ℚ)) : ℝ := (r.map fun x => (x.1 : ℝ) ^ (x.2 : ℝ)).prod

def IsProper (r : List (ℕ × ℚ)) : Prop := ∀ x ∈ r, 0 < x.1

@[simp] theorem value_nil : value [] = 1 := rfl

@[simp] theorem value_cons (x : ℕ × ℚ) (r : List (ℕ × ℚ)) :
    value (x :: r) = (x.1 : ℝ) ^ (x.2 : ℝ) * value r := List.prod_cons

theorem value_append (r s : List (ℕ × ℚ)) : value (r ++ s) = value r * value s := by
  rw [value, List.map_append, List.prod_append]
  rfl

theorem value_eq_of_perm {r s : List (ℕ × ℚ)} (h : r.Perm s) : value r = value s :=
  (h.map _).prod_eq

theorem value_nonneg (r : List (ℕ × ℚ)) : 0 ≤ value r := by
  refine List.prod_nonneg fun y member => ?_
  obtain ⟨x, -, rfl⟩ := List.mem_map.1 member
  exact Real.rpow_nonneg (Nat.cast_nonneg x.1) _

theorem value_scale (k : ℚ) (r : List (ℕ × ℚ)) : value (scale k r) = value r ^ (k : ℝ) := by
  induction r with
  | nil => exact (Real.one_rpow _).symm
  | cons x r ih =>
    have base : (0 : ℝ) ≤ x.1 := Nat.cast_nonneg x.1
    have head : scale k (x :: r) = (x.1, k * x.2) :: scale k r := rfl
    rw [head, value_cons, value_cons, ih,
      Real.mul_rpow (Real.rpow_nonneg base _) (value_nonneg r), ← Real.rpow_mul base,
      Rat.cast_mul, mul_comm (k : ℝ)]

theorem IsProper.merge {r s : Radical} (left : IsProper r) (right : IsProper s) :
    IsProper (Radical.merge r s) := by
  induction r, s using Radical.merge.induct with
  | case1 s => rwa [Radical.merge]
  | case2 r nonempty =>
    rw [Radical.merge]
    · exact left
    · exact nonempty
  | case3 p e r q f s less ih =>
    obtain ⟨head, tail⟩ := List.forall_mem_cons.1 left
    rw [Radical.merge, if_pos less]
    exact List.forall_mem_cons.2 ⟨head, ih tail right⟩
  | case4 p e r q f s less greater ih =>
    obtain ⟨head, tail⟩ := List.forall_mem_cons.1 right
    rw [Radical.merge, if_neg less, if_pos greater]
    exact List.forall_mem_cons.2 ⟨head, ih left tail⟩
  | case5 p e r q f s less greater ih =>
    obtain ⟨head, tail⟩ := List.forall_mem_cons.1 left
    rw [Radical.merge, if_neg less, if_neg greater]
    exact List.forall_mem_cons.2 ⟨head, ih tail (List.forall_mem_cons.1 right).2⟩

theorem value_merge {r s : Radical} (proper : IsProper r) :
    value (merge r s) = value r * value s := by
  induction r, s using merge.induct with
  | case1 s => rw [merge, value_nil, one_mul]
  | case2 r nonempty =>
    rw [merge, value_nil, mul_one]
    exact nonempty
  | case3 p e r q f s less ih =>
    obtain ⟨-, tail⟩ := List.forall_mem_cons.1 proper
    rw [merge, if_pos less, value_cons, ih tail, value_cons (p, e) r, mul_assoc]
  | case4 p e r q f s less greater ih =>
    rw [merge, if_neg less, if_pos greater, value_cons, ih proper, value_cons (q, f) s,
      mul_left_comm]
  | case5 p e r q f s less greater ih =>
    obtain ⟨head, tail⟩ := List.forall_mem_cons.1 proper
    have positive : (0 : ℝ) < p := Nat.cast_pos.2 head
    obtain rfl : p = q := by omega
    rw [merge, if_neg less, if_neg greater, value_cons, ih tail, value_cons, value_cons,
      Rat.cast_add, Real.rpow_add positive, mul_mul_mul_comm]

theorem fract_eq_zero_iff (e : ℚ) : e - e.floor = 0 ↔ e.den = 1 := by
  rw [sub_eq_zero]
  refine ⟨fun whole => ?_, fun whole => ?_⟩
  · rw [whole]
    exact Rat.den_intCast _
  · rw [Rat.floor, if_pos whole, Rat.coe_int_num_of_den_eq_one whole]

theorem value_collect {r : List (ℕ × ℚ)} (proper : IsProper r) :
    ((collect r).1 : ℝ) * value (collect r).2 = value r := by
  induction r with
  | nil => simp [collect]
  | cons x r ih =>
    obtain ⟨p, e⟩ := x
    obtain ⟨head, tail⟩ := List.forall_mem_cons.1 proper
    have positive : (0 : ℝ) < p := Nat.cast_pos.2 head
    have split : (p : ℝ) ^ (e : ℝ) = (p : ℝ) ^ e.floor * (p : ℝ) ^ ((e - e.floor : ℚ) : ℝ) := by
      rw [← Real.rpow_intCast, ← Real.rpow_add positive]
      push_cast
      rw [add_sub_cancel]
    rw [value_cons, split, ← ih tail, collect]
    dsimp only
    split_ifs with plain
    · have rest : (p : ℝ) ^ ((e - e.floor : ℚ) : ℝ) = 1 := by
        obtain one | whole := plain
        · rw [one, Nat.cast_one, Real.one_rpow]
        · rw [(fract_eq_zero_iff e).2 whole, Rat.cast_zero, Real.rpow_zero]
      rw [rest]
      push_cast
      ring
    · rw [value_cons]
      push_cast
      ring

theorem asPower_spec {n : ℕ} (nonzero : n ≠ 0) :
    0 < (asPower n).1 ∧ (asPower n).1 ^ (asPower n).2 = n := by
  unfold asPower
  dsimp only
  generalize degrees : List.filter _ _ = ks
  cases found : ks.findSome? fun k => (Root.nat? k n).map fun r => (r, k) with
  | none => exact ⟨Nat.pos_of_ne_zero nonzero, pow_one n⟩
  | some x =>
    obtain ⟨k, member, answer⟩ := List.exists_of_findSome?_eq_some found
    obtain ⟨r, root, rfl⟩ := Option.map_eq_some_iff.1 answer
    rw [← degrees] at member
    have degree : 2 ≤ k := by simpa using (List.mem_filter.1 member).2
    have power : r ^ k = n := (Root.nat?_eq_some_iff (by omega)).1 root
    refine ⟨Nat.pos_of_ne_zero ?_, power⟩
    rintro rfl
    exact nonzero (power.symm.trans (Nat.zero_pow (by omega)))

theorem factorsFrom_spec (fuel : ℕ) {d n : ℕ} (least : 0 < d) (nonzero : n ≠ 0) :
    (∀ x ∈ factorsFrom fuel d n, 0 < x.1) ∧
      ((factorsFrom fuel d n).map fun x => x.1 ^ x.2).prod = n := by
  induction fuel generalizing d n with
  | zero => simpa [factorsFrom] using asPower_spec nonzero
  | succ fuel ih =>
    have divides : Nat.pow d (Closed.multiplicity d n) ∣ n := Closed.pow_multiplicity_dvd d n
    rw [factorsFrom]
    dsimp only
    split_ifs with last apart
    · simpa using Nat.pos_of_ne_zero nonzero
    · exact ih (Nat.succ_pos d) nonzero
    · have rest : n / Nat.pow d (Closed.multiplicity d n) ≠ 0 :=
        (Nat.div_pos (Nat.le_of_dvd (Nat.pos_of_ne_zero nonzero) divides)
          (Nat.pow_pos least)).ne'
      obtain ⟨proper, product⟩ := ih (Nat.succ_pos d) rest
      refine ⟨List.forall_mem_cons.2 ⟨least, proper⟩, ?_⟩
      rw [List.map_cons, List.prod_cons, product]
      exact Nat.mul_div_cancel' divides

theorem value_map_mul (factors : List (ℕ × ℕ)) (q : ℚ) :
    value (factors.map fun x => (x.1, (x.2 : ℚ) * q)) =
      (((factors.map fun x => x.1 ^ x.2).prod : ℕ) : ℝ) ^ (q : ℝ) := by
  induction factors with
  | nil => simp
  | cons x factors ih =>
    have base : (0 : ℝ) ≤ x.1 := Nat.cast_nonneg x.1
    rw [List.map_cons, value_cons, ih, List.map_cons, List.prod_cons, Nat.cast_mul, Nat.cast_pow,
      Real.mul_rpow (pow_nonneg base _) (Nat.cast_nonneg _), ← Real.rpow_natCast_mul base]
    push_cast
    rfl

theorem value_powers {a : ℚ} (positive : 0 < a) (q : ℚ) :
    value (powers a q) = (a : ℝ) ^ (q : ℝ) := by
  have up := (factorsFrom_spec trials (d := 2) two_pos
    (Int.natAbs_ne_zero.2 (Rat.num_pos.2 positive).ne')).2
  have down := (factorsFrom_spec trials (d := 2) two_pos a.den_ne_zero).2
  have fraction : (a : ℝ) = a.num.natAbs / a.den := by
    have magnitude := Number.natAbs_num_div_den a
    rw [abs_of_pos positive] at magnitude
    exact (congrArg Rat.cast magnitude.symm).trans (by push_cast; rfl)
  rw [powers, value_eq_of_perm (List.mergeSort_perm _ _), value_append, value_map_mul,
    value_map_mul, factors, factors, up, down, fraction,
    Real.div_rpow (Nat.cast_nonneg _) (Nat.cast_nonneg _), Rat.cast_neg,
    Real.rpow_neg (Nat.cast_nonneg _), div_eq_mul_inv]

theorem isProper_powers {a : ℚ} (positive : 0 < a) (q : ℚ) : IsProper (powers a q) := by
  have up := (factorsFrom_spec trials (d := 2) two_pos
    (Int.natAbs_ne_zero.2 (Rat.num_pos.2 positive).ne')).1
  have down := (factorsFrom_spec trials (d := 2) two_pos a.den_ne_zero).1
  intro x member
  rw [powers, List.mem_mergeSort, List.mem_append, List.mem_map, List.mem_map] at member
  obtain ⟨y, listed, rfl⟩ | ⟨y, listed, rfl⟩ := member
  · exact up y listed
  · exact down y listed

theorem collect_spec {r : List (ℕ × ℚ)} (proper : IsProper r) :
    ∀ x ∈ (collect r).2, 1 < x.1 ∧ 0 < x.2 ∧ x.2 < 1 := by
  induction r with
  | nil => exact List.forall_mem_nil _
  | cons x r ih =>
    obtain ⟨p, e⟩ := x
    obtain ⟨head, tail⟩ := List.forall_mem_cons.1 proper
    have positive : 0 < p := head
    rw [collect]
    dsimp only
    split_ifs with plain
    · exact ih tail
    · rw [not_or] at plain
      have fraction : 0 ≤ e - e.floor := Int.fract_nonneg e
      exact List.forall_mem_cons.2 ⟨⟨by omega,
        lt_of_le_of_ne fraction (Ne.symm ((fract_eq_zero_iff e).not.2 plain.2)),
        Int.fract_lt_one e⟩, ih tail⟩

theorem IsProper.collect {r : List (ℕ × ℚ)} (proper : IsProper r) :
    IsProper (Radical.collect r).2 := fun x member =>
  one_pos.trans (collect_spec proper x member).1

end Radical

namespace Closed

/-- Powers of a positive rational have the right value, exact or not. In a radical there are no
whole powers. -/
theorem ratPower_eq_value {a : ℚ} (positive : 0 < a) (q : ℚ) :
    (∃ s : ℚ, ratPower a q = ofRat s ∧ (s : ℝ) = (a : ℝ) ^ (q : ℝ)) ∨
    ∃ (c : ℚ) (r : Radical), ratPower a q = .surd (.ofRat c) r ∧
      (c : ℝ) * Radical.value r = (a : ℝ) ^ (q : ℝ) ∧
      ∀ x ∈ r, 1 < x.1 ∧ 0 < x.2 ∧ x.2 < 1 := by
  by_cases exact : (ratPower a q).isExact = true
  · obtain ⟨s, root, power⟩ := (isExact_ratPower_iff positive).1 exact
    have known := ratPower_of_pow_eq root power
    have value := (AlgebraSystem.evaluates_ratPower positive q).sound _ (congrArg some known)
    rw [Gaussian.toComplex_ofRat, ← Complex.ofReal_ratCast] at value
    exact .inl ⟨_, known, Complex.ofReal_injective value⟩
  · have proper := Radical.isProper_powers positive q
    refine .inr ⟨(Radical.collect (Radical.powers a q)).1, (Radical.collect (Radical.powers a q)).2,
      ?_, ?_, Radical.collect_spec proper⟩
    · unfold ratPower at exact ⊢
      split_ifs at exact ⊢
      · exact absurd rfl exact
      · exact absurd rfl exact
      · split at exact
        · exact absurd rfl exact
        · rfl
    · rw [Radical.value_collect proper, Radical.value_powers positive]

end Closed
end Calculator
