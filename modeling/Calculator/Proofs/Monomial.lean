import Calculator.Closed.Arithmetic
import Calculator.Proofs.Radical

/-! What monomials denote, whatever numbers the elementary functions have for values. Products and
powers of monomials, and sums in which like monomials are collected, denote the products, powers
and sums. A number among the factors that is zero would make a difference between a power and its
reciprocal, so there must be none. Vanishing parts are another matter: a sum of closed forms is
settled after it has been put together. -/

namespace Calculator

/-- The number that a closed form stands for, where `E` tells the values of functions. -/
noncomputable def Closed.denote (E : Elementary → ℂ → ℂ) : Closed → ℂ
  | .exact z => z.toComplex
  | .surd c roots => c.toComplex * (Radical.value roots : ℝ)
  | .add a b => denote E a + denote E b
  | .mul a b => denote E a * denote E b
  | .div a b => denote E a / denote E b
  | .pow a b => denote E a ^ denote E b
  | .apply f a => E f (denote E a)
  | .realPart a => ((denote E a).re : ℂ)
  | .imagPart a => (denote E a).im * Complex.I

namespace Monomial

section
variable (E : Elementary → ℂ → ℂ)

noncomputable def power (x : Closed × ℚ) : ℂ := x.1.denote E ^ (x.2 : ℂ)

noncomputable def powers (factors : List (Closed × ℚ)) : ℂ := (factors.map (power E)).prod

noncomputable def denote (m : Monomial) : ℂ :=
  m.coefficient.toComplex * (Radical.value m.radical : ℝ) * powers E m.factors

def Nonzero (factors : List (Closed × ℚ)) : Prop := ∀ x ∈ factors, x.1.denote E ≠ 0

structure IsRegular (m : Monomial) : Prop where
  radical : Radical.IsProper m.radical
  factors : Nonzero E m.factors

end

variable {E : Elementary → ℂ → ℂ}

@[simp] theorem powers_nil : powers E [] = 1 := rfl

@[simp] theorem powers_cons (x : Closed × ℚ) (factors : List (Closed × ℚ)) :
    powers E (x :: factors) = power E x * powers E factors := List.prod_cons

theorem powers_append (r s : List (Closed × ℚ)) :
    powers E (r ++ s) = powers E r * powers E s := by
  rw [powers, List.map_append, List.prod_append]
  rfl

theorem power_zero (e : Closed) : power E (e, 0) = 1 := by
  rw [power, Rat.cast_zero, Complex.cpow_zero]

theorem zpow_floor_mul_power {z : Gaussian} (nonzero : z.toComplex ≠ 0) (q : ℚ) :
    (z.zpow q.floor).toComplex * power E (.exact z, q - q.floor) = power E (.exact z, q) := by
  rw [Gaussian.toComplex_zpow, power, power, ← Complex.cpow_intCast, Closed.denote,
    ← Complex.cpow_add _ _ nonzero]
  push_cast
  rw [add_sub_cancel]

theorem power_exact_of_pos {z : Gaussian} (real : z.im = 0) (positive : 0 < z.re) (q : ℚ) :
    power E (.exact z, q) = (Radical.value (Radical.powers z.re q) : ℝ) := by
  have base : z.toComplex = ((z.re : ℝ) : ℂ) := by
    apply Complex.ext
    · simp
    · simp [real]
  rw [Radical.value_powers positive, power, Closed.denote, base, Complex.ofReal_cpow]
  · norm_cast
  · exact_mod_cast positive.le

theorem append_spec {m : Monomial} (regular : m.IsRegular E) {e : Closed}
    (nonzero : e.denote E ≠ 0) (q : ℚ) :
    let n : Monomial := { m with factors := m.factors ++ [(e, q)] }
    n.IsRegular E ∧ n.denote E = m.denote E * power E (e, q) := by
  refine ⟨⟨regular.radical,
    List.forall_mem_append.2 ⟨regular.factors, List.forall_mem_singleton.2 nonzero⟩⟩, ?_⟩
  rw [denote, denote, powers_append, powers_cons, powers_nil, mul_one, ← mul_assoc]

theorem absorb_spec {m : Monomial} (regular : m.IsRegular E) {e : Closed}
    (nonzero : e.denote E ≠ 0) (q : ℚ) :
    (m.absorb e q).IsRegular E ∧ (m.absorb e q).denote E = m.denote E * power E (e, q) := by
  unfold absorb
  split
  · next z =>
    have whole := zpow_floor_mul_power (E := E) nonzero q
    dsimp only
    split_ifs with real integer
    · -- the factors of a positive rational join those of the radical
      have proper := regular.radical.merge (Radical.isProper_powers real.2 q)
      have value := Radical.value_collect proper
      rw [Radical.value_merge regular.radical] at value
      refine ⟨⟨proper.collect, regular.factors⟩, ?_⟩
      rw [power_exact_of_pos real.1 real.2, denote, denote, Gaussian.toComplex_mul,
        Gaussian.toComplex_ofRat, mul_right_comm _ (powers E m.factors),
        mul_assoc m.coefficient.toComplex, ← Complex.ofReal_mul, ← value]
      push_cast
      ring
    · refine ⟨⟨regular.radical, regular.factors⟩, ?_⟩
      rw [(Radical.fract_eq_zero_iff q).2 integer, power_zero, mul_one] at whole
      rw [← whole, denote, denote, Gaussian.toComplex_mul]
      ring
    · have outer : IsRegular E { m with coefficient := z.zpow q.floor * m.coefficient } :=
        ⟨regular.radical, regular.factors⟩
      obtain ⟨result, value⟩ := append_spec outer nonzero (q - q.floor)
      refine ⟨result, value.trans ?_⟩
      rw [← whole, denote, denote, Gaussian.toComplex_mul]
      ring
  · split_ifs with empty
    · rw [empty, power_zero, mul_one]
      exact ⟨regular, rfl⟩
    · exact append_spec regular nonzero q

theorem foldl_absorb_spec {factors : List (Closed × ℚ)} (nonzero : Nonzero E factors)
    {m : Monomial} (regular : m.IsRegular E) :
    let product := factors.foldl (fun m x => m.absorb x.1 x.2) m
    product.IsRegular E ∧ product.denote E = m.denote E * powers E factors := by
  induction factors generalizing m with
  | nil => exact ⟨regular, (mul_one _).symm⟩
  | cons x factors ih =>
    obtain ⟨head, tail⟩ := List.forall_mem_cons.1 nonzero
    obtain ⟨regular', value⟩ := absorb_spec regular head x.2
    obtain ⟨result, total⟩ := ih tail regular'
    refine ⟨result, ?_⟩
    rw [List.foldl_cons, total, value, powers_cons, mul_assoc]

theorem ofPowers_spec (z : Gaussian) {roots : List (ℕ × ℚ)} (proper : Radical.IsProper roots)
    {factors : List (Closed × ℚ)} (nonzero : Nonzero E factors) :
    (ofPowers z roots factors).IsRegular E ∧ (ofPowers z roots factors).denote E =
      z.toComplex * (Radical.value roots : ℝ) * powers E factors := by
  have start : IsRegular E ⟨.ofRat (Radical.collect roots).1 * z, (Radical.collect roots).2, []⟩ :=
    ⟨proper.collect, List.forall_mem_nil _⟩
  obtain ⟨regular, value⟩ := foldl_absorb_spec nonzero start
  refine ⟨regular, value.trans ?_⟩
  rw [denote, ← Radical.value_collect proper, Gaussian.toComplex_mul, Gaussian.toComplex_ofRat,
    powers_nil]
  push_cast
  ring

theorem powers_insert {e : Closed} (nonzero : e.denote E ≠ 0) (q : ℚ)
    (factors : List (Closed × ℚ)) :
    powers E (insert e q factors) = powers E factors * power E (e, q) := by
  induction factors with
  | nil => rw [insert, powers_cons, powers_nil, mul_comm]
  | cons x factors ih =>
    rw [insert]
    split_ifs with same
    · have joined : power E (x.1, x.2 + q) = power E x * power E (e, q) := by
        rw [power, power, power, same, Rat.cast_add, Complex.cpow_add _ _ nonzero]
      rw [powers_cons, joined, powers_cons]
      ring
    · rw [powers_cons, ih, powers_cons, mul_assoc]

theorem Nonzero.insert {e : Closed} (nonzero : e.denote E ≠ 0) (q : ℚ)
    {factors : List (Closed × ℚ)} (others : Nonzero E factors) :
    Nonzero E (insert e q factors) := by
  induction factors with
  | nil => exact List.forall_mem_singleton.2 nonzero
  | cons x factors ih =>
    obtain ⟨head, tail⟩ := List.forall_mem_cons.1 others
    rw [Monomial.insert]
    split_ifs
    · exact List.forall_mem_cons.2 ⟨head, tail⟩
    · exact List.forall_mem_cons.2 ⟨head, ih tail⟩

theorem foldl_insert_spec {r s : List (Closed × ℚ)} (left : Nonzero E r) (right : Nonzero E s) :
    let joined := s.foldl (fun fs x => insert x.1 x.2 fs) r
    Nonzero E joined ∧ powers E joined = powers E r * powers E s := by
  induction s generalizing r with
  | nil => exact ⟨left, (mul_one _).symm⟩
  | cons x s ih =>
    obtain ⟨head, tail⟩ := List.forall_mem_cons.1 right
    obtain ⟨nonzero, value⟩ := ih (left.insert head x.2) tail
    refine ⟨nonzero, ?_⟩
    rw [List.foldl_cons, value, powers_insert head, powers_cons, mul_assoc]

theorem mul_spec {m n : Monomial} (left : m.IsRegular E) (right : n.IsRegular E) :
    (m.mul n).IsRegular E ∧ (m.mul n).denote E = m.denote E * n.denote E := by
  obtain ⟨nonzero, factors⟩ := foldl_insert_spec left.factors right.factors
  obtain ⟨regular, value⟩ := ofPowers_spec (m.coefficient * n.coefficient)
    (left.radical.merge right.radical) nonzero
  refine ⟨regular, value.trans ?_⟩
  rw [factors, Radical.value_merge left.radical, Gaussian.toComplex_mul, denote, denote]
  push_cast
  ring

theorem zpow_spec {m : Monomial} (regular : m.IsRegular E) (n : ℤ) :
    (m.zpow n).IsRegular E ∧ (m.zpow n).denote E = m.denote E ^ n := by
  have proper : Radical.IsProper (Radical.scale n m.radical) := by
    intro x member
    obtain ⟨y, listed, rfl⟩ := List.mem_map.1 member
    exact regular.radical y listed
  have nonzero : Nonzero E (m.factors.map fun x => (x.1, x.2 * n)) := by
    intro x member
    obtain ⟨y, listed, rfl⟩ := List.mem_map.1 member
    exact regular.factors y listed
  have factors (fs : List (Closed × ℚ)) :
      powers E (fs.map fun x => (x.1, x.2 * n)) = powers E fs ^ n := by
    induction fs with
    | nil => exact (one_zpow n).symm
    | cons x fs ih =>
      rw [List.map_cons, powers_cons, ih, powers_cons, mul_zpow, power, power]
      push_cast
      rw [Complex.cpow_mul_int]
  obtain ⟨result, value⟩ := ofPowers_spec (m.coefficient.zpow n) proper nonzero
  refine ⟨result, value.trans ?_⟩
  rw [factors, Radical.value_scale, Rat.cast_intCast, Real.rpow_intCast, Gaussian.toComplex_zpow,
    denote, mul_zpow, mul_zpow, Complex.ofReal_zpow]

theorem inv_spec {m : Monomial} (regular : m.IsRegular E) :
    m.inv.IsRegular E ∧ m.inv.denote E = (m.denote E)⁻¹ := by
  obtain ⟨result, value⟩ := zpow_spec regular (-1)
  exact ⟨result, value.trans (zpow_neg_one _)⟩

end Monomial

/-- Nothing that a product or a quotient is taken apart into is zero. -/
def Closed.IsRegular (E : Elementary → ℂ → ℂ) : Closed → Prop
  | .exact _ => True
  | .surd _ roots => Radical.IsProper roots
  | .mul a b => IsRegular E a ∧ IsRegular E b
  | .div a b => IsRegular E a ∧ IsRegular E b
  | .pow a _ => a.denote E ≠ 0
  | e => e.denote E ≠ 0

namespace Monomial

variable {E : Elementary → ℂ → ℂ}

theorem single_spec {e : Closed} (nonzero : e.denote E ≠ 0) :
    IsRegular E ⟨.one, [], [(e, 1)]⟩ ∧ denote E ⟨.one, [], [(e, 1)]⟩ = e.denote E := by
  refine ⟨⟨List.forall_mem_nil _, List.forall_mem_singleton.2 nonzero⟩, ?_⟩
  simp [denote, power]

theorem ofClosed_spec {e : Closed} (regular : e.IsRegular E) :
    (ofClosed e).IsRegular E ∧ (ofClosed e).denote E = e.denote E := by
  induction e with
  | exact z =>
    refine ⟨⟨List.forall_mem_nil _, List.forall_mem_nil _⟩, ?_⟩
    simp [denote, ofClosed, Closed.denote]
  | surd c roots =>
    refine ⟨⟨regular, List.forall_mem_nil _⟩, ?_⟩
    simp [denote, ofClosed, Closed.denote]
  | mul a b iha ihb =>
    obtain ⟨left, a_value⟩ := iha regular.1
    obtain ⟨right, b_value⟩ := ihb regular.2
    obtain ⟨result, value⟩ := mul_spec left right
    exact ⟨result, by rw [ofClosed, value, a_value, b_value, Closed.denote]⟩
  | div a b iha ihb =>
    obtain ⟨left, a_value⟩ := iha regular.1
    obtain ⟨right, b_value⟩ := ihb regular.2
    obtain ⟨inverse, inverse_value⟩ := inv_spec right
    obtain ⟨result, value⟩ := mul_spec left inverse
    refine ⟨result, ?_⟩
    rw [ofClosed, value, inverse_value, a_value, b_value, Closed.denote, div_eq_mul_inv]
  | pow a b =>
    have nonzero : (Closed.pow a b).denote E ≠ 0 := Complex.cpow_ne_zero_iff.2 (.inl regular)
    cases b with
    | exact w =>
      rw [ofClosed]
      split_ifs with real
      · obtain ⟨result, value⟩ := ofPowers_spec .one (List.forall_mem_nil _)
          (List.forall_mem_singleton.2 regular : Nonzero E [(a, w.re)])
        have exponent : w.toComplex = (w.re : ℂ) := by
          apply Complex.ext
          · simp
          · simp [real]
        refine ⟨result, value.trans ?_⟩
        simp [power, Closed.denote, exponent]
      · exact single_spec nonzero
    | _ => exact single_spec nonzero
  | add a b => exact single_spec regular
  | apply f a => exact single_spec regular
  | realPart a => exact single_spec regular
  | imagPart a => exact single_spec regular

theorem denote_of_isLike {m n : Monomial} (like : m.isLike n = true) :
    n.denote E = { m with coefficient := n.coefficient }.denote E := by
  rw [isLike, Bool.and_eq_true, decide_eq_true_eq, List.isPerm_iff] at like
  rw [denote, denote, ← like.1, powers, powers, (like.2.map _).prod_eq]

theorem denote_foldl_coefficient {m : Monomial} {ms : List Monomial}
    (like : ∀ n ∈ ms, m.isLike n = true) (c : Gaussian) :
    { m with coefficient := ms.foldl (fun c (n : Monomial) => c + n.coefficient) c }.denote E =
      { m with coefficient := c }.denote E + (ms.map (denote E)).sum := by
  induction ms generalizing c with
  | nil => exact (add_zero _).symm
  | cons n ms ih =>
    obtain ⟨head, tail⟩ := List.forall_mem_cons.1 like
    rw [List.foldl_cons, ih tail, List.map_cons, List.sum_cons, denote_of_isLike head, denote,
      denote, denote, Gaussian.toComplex_add]
    ring

theorem sum_denote_collect (ms : List Monomial) :
    ((collect ms).map (denote E)).sum = (ms.map (denote E)).sum := by
  induction ms with
  | nil => rfl
  | cons m ms ih =>
    have parts : ((collect ms).map (denote E)).sum =
        (((collect ms).filter m.isLike).map (denote E)).sum +
          (((collect ms).filter (not ∘ m.isLike)).map (denote E)).sum := by
      rw [← List.sum_append, ← List.map_append]
      exact (((List.filter_append_perm m.isLike (collect ms)).map _).sum_eq).symm
    have like : ∀ n ∈ (collect ms).filter m.isLike, m.isLike n = true := fun n member =>
      (List.mem_filter.1 member).2
    have joined := denote_foldl_coefficient (E := E) like m.coefficient
    rw [List.map_cons, List.sum_cons, ← ih, parts, ← add_assoc, ← joined, collect]
    simp only [List.partition_eq_filter_filter]
    split_ifs with vanishes
    · rw [vanishes, denote, Gaussian.toComplex_zero, zero_mul, zero_mul, zero_add]
    · rw [List.map_cons, List.sum_cons]

theorem denote_extend (product : Closed) (x : Closed × ℚ) :
    (extend product x).denote E = product.denote E * power E x := by
  obtain ⟨e, q⟩ := x
  have pow : (Closed.pow e (.ofRat q)).denote E = power E (e, q) := by
    rw [Closed.denote, power, Closed.ofRat, Closed.denote, Gaussian.toComplex_ofRat]
  have one_mul (z : ℂ) : Closed.one.denote E * z = z := by
    rw [Closed.one, Closed.denote, Gaussian.toComplex_one, MulOneClass.one_mul]
  rw [extend]
  dsimp only
  split_ifs with divisor start unit unit
  · rw [divisor, Closed.denote, power]
    push_cast
    rw [Complex.cpow_neg_one, div_eq_mul_inv]
  · rw [start, unit, one_mul, power, Rat.cast_one, Complex.cpow_one]
  · rw [start, one_mul, pow]
  · rw [unit, Closed.denote, power, Rat.cast_one, Complex.cpow_one]
  · rw [Closed.denote, pow]

theorem denote_foldl_extend (factors : List (Closed × ℚ)) (product : Closed) :
    (factors.foldl extend product).denote E = product.denote E * powers E factors := by
  induction factors generalizing product with
  | nil => exact (mul_one _).symm
  | cons x factors ih => rw [List.foldl_cons, ih, denote_extend, powers_cons, mul_assoc]

theorem denote_toClosed (m : Monomial) : m.toClosed.denote E = m.denote E := by
  unfold toClosed
  dsimp only
  split_ifs with vanishes rational
  · rw [denote, vanishes, Closed.zero, Closed.denote, Gaussian.toComplex_zero, zero_mul, zero_mul]
  · rw [denote_foldl_extend, denote, rational, Closed.denote, Radical.value_nil,
      Complex.ofReal_one, mul_one]
  · rw [denote_foldl_extend, denote, Closed.denote]

theorem denote_total (ms : List Monomial) :
    (total ms).denote E = (ms.map (denote E)).sum := by
  have sums (ns : List Monomial) (start : Closed) :
      (ns.foldl (fun sum n => .add sum n.toClosed) start).denote E =
        start.denote E + (ns.map (denote E)).sum := by
    induction ns generalizing start with
    | nil => exact (add_zero _).symm
    | cons n ns ih =>
      rw [List.foldl_cons, ih, Closed.denote, denote_toClosed, List.map_cons, List.sum_cons,
        add_assoc]
  rw [← sum_denote_collect, total]
  cases collect ms with
  | nil => exact Gaussian.toComplex_zero
  | cons m rest => rw [sums, denote_toClosed, List.map_cons, List.sum_cons]


end Monomial

namespace Closed
open Calculator.Monomial

/-- Every term of a sum is taken apart as it should be. -/
def HasRegularTerms (E : Elementary → ℂ → ℂ) : Closed → Prop
  | .add a b => HasRegularTerms E a ∧ HasRegularTerms E b
  | e => e.IsRegular E

variable {E : Elementary → ℂ → ℂ}

theorem sum_denote_terms {e : Closed} (regular : e.HasRegularTerms E) :
    ((terms e).map (Monomial.denote E)).sum = e.denote E := by
  induction e with
  | add a b iha ihb =>
    rw [terms, List.map_append, List.sum_append, iha regular.1, ihb regular.2, denote]
  | _ => exact (List.sum_singleton).trans (ofClosed_spec regular).2

theorem normal_eq (ms : List Monomial) : normal ms = total ms ∨ normal ms = settle (total ms) := by
  unfold normal
  split
  · next found => exact .inl found.symm
  · next found => exact .inl found.symm
  · exact .inr rfl

/-- A sum is put together to a closed form that denotes it, and settled if need be. -/
theorem sum_denotes {a b : Closed} (left : a.HasRegularTerms E) (right : b.HasRegularTerms E) :
    ∃ e, e.denote E = a.denote E + b.denote E ∧ (sum a b = e ∨ sum a b = settle e) := by
  have collected : (total (terms a ++ terms b)).denote E = a.denote E + b.denote E := by
    rw [denote_total, List.map_append, List.sum_append, sum_denote_terms left,
      sum_denote_terms right]
  have zero : zero.denote E = 0 := Gaussian.toComplex_zero
  unfold sum
  split
  · next z w => exact ⟨.exact (z + w), Gaussian.toComplex_add z w, .inl rfl⟩
  · split_ifs with empty empty
    · exact ⟨b, by rw [empty, zero, zero_add], .inl rfl⟩
    · exact ⟨a, by rw [empty, zero, add_zero], .inl rfl⟩
    · exact ⟨_, collected, normal_eq _⟩

example : sum (ratPower 8 (1 / 2)) (ratPower 2 (1 / 2)) =
    scale (.ofInt 3) (ratPower 2 (1 / 2)) := by cbv

/-- The same of a product by a Gaussian rational. -/
theorem scale_denotes (c : Gaussian) {e : Closed} (regular : e.HasRegularTerms E) :
    ∃ v, v.denote E = c.toComplex * e.denote E ∧ (scale c e = v ∨ scale c e = settle v) := by
  have scaled (ms : List Monomial) : ((ms.map (Monomial.scale c)).map (Monomial.denote E)).sum =
      c.toComplex * (ms.map (Monomial.denote E)).sum := by
    induction ms with
    | nil => exact (mul_zero _).symm
    | cons m ms ih =>
      rw [List.map_cons, List.map_cons, List.sum_cons, ih, List.map_cons, List.sum_cons, mul_add,
        Monomial.scale, Monomial.denote, Monomial.denote, Gaussian.toComplex_mul, mul_assoc,
        mul_assoc, mul_assoc]
  unfold scale
  split_ifs with absorbed kept
  · refine ⟨zero, ?_, .inl rfl⟩
    rw [absorbed, Gaussian.toComplex_zero, zero_mul]
    exact Gaussian.toComplex_zero
  · exact ⟨e, by rw [kept, Gaussian.toComplex_one, one_mul], .inl rfl⟩
  · split
    · next z => exact ⟨.exact (c * z), Gaussian.toComplex_mul c z, .inl rfl⟩
    · next d roots =>
      refine ⟨_, ?_, .inl rfl⟩
      rw [denote, denote, Gaussian.toComplex_mul, mul_assoc]
    · exact ⟨_, by rw [denote_total, scaled, sum_denote_terms regular], normal_eq _⟩

end Closed
end Calculator
