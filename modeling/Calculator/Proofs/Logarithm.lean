import Calculator.Proofs.Power

/-! Which logarithms of positive rationals are exact: those of the powers of the base, where the
exponent is the answer. For bases that two divides exactly once no other rational has a rational
logarithm, however near it may be to a power. Zero has no logarithm. This holds with every algebra
system that extracts exponents. -/

namespace Calculator.Number

theorem exists_integerText_zero (b : Radix) : ∃ t, integerText b 0 = .ok t := by
  unfold integerText
  generalize 4300 = k
  have short : ¬ Nat.pow 10 k ≤ (0 : ℤ).natAbs := (Nat.pow_pos (by decide)).not_ge
  rw [if_neg short]
  split_ifs <;> exact ⟨_, rfl⟩

theorem exists_text_of_zero {x : Number} (value : x.value = .zero) : ∃ t, x.text = .ok t := by
  have rounded (d : ℕ) (magnitude : Bool) :
      Component.roundedText d magnitude (.rational 0) = .ok "0" := by
    simp [Component.roundedText, Rounded.ratText]
  have part : ∃ t, partText x false (.rational 0) = .ok t := by
    unfold partText
    cases x.style with
    | digits n =>
      refine ⟨"0", ?_⟩
      cases digits : Style.count? n with
      | some d => simpa [Component.styledText, digits] using rounded d false
      | none => simp [Component.styledText, digits, Component.isZero]
    | _ =>
      cases x.approx with
      | true => exact ⟨_, congrArg (· >>= _) (rounded 10 false)⟩
      | false => exact exists_integerText_zero x.base
  obtain ⟨t, shown⟩ := part
  refine ⟨t, ?_⟩
  rw [text, value]
  exact shown

theorem applyFunctionIn_eq_error {A : AlgebraSystem} {x : Number} {t name : String}
    {f : NamedFunction} (text : x.text = .ok t) (named : NamedFunction.ofName? name = some f)
    (pole : f.valueIn? A x.value = none) :
    x.applyFunctionIn A name = .error (.undefinedAt f.name t) := by
  rw [applyFunctionIn, named]
  simp only [applyNamedIn, render, text, pole]
  rfl

theorem padicValRat_two_ten : padicValRat 2 (10 : ℕ) = 1 := by
  rw [padicValRat.of_nat, show 10 = 2 * 5 from rfl, padicValNat.mul (by omega) (by omega),
    padicValNat.self (by omega), padicValNat.eq_zero_of_not_dvd (by omega)]
  rfl

/-- The logarithms to the bases two and ten are exact just at the powers of the base, where they
are the exponents. All positive rationals that can be written out have a logarithm, and zero has
none. -/
theorem logarithm_exact_iff_power {A : AlgebraSystem} (exponents : A.ExtractsExponents) :
    ∀ (b : ℕ) (name : String), (b, name) = (2, "log2") ∨ (b, name) = (10, "log10") →
      (∀ (x : Number) (r : ℚ) (t : String), x.approx = false → x.value = .ofRat r →
        x.text = .ok t → 0 < r →
        ∃ z, x.applyFunctionIn A name = .ok z ∧
          (z.approx = false ↔ ∃ k : ℤ, r = (b : ℚ) ^ k) ∧
          ∀ k : ℤ, r = (b : ℚ) ^ k → z.value = .ofInt k) ∧
      ∀ x : Number, x.value = .ofRat 0 → ∃ f, x.applyFunctionIn A name = .error f ∧
        f.family = .number := by
  intro b name which
  obtain ⟨f, base, once, named, asked⟩ : ∃ f, 2 ≤ b ∧ padicValRat 2 b = 1 ∧
      NamedFunction.ofName? name = some f ∧ f.valueIn? A = A.logarithm? b := by
    obtain two | ten := which
    · cases two
      exact ⟨.log2, le_rfl, padicValRat.self (by omega), by decide, rfl⟩
    · cases ten
      exact ⟨.log10, by omega, padicValRat_two_ten, by decide, rfl⟩
  constructor
  · intro x r t exact real text positive
    have logarithm := exponents.logarithm base positive
    obtain ⟨v, answer⟩ := logarithm.exists_eq
    have found (k : ℤ) (power : r = (b : ℚ) ^ k) : v = .ofInt k := by
      have extracted := exponents.logarithm_mul_zpow (s := 0) k base one_pos
        (exponents.logarithm_one base)
      rw [one_mul, ← power, answer, zero_add] at extracted
      exact Option.some.inj extracted
    have result : x.applyFunctionIn A name = .ok (x.derive false v) :=
      applyFunctionIn_eq_ok text real named (by rw [asked, answer])
    refine ⟨_, result, ?_, found⟩
    rw [approx_derive_eq_false_iff exact rfl]
    constructor
    · rintro ⟨g, rfl⟩
      have value := congrArg Complex.re (logarithm.sound g answer)
      exact exists_zpow_eq_of_logb positive base once value
    · rintro ⟨k, power⟩
      exact ⟨.ofInt k, found k power⟩
  · intro x zero
    obtain ⟨t, text⟩ := exists_text_of_zero zero
    have pole : f.valueIn? A x.value = none := by
      rw [asked, zero]
      exact exponents.logarithm_zero base
    exact ⟨_, applyFunctionIn_eq_error text named pole, rfl⟩

theorem logarithm_exact_iff_power_eighth :
    (∃ z, (ofRat (1 / 8)).applyFunction "log2" = .ok z ∧ z.approx = false ∧
      z.value = .ofInt (-3)) ∧
    (∃ z, (ofInt 20).applyFunction "log10" = .ok z ∧ z.approx = true) ∧
    ∃ f, (ofInt 0).applyFunction "log10" = .error f ∧ f.family = .number := by
  have exponents := AlgebraSystem.standard_extractsExponents
  obtain ⟨two, -⟩ := logarithm_exact_iff_power exponents 2 "log2" (.inl rfl)
  obtain ⟨ten, zero⟩ := logarithm_exact_iff_power exponents 10 "log10" (.inr rfl)
  refine ⟨?_, ?_, zero (ofInt 0) rfl⟩
  · obtain ⟨z, applied, exact, value⟩ := two (ofRat (1 / 8)) (1 / 8) "0.125" rfl rfl
      (by decide +kernel) (by norm_num)
    exact ⟨z, applied, exact.2 ⟨-3, by norm_num⟩, value (-3) (by norm_num)⟩
  · obtain ⟨z, applied, exact, -⟩ := ten (ofInt 20) 20 "20" rfl (by decide +kernel)
      (by decide +kernel) (by norm_num)
    refine ⟨z, applied, by_contra fun unmarked => ?_⟩
    obtain ⟨k, power⟩ := exact.1 (by simpa using unmarked)
    have counted := Closed.exponentIn_zpow (b := 10) (by omega) k
    have one : Closed.exponentIn 10 20 = 1 := by decide +kernel
    rw [← power, one] at counted
    rw [← counted] at power
    norm_num at power

end Calculator.Number
