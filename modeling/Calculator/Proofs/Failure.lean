import Calculator.Proofs.Tree

/-! The failures of single steps: operations on numbers fail as numbers do, a function may in
addition want a text that does not exist, and everything else that goes wrong between two
values is a matter of their kinds. -/

namespace Calculator

theorem Failure.isDomain_of_family {f : Failure} (h : f.family = .number ∨ f.family = .kind) :
    f.isDomain = true := by
  rcases h with h | h <;> simp [isDomain, h]

theorem Failure.isDomain_and_ne_name {f : Failure}
    (h : f.family = .number ∨ f.family = .kind ∨ f.family = .evaluation) :
    f.isDomain = true ∧ f.family ≠ .name := by
  rcases h with h | h | h <;> simp [isDomain, h]

namespace Number

theorem render_eq_error_iff {x : Number} {f : Failure} :
    x.render = .error f ↔ ∃ u, x.text = .error u ∧ f = .unprintable u := by
  unfold render
  cases x.text <;> simp [eq_comm]

theorem render_eq_error {x : Number} {u : Unprintable} (h : x.text = .error u) :
    x.render = .error (.unprintable u) := render_eq_error_iff.2 ⟨u, h, rfl⟩

theorem toInt_eq_ok_iff {x : Number} {n : Int} : x.toInt = .ok n ↔ x.value.toInt? = some n := by
  unfold toInt
  cases x.value.toInt? <;> simp [bind_eq_ok_iff]

theorem toInt_eq_error {x : Number} {f : Failure} (h : x.toInt = .error f) :
    x.value.toInt? = none ∧ (f.family = .number ∨ ∃ u, x.text = .error u ∧ f = .unprintable u) := by
  unfold toInt at h
  cases int : x.value.toInt? with
  | none =>
    simp only [int, bind_eq_error_iff, render_eq_error_iff] at h
    rcases h with h | ⟨text, -, h⟩
    · exact ⟨rfl, .inr h⟩
    · cases h
      exact ⟨rfl, .inl rfl⟩
  | some n => simp [int] at h

theorem integerText_decimal_eq_error_iff {n : Int} {u : Unprintable} :
    integerText .decimal n = .error u ↔ Nat.pow 10 4300 ≤ n.natAbs ∧ u = .tooManyDigits := by
  have ten : Radix.decimal.value = 10 := rfl
  rw [integerText, if_pos ten]
  generalize Nat.pow 10 4300 = limit
  by_cases long : limit ≤ n.natAbs <;> simp [long, eq_comm]

theorem family_of_factorialArgument_eq_error {x : Number} {f : Failure}
    (h : x.factorialArgument = .error f) : f.family = .number := by
  unfold factorialArgument at h
  split at h
  · cases h
  · cases h
    rfl

end Number

theorem Arithmetic.family_of_run_eq_error {op : Arithmetic} {x y : Number} {f : Failure}
    (h : op.run x y = .error f) : f.family = .number := by
  cases op with
  | div =>
    simp only [run, Number.div] at h
    split at h <;> cases h
    rfl
  | pow =>
    simp only [run, Number.pow, Number.powIn] at h
    split at h
    · cases h
      rfl
    · split at h <;> cases h
      rfl
  | _ => cases h

theorem Unary.family_of_run_eq_error {op : Unary} {x : Number} {f : Failure}
    (h : (op.run x).result = .error f) : f.family = .number := by
  cases op with
  | reciprocal => exact Arithmetic.family_of_run_eq_error (show Arithmetic.div.run _ x = _ from h)
  | factorial =>
    rw [run, Number.result_factorial, bind_eq_error_iff] at h
    rcases h with h | ⟨n, -, h⟩
    · exact Number.family_of_factorialArgument_eq_error h
    · cases h
  | _ => cases h

namespace Implementation

/-- Whether a function fails at a number because it wants a text that does not exist: a named
function writes out its argument first, and a base what it cannot take as a radix. -/
def Chokes (i : Implementation) (x : Number) (u : Unprintable) : Prop :=
  match i with
  | named _ => x.text = .error u
  | approximately => False
  | base =>
    match x.value.toInt? with
    | none => x.text = .error u
    | some n => Number.integerText .decimal n = .error u

theorem run_of_chokes {i : Implementation} {x : Number} {u : Unprintable} (h : i.Chokes x u) :
    i.run x = .error (.unprintable u) := by
  cases i with
  | named f =>
    simp [run, Number.applyNamed, Number.applyNamedIn, Number.render_eq_error h]
  | approximately => exact h.elim
  | base =>
    cases int : x.value.toInt? with
    | none =>
      simp only [Chokes, int] at h
      simp [run, Number.toInt, int, Number.render_eq_error h]
    | some n =>
      simp only [Chokes, int] at h
      -- an integer with too many digits is out of the range of bases as well
      have far : 36 < n.natAbs :=
        lt_of_lt_of_le (by decide +kernel) (Number.integerText_decimal_eq_error_iff.1 h).1
      have outside : Radix.ofInt? n = none := by
        rw [Radix.ofInt?, dif_neg]
        omega
      simp [run, Number.toInt, int, Radix.ofInt, outside, h]

/-- A function that fails fails as numbers do, or for want of a text. -/
theorem chokes_of_run_eq_error {i : Implementation} {x : Number} {f : Failure}
    (h : i.run x = .error f) : f.family = .number ∨ ∃ u, f = .unprintable u ∧ i.Chokes x u := by
  cases i with
  | named g =>
    simp only [run, Number.applyNamed, Number.applyNamedIn, bind_eq_error_iff] at h
    rcases h with (h | ⟨argument, -, h⟩) | ⟨y, -, h⟩
    · obtain ⟨u, refused, rfl⟩ := Number.render_eq_error_iff.1 h
      exact .inr ⟨u, rfl, refused⟩
    · left
      split at h <;> cases h
      rfl
    · cases h
  | approximately => cases h
  | base =>
    simp only [run, bind_eq_error_iff, Number.toInt_eq_ok_iff] at h
    rcases h with h | ⟨n, int, h | ⟨b, -, h⟩⟩
    · obtain ⟨int, h | ⟨u, refused, rfl⟩⟩ := Number.toInt_eq_error h
      · exact .inl h
      · exact .inr ⟨u, rfl, by simpa only [Chokes, int] using refused⟩
    · simp only [Radix.ofInt] at h
      split at h
      · cases h
      · split at h
        · cases h
          exact .inl rfl
        · next u refused =>
          cases h
          exact .inr ⟨u, rfl, by simpa only [Chokes, int] using refused⟩
    · cases h

end Implementation

namespace Juxtaposition

/-- Whether two values side by side fail because a text does not exist: a number that is called
would be quoted, and a function may want a text of its argument. -/
def Chokes (r : Registry) (form : Juxtaposition) (v w : Value) (u : Unprintable) : Prop :=
  match v, w with
  | .number x, _ => form = .call ∧ x.text = .error u
  | .function name, .number y =>
    form ≠ .multiply ∧ ∃ d, r.find? name = some d ∧ d.implementation.Chokes y u
  | _, _ => False

theorem result_of_chokes {r : Registry} {form : Juxtaposition} {v w : Value} {u : Unprintable}
    (h : form.Chokes r v w u) :
    (v.apply r form.mayMultiply form.mustMultiply w).result = .error (.unprintable u) := by
  cases v with
  | number x =>
    obtain ⟨rfl, h⟩ := h
    simp [Value.apply, mayMultiply, Number.render_eq_error h]
  | function name =>
    cases w with
    | number y =>
      obtain ⟨called, d, found, h⟩ := h
      rw [apply_function called, Evaluation.result_answer, Value.call_number found,
        Implementation.run_of_chokes h]
    | _ => exact h.elim
  | _ => exact h.elim

theorem chokes_of_call_eq_error {r : Registry} {name : String} {w : Value} {f : Failure}
    (h : Value.call r name w = .error f) :
    f.isDomain = true ∧ f.family ≠ .name ∨ ∃ u, f = .unprintable u ∧
      ∃ y, w = .number y ∧ ∃ d, r.find? name = some d ∧ d.implementation.Chokes y u := by
  cases found : r.find? name with
  | none =>
    simp only [Value.call, found, Except.error.injEq] at h
    subst h
    exact .inl (Failure.isDomain_and_ne_name (.inr (.inr rfl)))
  | some d =>
    cases w with
    | function a =>
      simp only [Value.call, found, Except.error.injEq] at h
      subst h
      exact .inl (Failure.isDomain_and_ne_name (.inr (.inl rfl)))
    | number y =>
      simp only [Value.call, found, Value.expectNumber, ok_bind] at h
      obtain family | ⟨u, rfl, chokes⟩ := Implementation.chokes_of_run_eq_error h
      · exact .inl (Failure.isDomain_and_ne_name (.inl family))
      · exact .inr ⟨u, rfl, y, rfl, d, rfl, chokes⟩
    | _ =>
      simp only [Value.call, found, Value.expectNumber, Value.render, ok_bind, throw_eq_error,
        error_bind, Except.error.injEq] at h
      subst h
      exact .inl (Failure.isDomain_and_ne_name (.inr (.inl rfl)))

theorem chokes_of_result_eq_error {r : Registry} {form : Juxtaposition} {v w : Value}
    {f : Failure} (h : (v.apply r form.mayMultiply form.mustMultiply w).result = .error f) :
    f.isDomain = true ∧ f.family ≠ .name ∨ ∃ u, f = .unprintable u ∧ form.Chokes r v w u := by
  cases v with
  | number x =>
    by_cases called : form = .call
    · subst called
      simp only [Value.apply, mayMultiply, Bool.false_eq_true, if_false, Evaluation.result_bind,
        Evaluation.result_answer, Evaluation.result_throw, bind_eq_error_iff,
        Number.render_eq_error_iff] at h
      rcases h with ⟨u, refused, rfl⟩ | ⟨text, -, h⟩
      · exact .inr ⟨u, rfl, rfl, refused⟩
      · cases h
        exact .inl (Failure.isDomain_and_ne_name (.inr (.inl rfl)))
    · have may : form.mayMultiply = true := by cases form <;> simp [mayMultiply] at called ⊢
      simp only [Value.apply, may, if_true, Evaluation.result_bind, Evaluation.result_answer,
        Number.result_polled, bind_eq_error_iff] at h
      rcases h with h | ⟨y, -, h | ⟨z, -, h⟩⟩
      · have family := (Value.family_of_expectNumber_eq_error h).1
        exact .inl (Failure.isDomain_and_ne_name (.inr (.inl family)))
      · cases h
      · cases h
  | function name =>
    by_cases multiplied : form = .multiply
    · subst multiplied
      cases h
      exact .inl (Failure.isDomain_and_ne_name (.inr (.inl rfl)))
    · rw [apply_function multiplied, Evaluation.result_answer] at h
      obtain domain | ⟨u, rfl, y, rfl, chokes⟩ := chokes_of_call_eq_error h
      · exact .inl domain
      · exact .inr ⟨u, rfl, multiplied, chokes⟩
  | _ =>
    simp only [Value.apply, Value.render, Evaluation.result_bind, Evaluation.result_answer,
      ok_bind, Evaluation.result_throw, Except.error.injEq] at h
    subst h
    cases form <;> exact .inl (Failure.isDomain_and_ne_name (.inr (.inl rfl)))

end Juxtaposition
end Calculator
