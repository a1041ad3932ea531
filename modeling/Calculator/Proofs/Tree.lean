import Calculator.Evaluation.Tree
import Calculator.Proofs.Evaluation

/-! What the uninterrupted evaluation of each kind of node comes to, in terms of what its
operands come to. The equations keep the order in which operands are evaluated and checked,
so that the first failure is the one that counts. -/

namespace Calculator

variable {α β : Type}

theorem bind_eq_ok_iff {x : Except Failure α} {f : α → Except Failure β} {b : β} :
    (x >>= f) = .ok b ↔ ∃ a, x = .ok a ∧ f a = .ok b := by
  cases x <;> simp [bind, Except.bind]

theorem bind_eq_error_iff {x : Except Failure α} {f : α → Except Failure β} {g : Failure} :
    (x >>= f) = .error g ↔ x = .error g ∨ ∃ a, x = .ok a ∧ f a = .error g := by
  cases x <;> simp [bind, Except.bind]

@[simp] theorem ok_bind (a : α) (f : α → Except Failure β) : (Except.ok a >>= f) = f a := rfl

@[simp] theorem error_bind (g : Failure) (f : α → Except Failure β) :
    (Except.error g >>= f) = .error g := rfl

@[simp] theorem pure_eq_ok (a : α) : (pure a : Except Failure α) = .ok a := rfl

@[simp] theorem throw_eq_error (g : Failure) : (throw g : Except Failure α) = .error g := rfl

namespace Value

theorem expectNumber_eq_ok_iff {v : Value} {x : Number} :
    v.expectNumber = .ok x ↔ v = .number x := by
  cases v <;> simp [expectNumber, render]

theorem family_of_expectNumber_eq_error {v : Value} {f : Failure}
    (h : v.expectNumber = .error f) : f.family = .kind ∧ v.kind ≠ .number := by
  cases v <;> simp [expectNumber, render] at h <;> subst h <;> simp [Failure.family, kind]

theorem kind_eq_number_iff {v : Value} : v.kind = .number ↔ ∃ x, v = .number x := by
  cases v <;> simp [kind]

theorem kind_eq_function_iff {v : Value} : v.kind = .function ↔ ∃ name, v = .function name := by
  cases v <;> simp [kind]

theorem conversionSource_eq_ok_iff {v : Value} {x : Number} :
    v.conversionSource = .ok x ↔ v = .number x := by
  cases v <;> simp [conversionSource, expectNumber, render]

theorem family_of_conversionSource_eq_error {v : Value} {f : Failure}
    (h : v.conversionSource = .error f) : f.family = .kind ∧ v.kind ≠ .number := by
  cases v with
  | function name =>
    simp only [conversionSource, Except.error.injEq] at h
    subst h
    simp [Failure.family, kind]
  | _ => exact family_of_expectNumber_eq_error h

def present (x : Number) : Value → Number
  | number _ => x
  | function _ => x
  | format s => x.withStyle s
  | precisionMarker => x.withStyle (.digits markerDigits)
  | base b => x.withBase b

@[simp] theorem present_value (x : Number) (target : Value) :
    (present x target).value = x.value := by cases target <;> rfl

@[simp] theorem present_approx (x : Number) (target : Value) :
    (present x target).approx = x.approx := by cases target <;> rfl

theorem result_convert (x : Number) {target : Value} (h : target.kind ≠ .function) :
    (convert x target).result = .ok (.number (present x target)) := by
  cases target with
  | function name => exact absurd rfl h
  | _ => rfl

theorem call_number {r : Registry} {name : String} {d : Definition} (found : r.find? name = some d)
    (y : Number) : call r name (number y) = d.implementation.run y := by
  rw [call, found]
  rfl

theorem call_eq_ok_iff {r : Registry} {name : String} {w z : Value} :
    call r name w = .ok z ↔
      ∃ d y, r.find? name = some d ∧ w = .number y ∧ d.implementation.run y = .ok z := by
  unfold call
  cases r.find? name with
  | none => simp
  | some d => cases w <;> simp [expectNumber, render]

end Value

theorem Juxtaposition.apply_function {r : Registry} {form : Juxtaposition} (may : form ≠ .multiply)
    (name : String) (w : Value) :
    (Value.function name).apply r form.mayMultiply form.mustMultiply w =
      Evaluation.answer (Value.call r name w) := by
  cases form with
  | multiply => exact absurd rfl may
  | _ => rfl

theorem Juxtaposition.result_eq_ok_iff {r : Registry} {form : Juxtaposition} {v w z : Value} :
    (v.apply r form.mayMultiply form.mustMultiply w).result = .ok z ↔
      (form ≠ .call ∧ ∃ x y, v = .number x ∧ w = .number y ∧ .number (x.mul y) = z) ∨
      (form ≠ .multiply ∧ ∃ name d y, v = .function name ∧ r.find? name = some d ∧
        w = .number y ∧ d.implementation.run y = .ok z) := by
  cases v with
  | number x =>
    cases form <;>
      simp [Value.apply, mayMultiply, bind_eq_ok_iff, Value.expectNumber_eq_ok_iff]
  | function name =>
    cases form <;> simp [Value.apply, mustMultiply, Value.call_eq_ok_iff]
  | _ => simp [Value.apply, Value.render]

namespace Tree

variable (env : Environment)

/-- The number that a tree evaluates to, refused if it is no number. -/
def operand (t : Tree) : Except Failure Number := do (← (t.evaluate env).result).expectNumber

variable {env}

theorem operand_eq_ok_iff {t : Tree} {x : Number} :
    t.operand env = .ok x ↔ (t.evaluate env).result = .ok (.number x) := by
  simp [operand, bind_eq_ok_iff, Value.expectNumber_eq_ok_iff]

theorem operand_eq_error_iff {t : Tree} {f : Failure} :
    t.operand env = .error f ↔ (t.evaluate env).result = .error f ∨
      ∃ v, (t.evaluate env).result = .ok v ∧ v.expectNumber = .error f := bind_eq_error_iff

variable (env)

theorem result_literal (t : String) :
    ((literal t).evaluate env).result = do return .number (← Number.ofLiteral t) := by
  simp [evaluate, evaluateWith]

theorem result_identifier (n : String) :
    ((identifier n).evaluate env).result = (env.resolve n).result := by
  simp [evaluate, evaluateWith]

theorem result_unary (op : Unary) (t : Tree) :
    ((unary op t).evaluate env).result = do
      let x ← t.operand env
      return .number (← (op.run x).result) := by
  simp [operand, evaluate, evaluateWith]

theorem result_arithmetic (op : Arithmetic) (l r : Tree) :
    ((binary (.arithmetic op) l r).evaluate env).result = do
      let x ← l.operand env
      let y ← r.operand env
      return .number (← op.run x y) := by
  simp [operand, evaluate, evaluateWith]

theorem result_juxtaposition (form : Juxtaposition) (l r : Tree) :
    ((binary (.juxtaposition form) l r).evaluate env).result = (do
      let v ← (l.evaluate env).result
      let w ← (r.evaluate env).result
      (v.apply env.registry form.mayMultiply form.mustMultiply w).result) := by
  simp [evaluate, evaluateWith]

theorem result_conversion (l r : Tree) :
    ((binary .conversion l r).evaluate env).result = (do
      let target ← (r.evaluate env).result
      if target.kind = .function then throw .convertedToFunction
      let v ← (l.evaluate env).result
      let x ← v.conversionSource
      return .number (Value.present x target)) := by
  simp only [evaluate, evaluateWith, Evaluation.result_bind, Evaluation.result_poll, ok_bind]
  congr 1
  funext target
  by_cases h : target.kind = .function
  · simp [h]
  · simp [h, Value.result_convert]

variable {env}

theorem result_literal_eq_ok_iff {t : String} {v : Value} :
    ((literal t).evaluate env).result = .ok v ↔
      ∃ q, Literal.value? t = some q ∧ .number (Number.ofRat q) = v := by
  rw [result_literal, Number.ofLiteral]
  cases Literal.value? t <;> simp

theorem result_unary_eq_ok_iff {op : Unary} {t : Tree} {v : Value} :
    ((unary op t).evaluate env).result = .ok v ↔
      ∃ x y, (t.evaluate env).result = .ok (.number x) ∧ (op.run x).result = .ok y ∧
        .number y = v := by
  simp [result_unary, bind_eq_ok_iff, operand_eq_ok_iff]

theorem result_arithmetic_eq_ok_iff {op : Arithmetic} {l r : Tree} {v : Value} :
    ((binary (.arithmetic op) l r).evaluate env).result = .ok v ↔
      ∃ x y z, (l.evaluate env).result = .ok (.number x) ∧
        (r.evaluate env).result = .ok (.number y) ∧ op.run x y = .ok z ∧ .number z = v := by
  simp [result_arithmetic, bind_eq_ok_iff, operand_eq_ok_iff]

theorem result_juxtaposition_eq_ok_iff {form : Juxtaposition} {l r : Tree} {z : Value} :
    ((binary (.juxtaposition form) l r).evaluate env).result = .ok z ↔
      ∃ v w, (l.evaluate env).result = .ok v ∧ (r.evaluate env).result = .ok w ∧
        (v.apply env.registry form.mayMultiply form.mustMultiply w).result = .ok z := by
  simp [result_juxtaposition, bind_eq_ok_iff]

theorem result_conversion_eq_ok_iff {l r : Tree} {v : Value} :
    ((binary .conversion l r).evaluate env).result = .ok v ↔
      ∃ target x, (r.evaluate env).result = .ok target ∧ target.kind ≠ .function ∧
        (l.evaluate env).result = .ok (.number x) ∧ .number (Value.present x target) = v := by
  rw [result_conversion, bind_eq_ok_iff]
  refine exists_congr fun target => ?_
  by_cases h : target.kind = .function
  · simp [h]
  · simp [h, bind_eq_ok_iff, Value.conversionSource_eq_ok_iff]

theorem result_literal_eq_error_iff {t : String} {f : Failure} :
    ((literal t).evaluate env).result = .error f ↔
      Literal.value? t = none ∧ f = .invalidLiteral t := by
  rw [result_literal, Number.ofLiteral]
  cases Literal.value? t <;> simp [eq_comm]

theorem result_unary_eq_error_iff {op : Unary} {t : Tree} {f : Failure} :
    ((unary op t).evaluate env).result = .error f ↔
      t.operand env = .error f ∨
      ∃ x, (t.evaluate env).result = .ok (.number x) ∧ (op.run x).result = .error f := by
  simp [result_unary, bind_eq_error_iff, operand_eq_ok_iff]

theorem result_arithmetic_eq_error_iff {op : Arithmetic} {l r : Tree} {f : Failure} :
    ((binary (.arithmetic op) l r).evaluate env).result = .error f ↔
      l.operand env = .error f ∨
      ∃ x, (l.evaluate env).result = .ok (.number x) ∧ (r.operand env = .error f ∨
        ∃ y, (r.evaluate env).result = .ok (.number y) ∧ op.run x y = .error f) := by
  simp [result_arithmetic, bind_eq_error_iff, operand_eq_ok_iff]

theorem result_juxtaposition_eq_error_iff {form : Juxtaposition} {l r : Tree} {f : Failure} :
    ((binary (.juxtaposition form) l r).evaluate env).result = .error f ↔
      (l.evaluate env).result = .error f ∨
      ∃ v, (l.evaluate env).result = .ok v ∧ ((r.evaluate env).result = .error f ∨
        ∃ w, (r.evaluate env).result = .ok w ∧
          (v.apply env.registry form.mayMultiply form.mustMultiply w).result = .error f) := by
  simp only [result_juxtaposition, bind_eq_error_iff]

theorem result_conversion_eq_error_iff {l r : Tree} {f : Failure} :
    ((binary .conversion l r).evaluate env).result = .error f ↔
      (r.evaluate env).result = .error f ∨
      ∃ target, (r.evaluate env).result = .ok target ∧
        (target.kind = .function ∧ f = .convertedToFunction ∨
        target.kind ≠ .function ∧ ((l.evaluate env).result = .error f ∨
          ∃ v, (l.evaluate env).result = .ok v ∧ v.conversionSource = .error f)) := by
  rw [result_conversion, bind_eq_error_iff]
  refine or_congr_right (exists_congr fun target => and_congr_right fun _ => ?_)
  by_cases h : target.kind = .function
  · simp [h, eq_comm]
  · simp [h, bind_eq_error_iff]

end Tree
end Calculator
