import Calculator.Evaluation.Outcome
import Calculator.Proofs.Failure
import Calculator.Proofs.Naming

/-! Runs without an outcome. A run ends with a value, with a failure of the domain or
interrupted, but for one case: where it comes to a call that has to write out a number, and the
number has no text, the missing text ends it instead. A function writes out its argument before
it knows whether there is a failure to report, so even calls that have a value are concerned. -/

namespace Calculator

namespace Tree

/-- The nodes that an uninterrupted evaluation comes to: operands from left to right, each one
after those before it gave what they should. -/
inductive Reaches (env : Environment) : Tree → Tree → Prop
  | here (t : Tree) : Reaches env t t
  | operand {op : Unary} {t s : Tree} : Reaches env t s → Reaches env (unary op t) s
  | arithmeticLeft {op : Arithmetic} {l r s : Tree} :
    Reaches env l s → Reaches env (binary (.arithmetic op) l r) s
  | arithmeticRight {op : Arithmetic} {l r s : Tree} {x : Number} :
    (l.evaluate env).result = .ok (.number x) → Reaches env r s →
      Reaches env (binary (.arithmetic op) l r) s
  | juxtapositionLeft {form : Juxtaposition} {l r s : Tree} :
    Reaches env l s → Reaches env (binary (.juxtaposition form) l r) s
  | juxtapositionRight {form : Juxtaposition} {l r s : Tree} {v : Value} :
    (l.evaluate env).result = .ok v → Reaches env r s →
      Reaches env (binary (.juxtaposition form) l r) s
  | target {l r s : Tree} : Reaches env r s → Reaches env (binary .conversion l r) s
  | source {l r s : Tree} {v : Value} :
    (r.evaluate env).result = .ok v → v.kind ≠ .function → Reaches env l s →
      Reaches env (binary .conversion l r) s

/-- Evaluation comes to two values side by side that fail because a text does not exist. -/
def Chokes (env : Environment) (t : Tree) (u : Unprintable) : Prop :=
  ∃ form l r v w, t.Reaches env (binary (.juxtaposition form) l r) ∧
    (l.evaluate env).result = .ok v ∧ (r.evaluate env).result = .ok w ∧
    form.Chokes env.registry v w u

variable {env : Environment}

theorem Reaches.trans {t s q : Tree} (first : t.Reaches env s) (second : s.Reaches env q) :
    t.Reaches env q := by
  induction first with
  | here t => exact second
  | operand _ ih => exact .operand (ih second)
  | arithmeticLeft _ ih => exact .arithmeticLeft (ih second)
  | arithmeticRight left _ ih => exact .arithmeticRight left (ih second)
  | juxtapositionLeft _ ih => exact .juxtapositionLeft (ih second)
  | juxtapositionRight left _ ih => exact .juxtapositionRight left (ih second)
  | target _ ih => exact .target (ih second)
  | source right proper _ ih => exact .source right proper (ih second)

theorem Reaches.result_eq_error {t s : Tree} {f : Failure} (reached : t.Reaches env s)
    (h : (s.evaluate env).result = .error f) : (t.evaluate env).result = .error f := by
  induction reached with
  | here t => exact h
  | operand _ ih =>
    exact result_unary_eq_error_iff.2 (.inl (operand_eq_error_iff.2 (.inl (ih h))))
  | arithmeticLeft _ ih =>
    exact result_arithmetic_eq_error_iff.2 (.inl (operand_eq_error_iff.2 (.inl (ih h))))
  | arithmeticRight left _ ih =>
    have right := operand_eq_error_iff.2 (.inl (ih h))
    exact result_arithmetic_eq_error_iff.2 (.inr ⟨_, left, .inl right⟩)
  | juxtapositionLeft _ ih => exact result_juxtaposition_eq_error_iff.2 (.inl (ih h))
  | juxtapositionRight left _ ih =>
    exact result_juxtaposition_eq_error_iff.2 (.inr ⟨_, left, .inl (ih h)⟩)
  | target _ ih => exact result_conversion_eq_error_iff.2 (.inl (ih h))
  | source right proper _ ih =>
    exact result_conversion_eq_error_iff.2 (.inr ⟨_, right, .inr ⟨proper, .inl (ih h)⟩⟩)

theorem Chokes.result_eq_error {t : Tree} {u : Unprintable} (h : t.Chokes env u) :
    (t.evaluate env).result = .error (.unprintable u) := by
  obtain ⟨form, l, r, v, w, reached, left, right, chokes⟩ := h
  apply reached.result_eq_error
  have failed := Juxtaposition.result_of_chokes chokes
  exact result_juxtaposition_eq_error_iff.2 (.inr ⟨v, left, .inr ⟨w, right, failed⟩⟩)

theorem Chokes.of_reaches {t s : Tree} {u : Unprintable} (reached : t.Reaches env s)
    (h : s.Chokes env u) : t.Chokes env u := by
  obtain ⟨form, l, r, v, w, here, rest⟩ := h
  exact ⟨form, l, r, v, w, reached.trans here, rest⟩

/-- What an evaluation may fail with: a failure of the domain, or a text that is missing at one
of its nodes. -/
def FailsWith (env : Environment) (t : Tree) (f : Failure) : Prop :=
  f.isDomain = true ∨ ∃ u, f = .unprintable u ∧ t.Chokes env u

theorem FailsWith.of_family {t : Tree} {f : Failure}
    (h : f.family = .number ∨ f.family = .kind) : t.FailsWith env f :=
  .inl (Failure.isDomain_of_family h)

theorem FailsWith.of_reaches {t s : Tree} {f : Failure} (reached : t.Reaches env s)
    (h : s.FailsWith env f) : t.FailsWith env f := by
  obtain domain | ⟨u, rfl, chokes⟩ := h
  · exact .inl domain
  · exact .inr ⟨u, rfl, chokes.of_reaches reached⟩

theorem FailsWith.of_operand {t : Tree} {f : Failure}
    (ih : ∀ g, (t.evaluate env).result = .error g → t.FailsWith env g)
    (h : t.operand env = .error f) : t.FailsWith env f := by
  rcases operand_eq_error_iff.1 h with h | ⟨v, -, refused⟩
  · exact ih f h
  · exact .of_family (.inr (Value.family_of_expectNumber_eq_error refused).1)

theorem failsWith_of_result_eq_error (marks : env.registry.MarksApproximate) {t : Tree}
    {f : Failure} (h : (t.evaluate env).result = .error f) : t.FailsWith env f := by
  induction t generalizing f with
  | literal t =>
    obtain ⟨-, rfl⟩ := result_literal_eq_error_iff.1 h
    exact .of_family (.inl rfl)
  | identifier n =>
    rw [result_identifier, Environment.result_resolve_eq_error_iff marks] at h
    rw [h.2]
    exact .inl rfl
  | unary op t ih =>
    obtain h | ⟨x, -, h⟩ := result_unary_eq_error_iff.1 h
    · exact (FailsWith.of_operand (fun _ => ih) h).of_reaches (.operand (.here t))
    · exact .of_family (.inl (Unary.family_of_run_eq_error h))
  | binary op l r ihl ihr =>
    cases op with
    | arithmetic op =>
      obtain h | ⟨x, left, h | ⟨y, -, h⟩⟩ := result_arithmetic_eq_error_iff.1 h
      · exact (FailsWith.of_operand (fun _ => ihl) h).of_reaches (.arithmeticLeft (.here l))
      · exact (FailsWith.of_operand (fun _ => ihr) h).of_reaches (.arithmeticRight left (.here r))
      · exact .of_family (.inl (Arithmetic.family_of_run_eq_error h))
    | juxtaposition form =>
      obtain h | ⟨v, left, h | ⟨w, right, h⟩⟩ := result_juxtaposition_eq_error_iff.1 h
      · exact (ihl h).of_reaches (.juxtapositionLeft (.here l))
      · exact (ihr h).of_reaches (.juxtapositionRight left (.here r))
      · obtain ⟨domain, -⟩ | ⟨u, rfl, chokes⟩ := Juxtaposition.chokes_of_result_eq_error h
        · exact .inl domain
        · exact .inr ⟨u, rfl, form, l, r, v, w, .here _, left, right, chokes⟩
    | conversion =>
      obtain h | ⟨target, right, ⟨-, rfl⟩ | ⟨proper, h | ⟨v, -, h⟩⟩⟩ :=
        result_conversion_eq_error_iff.1 h
      · exact (ihr h).of_reaches (.target (.here r))
      · exact .of_family (.inr rfl)
      · exact (ihl h).of_reaches (.source right proper (.here l))
      · exact .of_family (.inr (Value.family_of_conversionSource_eq_error h).1)

end Tree
end Calculator
