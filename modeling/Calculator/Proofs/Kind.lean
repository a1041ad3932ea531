import Calculator.Proofs.Failure
import Calculator.Proofs.Naming

/-! Kinds of trees. `kind?` finds the kind of a tree from the kinds of its operands and from what
its names stand for, without evaluating anything. With the builtin functions, trees that have
a kind never fail for reasons of kind and their values have that kind, and trees that have
none never have a value. -/

namespace Calculator

namespace Tree

/-- The function that a tree names. -/
def callee? (env : Environment) : Tree → Option String
  | identifier n =>
    match env.meaning? n with
    | some (.function name) => some name
    | _ => none
  | _ => none

def kind? (env : Environment) : Tree → Option Kind
  | literal _ => some .number
  | identifier n => (env.meaning? n).map Value.kind
  | unary _ t => if t.kind? env = some .number then some .number else none
  | binary (.arithmetic _) l r =>
    if l.kind? env = some .number ∧ r.kind? env = some .number then some .number else none
  | binary (.juxtaposition form) l r =>
    match l.kind? env, r.kind? env with
    | some .number, some .number => if form = .call then none else some .number
    | some .function, some .number =>
      if form = .multiply then none
      else if l.callee? env = some "base" then some .base else some .number
    | _, _ => none
  | binary .conversion l r =>
    match r.kind? env, l.kind? env with
    | some .number, some .number => some .number
    | some .format, some .number => some .number
    | some .precisionMarker, some .number => some .number
    | some .base, some .number => some .number
    | _, _ => none

end Tree

theorem Implementation.kind_of_run_eq_ok {i : Implementation} {x : Number} {v : Value}
    (h : i.run x = .ok v) : v.kind = if i = .base then .base else .number := by
  cases i <;> simp only [run, bind_eq_ok_iff, pure_eq_ok, Except.ok.injEq] at h
  · obtain ⟨y, -, rfl⟩ := h
    rfl
  · subst h
    rfl
  · obtain ⟨n, -, b, -, rfl⟩ := h
    rfl

theorem Registry.implementation_eq_base_iff {name : String} {d : Definition}
    (h : builtin.find? name = some d) : d.implementation = .base ↔ name = "base" := by
  have named : d.name = name := by simpa using List.find?_some h
  have listed : ∀ d ∈ builtinDefinitions, d.implementation = .base ↔ d.name = "base" := by decide
  rw [← named]
  exact listed d (List.mem_of_find?_eq_some h)

theorem Juxtaposition.family_of_result_eq_error {r : Registry} {form : Juxtaposition}
    {v w : Value} {f : Failure}
    (fits : form ≠ .call ∧ v.kind = .number ∨ form ≠ .multiply ∧ v.kind = .function)
    (argument : w.kind = .number)
    (h : (v.apply r form.mayMultiply form.mustMultiply w).result = .error f) :
    f.family ≠ .kind := by
  obtain ⟨y, rfl⟩ := Value.kind_eq_number_iff.1 argument
  rcases fits with ⟨may, number⟩ | ⟨may, function⟩
  · obtain ⟨x, rfl⟩ := Value.kind_eq_number_iff.1 number
    have product := (result_eq_ok_iff (r := r)).2 (.inl ⟨may, x, y, rfl, rfl, rfl⟩)
    rw [product] at h
    cases h
  · obtain ⟨name, rfl⟩ := Value.kind_eq_function_iff.1 function
    rw [apply_function may, Evaluation.result_answer, Value.call] at h
    split at h
    · cases h
      simp [Failure.family]
    · next d found =>
      obtain family | ⟨u, rfl, -⟩ := Implementation.chokes_of_run_eq_error h
      · simp [family]
      · cases u <;> simp [Failure.family]

namespace Tree

variable {env : Environment}

theorem kind?_juxtaposition {form : Juxtaposition} {l r : Tree} {k : Kind}
    (h : (binary (.juxtaposition form) l r).kind? env = some k) :
    (form ≠ .call ∧ l.kind? env = some .number ∨
      form ≠ .multiply ∧ l.kind? env = some .function) ∧ r.kind? env = some .number := by
  simp only [kind?] at h
  split at h <;> simp_all

theorem kind?_conversion {l r : Tree} {k : Kind}
    (h : (binary .conversion l r).kind? env = some k) :
    (∃ k, r.kind? env = some k ∧ k ≠ .function) ∧ l.kind? env = some .number := by
  simp only [kind?] at h
  split at h
  · next target source => exact ⟨⟨_, target, nofun⟩, source⟩
  · next target source => exact ⟨⟨_, target, nofun⟩, source⟩
  · next target source => exact ⟨⟨_, target, nofun⟩, source⟩
  · next target source => exact ⟨⟨_, target, nofun⟩, source⟩
  · cases h

theorem exists_identifier_of_result {t : Tree} {name : String}
    (h : (t.evaluate env).result = .ok (.function name)) : ∃ n, t = identifier n := by
  cases t with
  | literal t => simp [result_literal_eq_ok_iff] at h
  | identifier n => exact ⟨n, rfl⟩
  | unary op t => simp [result_unary_eq_ok_iff] at h
  | binary op l r =>
    cases op with
    | arithmetic op => simp [result_arithmetic_eq_ok_iff] at h
    | juxtaposition form =>
      simp only [result_juxtaposition_eq_ok_iff, Juxtaposition.result_eq_ok_iff] at h
      obtain ⟨v, w, -, -, ⟨-, x, y, -, -, h⟩ | ⟨-, name', d, y, -, -, -, h⟩⟩ := h
      · cases h
      · have kind := Implementation.kind_of_run_eq_ok h
        split at kind <;> cases kind
    | conversion => simp [result_conversion_eq_ok_iff] at h

theorem callee?_of_result {t : Tree} {name : String} (marks : env.registry.MarksApproximate)
    (h : (t.evaluate env).result = .ok (.function name)) : t.callee? env = some name := by
  obtain ⟨n, rfl⟩ := exists_identifier_of_result h
  rw [result_identifier, Environment.result_resolve_eq_ok_iff marks] at h
  simp [callee?, h]

/-- A value has the kind of its tree, which in particular has one. -/
theorem kind?_of_result (builtin : env.registry = Registry.builtin) {t : Tree} {v : Value}
    (h : (t.evaluate env).result = .ok v) : t.kind? env = some v.kind := by
  have marks : env.registry.MarksApproximate := builtin ▸ Registry.builtin_marksApproximate
  induction t generalizing v with
  | literal t =>
    obtain ⟨q, -, rfl⟩ := result_literal_eq_ok_iff.1 h
    rfl
  | identifier n =>
    rw [result_identifier, Environment.result_resolve_eq_ok_iff marks] at h
    rw [kind?, h, Option.map_some]
  | unary op t ih =>
    obtain ⟨x, y, ht, -, rfl⟩ := result_unary_eq_ok_iff.1 h
    rw [kind?, ih ht]
    rfl
  | binary op l r ihl ihr =>
    cases op with
    | arithmetic op =>
      obtain ⟨x, y, z, hl, hr, -, rfl⟩ := result_arithmetic_eq_ok_iff.1 h
      rw [kind?, ihl hl, ihr hr]
      rfl
    | juxtaposition form =>
      obtain ⟨v', w, hl, hr, applied⟩ := result_juxtaposition_eq_ok_iff.1 h
      rw [kind?, ihl hl, ihr hr]
      obtain ⟨may, x, y, rfl, rfl, rfl⟩ | ⟨may, name, d, y, rfl, found, rfl, run⟩ :=
        Juxtaposition.result_eq_ok_iff.1 applied
      · simp [Value.kind, may]
      · rw [builtin] at found
        have kind := Implementation.kind_of_run_eq_ok run
        simp only [Registry.implementation_eq_base_iff found] at kind
        rw [kind, callee?_of_result marks hl]
        simp only [Value.kind, may, if_false, Option.some.injEq]
        split <;> rfl
    | conversion =>
      obtain ⟨target, x, hr, proper, hl, rfl⟩ := result_conversion_eq_ok_iff.1 h
      rw [kind?, ihl hl, ihr hr]
      cases target with
      | function name => exact absurd rfl proper
      | _ => rfl

theorem family_of_operand_eq_error (builtin : env.registry = Registry.builtin) {t : Tree}
    {f : Failure} (number : t.kind? env = some .number)
    (ih : ∀ g, (t.evaluate env).result = .error g → g.family ≠ .kind)
    (h : t.operand env = .error f) : f.family ≠ .kind := by
  rcases operand_eq_error_iff.1 h with h | ⟨v, hv, refused⟩
  · exact ih f h
  · have kind := kind?_of_result builtin hv
    rw [number, Option.some.injEq] at kind
    exact absurd kind.symm (Value.family_of_expectNumber_eq_error refused).2

theorem family_of_result_eq_error (builtin : env.registry = Registry.builtin) {t : Tree}
    {k : Kind} {f : Failure} (kinded : t.kind? env = some k)
    (h : (t.evaluate env).result = .error f) : f.family ≠ .kind := by
  have marks : env.registry.MarksApproximate := builtin ▸ Registry.builtin_marksApproximate
  induction t generalizing k f with
  | literal t =>
    obtain ⟨-, rfl⟩ := result_literal_eq_error_iff.1 h
    simp [Failure.family]
  | identifier n =>
    rw [result_identifier, Environment.result_resolve_eq_error_iff marks] at h
    simp [kind?, h.1] at kinded
  | unary op t ih =>
    simp only [kind?] at kinded
    split at kinded
    · next number =>
      obtain h | ⟨x, -, h⟩ := result_unary_eq_error_iff.1 h
      · exact family_of_operand_eq_error builtin number (fun g => ih number) h
      · simp [Unary.family_of_run_eq_error h]
    · cases kinded
  | binary op l r ihl ihr =>
    cases op with
    | arithmetic op =>
      simp only [kind?] at kinded
      split at kinded
      · next numbers =>
        obtain h | ⟨x, -, h | ⟨y, -, h⟩⟩ := result_arithmetic_eq_error_iff.1 h
        · exact family_of_operand_eq_error builtin numbers.1 (fun g => ihl numbers.1) h
        · exact family_of_operand_eq_error builtin numbers.2 (fun g => ihr numbers.2) h
        · simp [Arithmetic.family_of_run_eq_error h]
      · cases kinded
    | juxtaposition form =>
      have sides := kind?_juxtaposition kinded
      have leftKind : ∃ k, l.kind? env = some k := by
        rcases sides.1 with ⟨-, hl⟩ | ⟨-, hl⟩
        · exact ⟨_, hl⟩
        · exact ⟨_, hl⟩
      obtain h | ⟨v, hv, h | ⟨w, hw, h⟩⟩ := result_juxtaposition_eq_error_iff.1 h
      · exact ihl leftKind.choose_spec h
      · exact ihr sides.2 h
      · rw [kind?_of_result builtin hv, kind?_of_result builtin hw] at sides
        simp only [Option.some.injEq] at sides
        exact Juxtaposition.family_of_result_eq_error sides.1 sides.2 h
    | conversion =>
      obtain ⟨⟨k, hk, proper⟩, number⟩ := kind?_conversion kinded
      obtain h | ⟨target, ht, ⟨function, -⟩ | ⟨-, h | ⟨v, hv, h⟩⟩⟩ :=
        result_conversion_eq_error_iff.1 h
      · exact ihr hk h
      · have kind := kind?_of_result builtin ht
        rw [hk, Option.some.injEq] at kind
        exact absurd (kind.trans function) proper
      · exact ihl number h
      · have kind := kind?_of_result builtin hv
        rw [number, Option.some.injEq] at kind
        exact absurd kind.symm (Value.family_of_conversionSource_eq_error h).2

theorem callee?_eq_some_iff (marks : env.registry.MarksApproximate) {t : Tree} {name : String} :
    t.callee? env = some name ↔ (t.evaluate env).result = .ok (.function name) := by
  refine ⟨fun h => ?_, callee?_of_result marks⟩
  cases t with
  | identifier n =>
    rw [result_identifier, Environment.result_resolve_eq_ok_iff marks]
    simp only [callee?] at h
    split at h
    · next function meant =>
      cases h
      exact meant
    · cases h
  | _ => cases h

/-- The static reading of names agrees with evaluation, and every run under an interrupt that
ends with an answer respects kinds: a tree of kind `k` answers with a value of kind `k` or
with a failure that is not one of kind, and a tree of no kind never answers with a value. -/
theorem run_respects_kind (mode : Mode) (scope : Scope) (fires : Nat → Bool) (t : Tree) :
    let env : Environment := ⟨mode, Registry.builtin, scope⟩
    (∀ n v, env.meaning? n = some v ↔ (env.resolve n).result = .ok v) ∧
    (∀ name, t.callee? env = some name ↔ (t.evaluate env).result = .ok (.function name)) ∧
    match t.kind? env with
    | some k =>
      (∀ v, ((t.evaluate env).computation.run fires).1 = some (.ok v) → v.kind = k) ∧
      (∀ f, ((t.evaluate env).computation.run fires).1 = some (.error f) → f.family ≠ .kind)
    | none => ∀ v, ((t.evaluate env).computation.run fires).1 ≠ some (.ok v) := by
  intro env
  refine ⟨fun n v => ?_, fun name => ?_, ?_⟩
  · exact (Environment.result_resolve_eq_ok_iff Registry.builtin_marksApproximate).symm
  · exact callee?_eq_some_iff Registry.builtin_marksApproximate
  · simp only [ne_eq, Evaluation.run_eq_some_iff]
    split
    · next k kinded =>
      refine ⟨fun v h => ?_, fun f h => ?_⟩
      · have kind := kind?_of_result rfl h.1.symm
        rw [kinded, Option.some.injEq] at kind
        exact kind.symm
      · exact family_of_result_eq_error rfl kinded h.1.symm
    · next unkinded =>
      intro v h
      have kind := kind?_of_result rfl h.1.symm
      rw [unkinded] at kind
      cases kind

end Tree
end Calculator
