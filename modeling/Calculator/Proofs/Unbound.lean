import Calculator.Proofs.Outcome

/-! Names that mean nothing. A name is known if it is a builtin of the mode or some frame of the
scope binds it. Evaluation reports an unknown name exactly where it comes to one, which is the
first one of the tree, since it goes no further; a tree of known names is never blamed for a name,
and one that has a value has been visited in full, so that it has known names only. What the
registry holds makes no difference. -/

namespace Calculator

theorem Scope.get?_eq_none_iff {s : Scope} {name : String} :
    s.get? name = none ↔ ∀ f ∈ s.frames, name ∉ f.names := by
  obtain ⟨frames⟩ := s
  change getIn name frames = none ↔ _
  induction frames with
  | nil => simp [getIn]
  | cons f outer ih =>
    have here : f.get? name = none ↔ name ∉ f.names := Bindings.find?_eq_none_iff
    rw [List.forall_mem_cons, ← here, ← ih, getIn]
    cases f.get? name <;> simp

namespace Environment

/-- The name is a builtin of the mode, or bound in a frame of the scope. -/
def IsKnown (env : Environment) (name : String) : Prop :=
  name ∈ Builtin.names env.mode ∨ ∃ f ∈ env.scope.frames, name ∈ f.names

variable {env : Environment}

theorem not_isKnown_iff {name : String} :
    ¬ env.IsKnown name ↔ Builtin.find? env.mode name = none ∧ env.scope.get? name = none := by
  rw [IsKnown, not_or, Builtin.find?_eq_none_iff, Scope.get?_eq_none_iff]
  simp only [not_exists, not_and]

theorem result_constant_ne_unbound (name digits other : String) :
    (env.constant name digits).result ≠ .error (.unboundName other) := by
  intro h
  rw [constant, Evaluation.result_announce, Evaluation.result_expectSuccess] at h
  generalize Evaluation.result _ = answer at h
  cases answer with
  | ok v => cases h
  | error f =>
    simp only [Except.mapError, Except.error.injEq] at h
    split at h
    · cases h
    · next defect =>
      subst h
      exact defect rfl

theorem result_resolve_eq_unbound_iff {name other : String} :
    (env.resolve name).result = .error (.unboundName other) ↔
      ¬ env.IsKnown name ∧ other = name := by
  rw [not_isKnown_iff, resolve, plainLookup]
  rcases Builtin.find? env.mode name with _ | (v | digits)
  · simp only [Evaluation.result_answer, Scope.get, true_and]
    cases env.scope.get? name <;> simp [eq_comm]
  · simp
  · simp [result_constant_ne_unbound]

end Environment

namespace Tree
open Evaluation

/-- The nodes of a tree in the order in which their evaluation ends: every node after its
operands, and the source of a conversion after its target. -/
def postorder : Tree → List Tree
  | literal t => [literal t]
  | identifier n => [identifier n]
  | unary op t => t.postorder ++ [unary op t]
  | binary .conversion l r => r.postorder ++ (l.postorder ++ [binary .conversion l r])
  | binary op l r => l.postorder ++ (r.postorder ++ [binary op l r])

theorem mem_identifiers_iff {t : Tree} {n : String} :
    n ∈ t.identifiers ↔ identifier n ∈ t.postorder := by
  induction t with
  | literal t => simp [identifiers, postorder]
  | identifier m => simp [identifiers, postorder]
  | unary op t ih => simp [identifiers, postorder, ih]
  | binary op l r ihl ihr =>
    cases op <;> simp [identifiers, postorder, ihl, ihr, or_comm]

variable {env : Environment}

def HaveValues (env : Environment) (ts : List Tree) : Prop :=
  ∀ s ∈ ts, ∃ v, (s.evaluate env).result = .ok v

theorem HaveValues.nil : HaveValues env [] := nofun

theorem HaveValues.append {ts us : List Tree} (left : HaveValues env ts)
    (right : HaveValues env us) : HaveValues env (ts ++ us) := by
  intro s hs
  exact (List.mem_append.1 hs).elim (left s) (right s)

theorem HaveValues.singleton {t : Tree} {v : Value} (h : (t.evaluate env).result = .ok v) :
    HaveValues env [t] := by
  intro s hs
  rw [List.mem_singleton.1 hs]
  exact ⟨v, h⟩

theorem haveValues_of_result {t : Tree} {v : Value} (h : (t.evaluate env).result = .ok v) :
    HaveValues env t.postorder := by
  induction t generalizing v with
  | literal t => exact .singleton h
  | identifier n => exact .singleton h
  | unary op t ih =>
    obtain ⟨x, y, operand, -, -⟩ := result_unary_eq_ok_iff.1 h
    exact (ih operand).append (.singleton h)
  | binary op l r ihl ihr =>
    cases op with
    | arithmetic op =>
      obtain ⟨x, y, z, left, right, -, -⟩ := result_arithmetic_eq_ok_iff.1 h
      exact (ihl left).append ((ihr right).append (.singleton h))
    | juxtaposition form =>
      obtain ⟨x, y, left, right, -⟩ := result_juxtaposition_eq_ok_iff.1 h
      exact (ihl left).append ((ihr right).append (.singleton h))
    | conversion =>
      obtain ⟨target, x, right, -, left, -⟩ := result_conversion_eq_ok_iff.1 h
      exact (ihr right).append ((ihl left).append (.singleton h))

/-- Evaluation comes to an occurrence of the name, and whatever stands before it in the order has
a value. -/
structure ComesTo (env : Environment) (t : Tree) (n : String) : Prop where
  reaches : t.Reaches env (identifier n)
  first : ∃ before after, t.postorder = before ++ identifier n :: after ∧ HaveValues env before

theorem ComesTo.of_operand {t s : Tree} {n : String} {earlier later : List Tree}
    (h : s.ComesTo env n) (onwards : t.Reaches env s) (values : HaveValues env earlier)
    (order : t.postorder = earlier ++ (s.postorder ++ later)) : t.ComesTo env n := by
  -- what an operand comes to, its node comes to, if the operands before it have values
  obtain ⟨before, after, split, done⟩ := h.first
  refine ⟨onwards.trans h.reaches, earlier ++ before, after ++ later, ?_, values.append done⟩
  rw [order, split]
  simp

/-- The name is unknown, and evaluation comes to it. -/
def Misses (env : Environment) (t : Tree) (n : String) : Prop :=
  ¬ env.IsKnown n ∧ t.ComesTo env n

theorem misses_of_operand {t : Tree} {n : String}
    (ih : (t.evaluate env).result = .error (.unboundName n) → t.Misses env n)
    (h : t.operand env = .error (.unboundName n)) : t.Misses env n := by
  obtain h | ⟨v, -, refused⟩ := operand_eq_error_iff.1 h
  · exact ih h
  · cases (Value.family_of_expectNumber_eq_error refused).1

theorem misses_of_result {t : Tree} {n : String}
    (h : (t.evaluate env).result = .error (.unboundName n)) : t.Misses env n := by
  -- by induction over the tree: no operation on values reports a name, so that a report comes from
  -- an operand, and the operands before that one have values
  induction t with
  | literal t => cases (result_literal_eq_error_iff.1 h).2
  | identifier m =>
    rw [result_identifier, Environment.result_resolve_eq_unbound_iff] at h
    obtain ⟨unknown, rfl⟩ := h
    exact ⟨unknown, .here _, [], [], rfl, .nil⟩
  | unary op t ih =>
    obtain h | ⟨x, -, h⟩ := result_unary_eq_error_iff.1 h
    · obtain ⟨unknown, there⟩ := misses_of_operand ih h
      exact ⟨unknown, there.of_operand (.operand (.here t)) .nil rfl⟩
    · cases Unary.family_of_run_eq_error h
  | binary op l r ihl ihr =>
    cases op with
    | arithmetic op =>
      obtain h | ⟨x, left, h | ⟨y, -, h⟩⟩ := result_arithmetic_eq_error_iff.1 h
      · obtain ⟨unknown, there⟩ := misses_of_operand ihl h
        exact ⟨unknown, there.of_operand (.arithmeticLeft (.here l)) .nil rfl⟩
      · obtain ⟨unknown, there⟩ := misses_of_operand ihr h
        have values := haveValues_of_result left
        exact ⟨unknown, there.of_operand (.arithmeticRight left (.here r)) values rfl⟩
      · cases Arithmetic.family_of_run_eq_error h
    | juxtaposition form =>
      obtain h | ⟨v, left, h | ⟨w, -, h⟩⟩ := result_juxtaposition_eq_error_iff.1 h
      · obtain ⟨unknown, there⟩ := ihl h
        exact ⟨unknown, there.of_operand (.juxtapositionLeft (.here l)) .nil rfl⟩
      · obtain ⟨unknown, there⟩ := ihr h
        have values := haveValues_of_result left
        exact ⟨unknown, there.of_operand (.juxtapositionRight left (.here r)) values rfl⟩
      · obtain ⟨-, other⟩ | ⟨u, missing, -⟩ := Juxtaposition.chokes_of_result_eq_error h
        · exact absurd rfl other
        · cases missing
    | conversion =>
      obtain h | ⟨target, right, ⟨-, h⟩ | ⟨proper, h | ⟨v, -, h⟩⟩⟩ :=
        result_conversion_eq_error_iff.1 h
      · obtain ⟨unknown, there⟩ := ihr h
        exact ⟨unknown, there.of_operand (.target (.here r)) .nil rfl⟩
      · cases h
      · obtain ⟨unknown, there⟩ := ihl h
        have values := haveValues_of_result right
        exact ⟨unknown, there.of_operand (.source right proper (.here l)) values rfl⟩
      · cases (Value.family_of_conversionSource_eq_error h).1

theorem HaveValues.isKnown {ts : List Tree} {n : String} (values : HaveValues env ts)
    (listed : identifier n ∈ ts) : env.IsKnown n := by
  apply Classical.byContradiction
  intro unknown
  obtain ⟨v, value⟩ := values _ listed
  rw [result_identifier, Environment.result_resolve_eq_unbound_iff.2 ⟨unknown, rfl⟩] at value
  cases value

theorem result_eq_unbound_iff {t : Tree} {n : String} :
    (t.evaluate env).result = .error (.unboundName n) ↔
      ¬ env.IsKnown n ∧ t.Reaches env (identifier n) := by
  constructor
  · intro h
    obtain ⟨unknown, there⟩ := misses_of_result h
    exact ⟨unknown, there.reaches⟩
  · rintro ⟨unknown, reached⟩
    apply reached.result_eq_error
    rw [result_identifier, Environment.result_resolve_eq_unbound_iff]
    exact ⟨unknown, rfl⟩

/-- A run that is not interrupted reports a name exactly if it comes to it and the name is neither
a builtin nor bound in any frame. Then it is the first such name in the order of evaluation, and
all that was evaluated before it has a value. So a tree of known names never has a name
reported, and a tree that has a value has known names only, since all its nodes have values. -/
theorem run_reports_first_unknown (env : Environment) (fires : Nat → Bool) (t : Tree) :
    (∀ n, ((t.evaluate env).computation.run fires).1 = some (.error (.unboundName n)) ↔
      (¬ env.IsKnown n ∧ t.Reaches env (identifier n)) ∧
        ∀ i < (t.evaluate env).polls, fires i = false) ∧
    (∀ n, ((t.evaluate env).computation.run fires).1 = some (.error (.unboundName n)) →
      n ∈ t.identifiers ∧ ∃ before after, t.postorder = before ++ identifier n :: after ∧
        (∀ s ∈ before, ∃ v, (s.evaluate env).result = .ok v) ∧
        ∀ m, identifier m ∈ before → env.IsKnown m) ∧
    ((∀ n ∈ t.identifiers, env.IsKnown n) →
      ∀ n, ((t.evaluate env).computation.run fires).1 ≠ some (.error (.unboundName n))) ∧
    ∀ v, ((t.evaluate env).computation.run fires).1 = some (.ok v) →
      (∀ s ∈ t.postorder, ∃ w, (s.evaluate env).result = .ok w) ∧
      ∀ n ∈ t.identifiers, env.IsKnown n := by
  have missed (n : String)
      (ran : ((t.evaluate env).computation.run fires).1 = some (.error (.unboundName n))) :
      t.Misses env n := misses_of_result ((run_eq_some_iff fires _ _).1 ran).1.symm
  have listed (n : String)
      (ran : ((t.evaluate env).computation.run fires).1 = some (.error (.unboundName n))) :
      n ∈ t.identifiers := by
    obtain ⟨before, after, split, -⟩ := (missed n ran).2.first
    rw [mem_identifiers_iff, split]
    simp
  refine ⟨fun n => ?_, fun n ran => ⟨listed n ran, ?_⟩, fun known n ran => ?_, fun v ran => ?_⟩
  · rw [run_eq_some_iff, eq_comm, result_eq_unbound_iff]
  · obtain ⟨before, after, split, values⟩ := (missed n ran).2.first
    exact ⟨before, after, split, values, fun m => values.isKnown⟩
  · exact (missed n ran).1 (known n (listed n ran))
  · have values := haveValues_of_result ((run_eq_some_iff fires _ _).1 ran).1.symm
    exact ⟨values, fun n hn => values.isKnown (mem_identifiers_iff.1 hn)⟩

/-- The target of a conversion is read before its source, so `z` is the first unknown name here. -/
theorem run_reports_first_unknown_target :
    let env : Environment := ⟨.standard, .builtin, ⟨[⟨[("x", .number (.ofInt 2))]⟩]⟩⟩
    let target := binary (.arithmetic .add) (identifier "x") (identifier "z")
    let t := binary .conversion (identifier "y") target
    ((t.evaluate env).computation.run Polling.never).1 = some (.error (.unboundName "z")) ∧
    ¬ env.IsKnown "z" ∧ "z" ∈ t.identifiers ∧
    ∃ before after, t.postorder = before ++ identifier "z" :: after ∧
      ∀ s ∈ before, ∃ v, (s.evaluate env).result = .ok v := by
  intro env target t
  have ran : ((t.evaluate env).computation.run Polling.never).1 =
      some (.error (.unboundName "z")) := by decide +kernel
  obtain ⟨reported, first, -⟩ := run_reports_first_unknown env Polling.never t
  obtain ⟨listed, before, after, split, values, -⟩ := first "z" ran
  exact ⟨ran, ((reported "z").1 ran).1.1, listed, before, after, split, values⟩

end Tree
end Calculator
