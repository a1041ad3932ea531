import Calculator.Proofs.Naming
import Calculator.Proofs.Success
import Mathlib.Algebra.GroupWithZero.Nat

/-! How often a successful evaluation polls. Every node polls once before its work. Some poll again
in it: the operations that may take long once before they start, a factorial at every 256th
factor, and a name that stands for a constant as often as the evaluation behind the constant.
Nothing else polls, so the polls of a tree are those of its nodes, each counted once. -/

namespace Calculator
open Evaluation

namespace Environment

theorem polls_constant (env : Environment) (name digits : String) :
    (env.constant name digits).polls = 3 := by
  simp only [constant, constantTree, Tree.evaluateWith, plainLookup, Builtin.find?_approximately,
    Value.apply, Juxtaposition.mustMultiply, polls_announce, polls_expectSuccess, polls_bind,
    polls_poll, result_poll, polls_pure, polls_answer, result_answer]
  cases Number.ofLiteral digits <;> rfl

theorem polls_plainLookup (env : Environment) (name : String) :
    (env.plainLookup name).polls = 0 := by
  unfold plainLookup
  split <;> rfl

theorem polls_resolve (env : Environment) (name : String) :
    (env.resolve name).polls =
      if env.mode = .standard ∧ (name = "pi" ∨ name = "e") then 3 else 0 := by
  unfold resolve
  split
  · next digits found =>
    obtain ⟨mode, listed⟩ := Builtin.mem_constants_of_find? found
    have named : name = "pi" ∨ name = "e" := by
      simp only [Builtin.constants, List.mem_cons, Prod.mk.injEq, List.not_mem_nil, or_false]
        at listed
      exact listed.imp And.left And.left
    rw [polls_constant, if_pos ⟨mode, named⟩]
  · next other =>
    have pi : Builtin.find? .standard "pi" = some (.constant "3.141592653589793238") := by decide
    have e : Builtin.find? .standard "e" = some (.constant "2.718281828459045235") := by decide
    rw [polls_plainLookup, if_neg]
    rintro ⟨mode, rfl | rfl⟩
    · exact other _ (mode ▸ pi)
    · exact other _ (mode ▸ e)

end Environment

namespace Tree

def subtrees : Tree → List Tree
  | literal t => [literal t]
  | identifier n => [identifier n]
  | unary op t => unary op t :: t.subtrees
  | binary op l r => binary op l r :: (l.subtrees ++ r.subtrees)

/-- How often a node polls in its own work, after it has polled before it. -/
def workPolls (env : Environment) : Tree → Nat
  | literal _ => 0
  | identifier n => if env.mode = .standard ∧ (n = "pi" ∨ n = "e") then 3 else 0
  | unary .reciprocal _ => 1
  | unary .factorial t =>
    match t.operand env >>= Number.factorialArgument with
    | .ok n => n / 256
    | .error _ => 0
  | unary _ _ => 0
  | binary (.arithmetic _) _ _ => 1
  | binary (.juxtaposition .multiply) _ _ => 1
  | binary (.juxtaposition .implicit) l _ => if (l.operand env).isOk then 1 else 0
  | binary (.juxtaposition .call) _ _ => 0
  | binary .conversion _ r => if (r.operand env).isOk then 1 else 0

variable {env : Environment}

theorem workPolls_unary {op : Unary} {t : Tree} {x y : Number} {m n : Nat}
    (operand : (t.evaluate env).Yields (.number x) m) (run : (op.run x).Yields y n) :
    (unary op t).workPolls env = n := by
  obtain ⟨run, rfl⟩ := run
  cases op with
  | factorial =>
    have multiplied : x.factorial.result = .ok y := run
    rw [Number.result_factorial, bind_eq_ok_iff] at multiplied
    obtain ⟨n, argument, -⟩ := multiplied
    rw [workPolls, operand_eq_ok_iff.2 operand.1, ok_bind, argument]
    exact (Number.polls_factorial argument).symm
  | _ => rfl

theorem workPolls_juxtaposition {form : Juxtaposition} {l r : Tree} {v w z : Value} {m n : Nat}
    (left : (l.evaluate env).Yields v m)
    (applied : (v.apply env.registry form.mayMultiply form.mustMultiply w).Yields z n) :
    (binary (.juxtaposition form) l r).workPolls env = n := by
  obtain ⟨may, x, y, rfl, rfl, -, rfl⟩ | ⟨may, name, d, y, rfl, -, rfl, -, rfl⟩ :=
    Juxtaposition.yields_apply_iff.1 applied
  · cases form with
    | implicit => rw [workPolls, operand_eq_ok_iff.2 left.1]; rfl
    | call => exact absurd rfl may
    | multiply => rfl
  · cases form with
    | implicit => rw [workPolls, operand, left.1]; rfl
    | call => rfl
    | multiply => exact absurd rfl may

theorem workPolls_conversion {l r : Tree} {target : Value} {m : Nat}
    (right : (r.evaluate env).Yields target m) :
    (binary .conversion l r).workPolls env = if target.kind = .number then 1 else 0 := by
  rw [workPolls, operand, right.1]
  cases target <;> rfl

theorem polls_eq_sum {t : Tree} {v : Value} {n : Nat} (h : (t.evaluate env).Yields v n) :
    n = (t.subtrees.map fun s => 1 + s.workPolls env).sum := by
  induction t generalizing v n with
  | literal t =>
    rw [← h.2, polls_literal]
    rfl
  | identifier name =>
    rw [← h.2, polls_identifier, Environment.polls_resolve, Nat.add_comm]
    rfl
  | unary op t ih =>
    obtain ⟨x, m, y, k, operand, run, -, rfl⟩ := yields_unary_iff.1 h
    rw [subtrees, List.map_cons, List.sum_cons, workPolls_unary operand run, ← ih operand]
    omega
  | binary op l r ihl ihr =>
    rw [subtrees, List.map_cons, List.map_append, List.sum_cons, List.sum_append]
    cases op with
    | arithmetic op =>
      obtain ⟨x, m, y, k, c, left, right, -, -, rfl⟩ := yields_arithmetic_iff.1 h
      rw [← ihl left, ← ihr right, workPolls]
      omega
    | juxtaposition form =>
      obtain ⟨v, m, w, k, j, left, right, applied, rfl⟩ := yields_juxtaposition_iff.1 h
      rw [← ihl left, ← ihr right, workPolls_juxtaposition left applied]
      omega
    | conversion =>
      obtain ⟨target, m, x, k, right, -, left, -, rfl⟩ := yields_conversion_iff.1 h
      rw [← ihl left, ← ihr right, workPolls_conversion right]
      omega

/-- Whenever a run ends with a value, it has polled once for each node and as often as the work of
the nodes asks for, whatever the interrupt, the mode, the registry and the scope. -/
theorem polls_of_run (env : Environment) (fires : Nat → Bool) (t : Tree) (v : Value) (n : Nat)
    (ran : (t.evaluate env).computation.run fires = (some (.ok v), n)) :
    n = (t.subtrees.map fun s => 1 + s.workPolls env).sum :=
  polls_eq_sum (run_eq_ok_iff.1 ran).1

theorem polls_of_run_factorial_as_pi :
    let env : Environment := ⟨.standard, .builtin, .empty⟩
    let t := binary .conversion (unary .factorial (literal "300")) (identifier "pi")
    (t.evaluate env).computation.run (Polling.after 9) =
      (some (.ok (.number (.ofInt (Nat.factorial 300)))), 9) ∧
    9 = (t.subtrees.map fun s => 1 + s.workPolls env).sum := by
  intro env t
  have ran : (t.evaluate env).computation.run (Polling.after 9) =
      (some (.ok (.number (.ofInt (Nat.factorial 300)))), 9) := by decide +kernel
  exact ⟨ran, polls_of_run env _ t _ 9 ran⟩

end Tree
end Calculator
