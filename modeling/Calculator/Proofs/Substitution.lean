import Calculator.Proofs.Scope
import Calculator.Proofs.Tree

/-! Binding is substitution. A name bound in a fresh innermost frame means the same as the tree
whose value it is bound to, wherever it occurs: as an operand, as a function that is called, or
as the target of a conversion. What an evaluation comes to depends on the values of the
operands and not on the trees they came from, and that includes the texts of failures. -/

namespace Calculator

namespace Scope

theorem get?_child_bind_self (s : Scope) (name : String) (v : Value) :
    (s.child.bind name v).get? name = some v := by
  have here : (Frame.empty.set name v).get? name = some v := Bindings.find?_set_self name v []
  simp only [child, bind, get?, getIn, here]

theorem get?_child_bind_of_ne (s : Scope) {name other : String} (different : name ≠ other)
    (v : Value) : (s.child.bind name v).get? other = s.get? other := by
  have absent : (Frame.empty.set name v).get? other = none :=
    Bindings.find?_set_of_ne different v []
  simp only [child, bind, get?, getIn, absent]

end Scope

namespace Environment

variable {mode : Mode} {registry : Registry} {s : Scope} {name : String}

theorem resolve_child_bind_self (free : name ∉ Builtin.names mode) (v : Value) :
    (resolve ⟨mode, registry, s.child.bind name v⟩ name).result = .ok v := by
  have builtin := Builtin.find?_eq_none_iff.2 free
  simp only [resolve, plainLookup, builtin, Evaluation.result_answer, Scope.get,
    Scope.get?_child_bind_self]

theorem resolve_child_bind_of_ne {other : String} (different : name ≠ other) (v : Value) :
    resolve ⟨mode, registry, s.child.bind name v⟩ other = resolve ⟨mode, registry, s⟩ other :=
  resolve_eq_of_agree fun _ => s.get?_child_bind_of_ne different v

end Environment

namespace Tree

/-- The tree with `u` in the place of every identifier of that name. -/
def substitute (t : Tree) (name : String) (u : Tree) : Tree :=
  match t with
  | literal text => literal text
  | identifier n => if n = name then u else identifier n
  | unary op t => unary op (t.substitute name u)
  | binary op l r => binary op (l.substitute name u) (r.substitute name u)

theorem result_substitute {mode : Mode} {registry : Registry} {s : Scope} {name : String}
    {u : Tree} {v : Value} (free : name ∉ Builtin.names mode)
    (value : (u.evaluate ⟨mode, registry, s⟩).result = .ok v) (t : Tree) :
    ((t.substitute name u).evaluate ⟨mode, registry, s⟩).result =
      (t.evaluate ⟨mode, registry, s.child.bind name v⟩).result := by
  induction t with
  | literal t => simp only [substitute, result_literal]
  | identifier n =>
    by_cases here : n = name
    · subst here
      simp only [substitute, if_true, value, result_identifier,
        Environment.resolve_child_bind_self free]
    · simp only [substitute, here, if_false, result_identifier,
        Environment.resolve_child_bind_of_ne (Ne.symm here)]
  | unary op t ih => simp only [substitute, result_unary, operand, ih]
  | binary op l r ihl ihr =>
    cases op with
    | arithmetic op => simp only [substitute, result_arithmetic, operand, ihl, ihr]
    | juxtaposition form => simp only [substitute, result_juxtaposition, ihl, ihr]
    | conversion => simp only [substitute, result_conversion, ihl, ihr]

/-- If a tree has a value, then a name that is no builtin may be bound to that value in a child
scope, or the tree be put in its place: without an interrupt the answers are the same. -/
theorem run_child_bind_eq_run_substitute (mode : Mode) (registry : Registry) (s : Scope)
    (name : String) (u : Tree) (v : Value) (t : Tree) (free : name ∉ Builtin.names mode)
    (value : ((u.evaluate ⟨mode, registry, s⟩).computation.run Polling.never).1 = some (.ok v)) :
    ((t.evaluate ⟨mode, registry, s.child.bind name v⟩).computation.run Polling.never).1 =
      (((t.substitute name u).evaluate ⟨mode, registry, s⟩).computation.run Polling.never).1 := by
  rw [Polling.run_never, Option.some.injEq] at value
  rw [Polling.run_never, Polling.run_never]
  exact congrArg some (result_substitute free value t).symm

theorem run_child_bind_eq_run_substitute_base :
    let s : Scope := ⟨[⟨[("n", .number (.ofInt 3))]⟩]⟩
    let u := binary (.juxtaposition .call) (identifier "base") (identifier "n")
    let t := binary .conversion (identifier "n") (identifier "b")
    "b" ∉ Builtin.names .standard ∧
    ((u.evaluate ⟨.standard, .builtin, s⟩).computation.run Polling.never).1 =
      some (.ok (.base ⟨3, by decide, by decide⟩)) ∧
    ((t.evaluate ⟨.standard, .builtin, s.child.bind "b" (.base ⟨3, by decide, by decide⟩)⟩
      ).computation.run Polling.never).1 =
      (((t.substitute "b" u).evaluate ⟨.standard, .builtin, s⟩).computation.run
        Polling.never).1 := by
  intro s u t
  have free : "b" ∉ Builtin.names .standard := Builtin.find?_eq_none_iff.1 (by decide)
  have value : ((u.evaluate ⟨.standard, .builtin, s⟩).computation.run Polling.never).1 =
      some (.ok (.base ⟨3, by decide, by decide⟩)) := by decide +kernel
  exact ⟨free, value, run_child_bind_eq_run_substitute _ _ _ _ _ _ t free value⟩

end Tree
end Calculator
