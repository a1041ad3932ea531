import Calculator.Proofs.Scope
import Calculator.Proofs.Tree

/-! What names mean. A builtin means its value and a constant the number of its digits, marked
as approximate; any other name means what the scope says. The evaluation behind a constant
finds exactly this, as long as the registry still marks numbers under `approximately`. -/

namespace Calculator

theorem Bindings.mem_of_find? {α : Type} {name : String} {a : α} {entries : List (String × α)}
    (h : find? name entries = some a) : (name, a) ∈ entries := by
  induction entries with
  | nil => cases h
  | cons entry rest ih =>
    simp only [find?] at h
    split at h
    · next same =>
      cases same
      cases h
      exact List.mem_cons_self
    · exact List.mem_cons_of_mem _ (ih h)

/-- Whether a call of `approximately` does what constants need. -/
def Registry.MarksApproximate (r : Registry) : Prop :=
  ∃ d, r.find? Builtin.approximately = some d ∧ d.implementation = .approximately

theorem Registry.builtin_marksApproximate : Registry.builtin.MarksApproximate := ⟨_, rfl, rfl⟩

namespace Builtin

def meaning? : Builtin → Option Value
  | value v => some v
  | constant digits => (Literal.value? digits).map fun q => .number (Number.ofRat q).approximately

theorem mem_constants_of_find? {mode : Mode} {name digits : String}
    (h : find? mode name = some (.constant digits)) :
    mode = .standard ∧ (name, .constant digits) ∈ constants := by
  have listed := Bindings.mem_of_find? h
  cases mode with
  | standard =>
    simpa [table, functions, function, approximations, styles, bases] using listed
  | compatibility => simp [table, function, approximations] at listed

theorem value?_pi : Literal.value? "3.141592653589793238" =
    some (3141592653589793238 / 1000000000000000000) := by decide +kernel

theorem value?_e : Literal.value? "2.718281828459045235" =
    some (2718281828459045235 / 1000000000000000000) := by decide +kernel

theorem isSome_value?_of_find? {mode : Mode} {name digits : String}
    (h : find? mode name = some (.constant digits)) : ∃ q, Literal.value? digits = some q := by
  have listed := (mem_constants_of_find? h).2
  simp only [constants, List.mem_cons, Prod.mk.injEq, Builtin.constant.injEq, List.not_mem_nil,
    or_false] at listed
  rcases listed with ⟨-, rfl⟩ | ⟨-, rfl⟩
  · exact ⟨_, value?_pi⟩
  · exact ⟨_, value?_e⟩

end Builtin

namespace Environment

/-- The value that a name stands for, if it stands for one. -/
def meaning? (env : Environment) (name : String) : Option Value :=
  match Builtin.find? env.mode name with
  | some b => b.meaning?
  | none => env.scope.get? name

theorem result_constant {env : Environment} (marks : env.registry.MarksApproximate)
    (name : String) {digits : String} {q : Rat} (h : Literal.value? digits = some q) :
    (env.constant name digits).result = .ok (.number (Number.ofRat q).approximately) := by
  obtain ⟨d, found, marking⟩ := marks
  simp [constant, constantTree, Tree.evaluateWith, plainLookup, Builtin.find?_approximately,
    Number.ofLiteral, h, Value.apply, Juxtaposition.mustMultiply, Value.call, found, marking,
    Value.expectNumber, Implementation.run, Except.mapError]

theorem result_resolve {env : Environment} (marks : env.registry.MarksApproximate)
    (name : String) :
    (env.resolve name).result =
      match env.meaning? name with
      | some v => .ok v
      | none => .error (.unboundName name) := by
  unfold resolve meaning? plainLookup
  rcases h : Builtin.find? env.mode name with _ | (v | digits)
  · rfl
  · rfl
  · obtain ⟨q, hq⟩ := Builtin.isSome_value?_of_find? h
    simp [result_constant marks name hq, Builtin.meaning?, hq]

theorem result_resolve_eq_ok_iff {env : Environment} (marks : env.registry.MarksApproximate)
    {name : String} {v : Value} :
    (env.resolve name).result = .ok v ↔ env.meaning? name = some v := by
  rw [result_resolve marks]
  cases env.meaning? name <;> simp

theorem result_resolve_eq_error_iff {env : Environment} (marks : env.registry.MarksApproximate)
    {name : String} {f : Failure} :
    (env.resolve name).result = .error f ↔ env.meaning? name = none ∧ f = .unboundName name := by
  rw [result_resolve marks]
  cases env.meaning? name <;> simp [eq_comm]

end Environment
end Calculator
