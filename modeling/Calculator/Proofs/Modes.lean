import Calculator.Proofs.Scope

/-! The two modes. They differ in which names are builtins and in nothing else: a name that both
tables list means the same function in both, and a name that neither lists is looked up in the
scope. So a tree with no other names is evaluated alike, poll for poll. -/

namespace Calculator

namespace Builtin

theorem find?_eq_of_mem {name : String} (listed : name ∈ Bindings.names (table .compatibility)) :
    find? .compatibility name = find? .standard name := by
  have each : ∀ n ∈ Bindings.names (table .compatibility),
      find? .compatibility n = find? .standard n := by decide +kernel
  exact each name listed

theorem find?_eq_of_common {name : String}
    (common : name ∈ names .standard ↔ name ∈ names .compatibility) :
    find? .compatibility name = find? .standard name := by
  by_cases listed : name ∈ names .compatibility
  · refine find?_eq_of_mem ?_
    rwa [names, Text.sort, List.mem_mergeSort] at listed
  · rw [find?_eq_none_iff.2 listed, find?_eq_none_iff.2 fun standard => listed (common.1 standard)]

end Builtin

namespace Environment

theorem resolve_eq_of_common {name : String}
    (common : name ∈ Builtin.names .standard ↔ name ∈ Builtin.names .compatibility)
    (registry : Registry) (s : Scope) :
    resolve ⟨.compatibility, registry, s⟩ name = resolve ⟨.standard, registry, s⟩ name := by
  have same := Builtin.find?_eq_of_common common
  -- the evaluation behind a constant is in the standard mode anyway
  have constants : constant ⟨.compatibility, registry, s⟩ = constant ⟨.standard, registry, s⟩ := rfl
  simp only [resolve, plainLookup, same, constants]

end Environment

namespace Tree

/-- A tree whose names are builtins of both modes or of neither has the same answer in both, with
the same polls under every interrupt. -/
theorem run_eq_in_both_modes (registry : Registry) (s : Scope) (fires : Nat → Bool) (t : Tree)
    (common : ∀ n ∈ t.identifiers,
      n ∈ Builtin.names .standard ↔ n ∈ Builtin.names .compatibility) :
    (t.evaluate ⟨.compatibility, registry, s⟩).computation.run fires =
      (t.evaluate ⟨.standard, registry, s⟩).computation.run fires := by
  have same : t.evaluate ⟨.compatibility, registry, s⟩ = t.evaluate ⟨.standard, registry, s⟩ :=
    evaluateWith_congr registry fun n hn =>
      Environment.resolve_eq_of_common (common n hn) registry s
  rw [same]

theorem run_eq_in_both_modes_sqrt_x :
    let t := binary (.juxtaposition .call) (identifier "sqrt")
      (binary (.juxtaposition .implicit) (identifier "approx.") (identifier "x"))
    let s : Scope := ⟨[⟨[("x", .number (.ofInt 9))]⟩]⟩
    (∀ n ∈ t.identifiers, n ∈ Builtin.names .standard ↔ n ∈ Builtin.names .compatibility) ∧
    (t.evaluate ⟨.compatibility, .builtin, s⟩).computation.run (Polling.after 4) =
      (t.evaluate ⟨.standard, .builtin, s⟩).computation.run (Polling.after 4) ∧
    (t.evaluate ⟨.compatibility, .builtin, s⟩).computation.run (Polling.after 5) =
      (t.evaluate ⟨.standard, .builtin, s⟩).computation.run (Polling.after 5) := by
  intro t s
  have common : ∀ n ∈ t.identifiers,
      n ∈ Builtin.names .standard ↔ n ∈ Builtin.names .compatibility := by
    intro n hn
    rw [← Decidable.not_iff_not, ← Builtin.find?_eq_none_iff, ← Builtin.find?_eq_none_iff]
    have each : ∀ n ∈ t.identifiers,
        Builtin.find? .standard n = none ↔ Builtin.find? .compatibility n = none := by
      decide +kernel
    exact each n hn
  exact ⟨common, run_eq_in_both_modes .builtin s _ t common,
    run_eq_in_both_modes .builtin s _ t common⟩

end Tree
end Calculator
