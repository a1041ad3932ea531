import Calculator.Evaluation.Tree
import Calculator.Registry.Builtin

/-! What an evaluation takes from its scope: the values of the names in the tree that are no
builtins of the mode, and nothing else. A binding of a builtin name is never looked at, not
even by the evaluation behind a constant, which looks up `approximately` in the same scope. -/

namespace Calculator

namespace Bindings

variable {α : Type}

theorem find?_eq_none_iff {name : String} {entries : List (String × α)} :
    find? name entries = none ↔ name ∉ names entries := by
  induction entries with
  | nil => simp [find?, names]
  | cons entry rest ih =>
    obtain ⟨other, a⟩ := entry
    by_cases same : other = name
    · simp [find?, names, same]
    · simp [find?, names, same, Ne.symm same] at ih ⊢
      exact ih

theorem find?_set_of_ne {name other : String} (different : other ≠ name) (a : α)
    (entries : List (String × α)) : find? name (set other a entries) = find? name entries := by
  induction entries with
  | nil => simp [set, find?, different]
  | cons entry rest ih =>
    obtain ⟨first, b⟩ := entry
    by_cases here : first = other
    · simp [set, find?, here, different]
    · simp [set, find?, here, ih]

theorem find?_set_self (name : String) (a : α) (entries : List (String × α)) :
    find? name (set name a entries) = some a := by
  induction entries with
  | nil => simp [set, find?]
  | cons entry rest ih =>
    obtain ⟨first, b⟩ := entry
    by_cases here : first = name
    · simp [set, find?, here]
    · simp [set, find?, here, ih]

end Bindings

theorem Builtin.find?_eq_none_iff {mode : Mode} {name : String} :
    find? mode name = none ↔ name ∉ names mode := by
  rw [find?, Bindings.find?_eq_none_iff, names, Text.sort, List.mem_mergeSort]

theorem Builtin.mem_names_of_find? {mode : Mode} {name : String} {b : Builtin}
    (h : find? mode name = some b) : name ∈ names mode := by
  apply Decidable.byContradiction
  intro free
  rw [find?_eq_none_iff.2 free] at h
  cases h

theorem Builtin.find?_approximately :
    find? .standard approximately = some (.value (.function approximately)) := by decide

theorem Scope.get?_set_of_ne {name other : String} (different : other ≠ name) (v : Value)
    (inner outer : List Frame) (f : Frame) :
    get? ⟨inner ++ f.set other v :: outer⟩ name = get? ⟨inner ++ f :: outer⟩ name := by
  change getIn name _ = getIn name _
  induction inner with
  | nil =>
    have here : (f.set other v).get? name = f.get? name :=
      Bindings.find?_set_of_ne different v f.bindings
    simp only [List.nil_append, getIn, here]
  | cons g inner ih => simp only [List.cons_append, getIn, ih]

namespace Tree

def identifiers : Tree → List String
  | literal _ => []
  | identifier n => [n]
  | unary _ t => t.identifiers
  | binary _ l r => l.identifiers ++ r.identifiers

theorem evaluateWith_congr (registry : Registry) {lookup lookup' : String → Evaluation Value}
    {t : Tree} (agree : ∀ n ∈ t.identifiers, lookup n = lookup' n) :
    t.evaluateWith registry lookup = t.evaluateWith registry lookup' := by
  induction t with
  | literal t => rfl
  | identifier n =>
    have here := agree n (List.mem_singleton_self n)
    simp only [evaluateWith, here]
  | unary op t ih => simp only [evaluateWith, ih agree]
  | binary op l r ihl ihr =>
    have left := ihl fun n hn => agree n (List.mem_append_left _ hn)
    have right := ihr fun n hn => agree n (List.mem_append_right _ hn)
    cases op <;> simp only [evaluateWith, left, right]

end Tree

namespace Environment

theorem constant_eq_of_scopes (mode : Mode) (registry : Registry) (s s' : Scope)
    (name digits : String) :
    constant ⟨mode, registry, s⟩ name digits = constant ⟨mode, registry, s'⟩ name digits := by
  have same : (constantTree digits).evaluateWith registry (plainLookup ⟨.standard, registry, s⟩) =
      (constantTree digits).evaluateWith registry (plainLookup ⟨.standard, registry, s'⟩) := by
    apply Tree.evaluateWith_congr
    intro n hn
    have only : n = Builtin.approximately := by simpa [constantTree, Tree.identifiers] using hn
    simp only [only, plainLookup, Builtin.find?_approximately]
  simp only [constant, same]

theorem resolve_eq_of_agree {mode : Mode} {registry : Registry} {s s' : Scope} {name : String}
    (agree : name ∉ Builtin.names mode → s.get? name = s'.get? name) :
    resolve ⟨mode, registry, s⟩ name = resolve ⟨mode, registry, s'⟩ name := by
  unfold resolve plainLookup
  rcases meant : Builtin.find? mode name with _ | (v | digits)
  · have bound := agree (Builtin.find?_eq_none_iff.1 meant)
    simp only [Scope.get, bound]
  · rfl
  · exact constant_eq_of_scopes mode registry s s' name digits

end Environment

namespace Tree

theorem evaluate_eq_of_agree {mode : Mode} {registry : Registry} {s s' : Scope} {t : Tree}
    (agree : ∀ n ∈ t.identifiers, n ∉ Builtin.names mode → s.get? n = s'.get? n) :
    t.evaluate ⟨mode, registry, s⟩ = t.evaluate ⟨mode, registry, s'⟩ :=
  evaluateWith_congr registry fun n hn => Environment.resolve_eq_of_agree (agree n hn)

/-- Two scopes that agree on the names of a tree, builtins apart, give it the same answer with
the same polls under every interrupt. In particular it makes no difference what a builtin name
is bound to in any frame. -/
theorem run_eq_of_scopes_agree (mode : Mode) (registry : Registry) (fires : Nat → Bool) (t : Tree) :
    (∀ s s' : Scope,
      (∀ n ∈ t.identifiers, n ∉ Builtin.names mode → s.get? n = s'.get? n) →
      (t.evaluate ⟨mode, registry, s⟩).computation.run fires =
        (t.evaluate ⟨mode, registry, s'⟩).computation.run fires) ∧
    (∀ (name : String) (v : Value) (inner outer : List Frame) (f : Frame),
      name ∈ Builtin.names mode →
      (t.evaluate ⟨mode, registry, ⟨inner ++ f.set name v :: outer⟩⟩).computation.run fires =
        (t.evaluate ⟨mode, registry, ⟨inner ++ f :: outer⟩⟩).computation.run fires) := by
  constructor
  · intro s s' agree
    rw [evaluate_eq_of_agree agree]
  · intro name v inner outer f builtin
    have agree : ∀ n ∈ t.identifiers, n ∉ Builtin.names mode →
        Scope.get? ⟨inner ++ f.set name v :: outer⟩ n = Scope.get? ⟨inner ++ f :: outer⟩ n := by
      intro n _ free
      have different : name ≠ n := fun same => free (same ▸ builtin)
      exact Scope.get?_set_of_ne different v inner outer f
    rw [evaluate_eq_of_agree agree]

theorem run_eq_of_scopes_agree_pi_add_x :
    let t := binary (.arithmetic .add) (identifier "pi") (identifier "x")
    let bound : Frame := ⟨[("x", .number (.ofInt 2))]⟩
    let s : Scope := ⟨[⟨[("pi", .precisionMarker), ("approximately", .number .i)]⟩, bound]⟩
    (∀ n ∈ t.identifiers, n ∉ Builtin.names .standard → s.get? n = Scope.get? ⟨[bound]⟩ n) ∧
    "approximately" ∈ Builtin.names .standard ∧
    (t.evaluate ⟨.standard, .builtin, s⟩).computation.run (Polling.after 5) =
      (t.evaluate ⟨.standard, .builtin, ⟨[bound]⟩⟩).computation.run (Polling.after 5) ∧
    (t.evaluate ⟨.standard, .builtin, ⟨[bound.set "approximately" (.number .i)]⟩⟩).computation.run
        (Polling.after 5) =
      (t.evaluate ⟨.standard, .builtin, ⟨[bound]⟩⟩).computation.run (Polling.after 5) := by
  intro t bound s
  have listed (name : String) (known : Builtin.find? .standard name ≠ none) :
      name ∈ Builtin.names .standard := by
    rwa [ne_eq, Builtin.find?_eq_none_iff, Decidable.not_not] at known
  have agree : ∀ n ∈ t.identifiers, n ∉ Builtin.names .standard →
      s.get? n = Scope.get? ⟨[bound]⟩ n := by
    intro n hn free
    have either : n = "pi" ∨ n = "x" := by simpa [t, identifiers] using hn
    rcases either with rfl | rfl
    · exact absurd (listed "pi" (by decide)) free
    · rfl
  have builtin := listed "approximately" (by decide)
  have independent := run_eq_of_scopes_agree .standard .builtin (Polling.after 5) t
  exact ⟨agree, builtin, independent.1 s ⟨[bound]⟩ agree,
    independent.2 "approximately" (.number .i) [] [] bound builtin⟩

end Tree
end Calculator
