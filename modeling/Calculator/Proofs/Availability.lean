import Calculator.Proofs.Exactness
import Calculator.Proofs.Outcome
import Calculator.Proofs.Registry

/-! Sessions that take no function away. As long as the registry is never emptied, `approximately`
keeps its definition, and names are only bound to what trees evaluate to, every function that a
name stands for is registered and every constant has its value. So no call misses its function,
and what is held to be unable to fail does not fail. -/

namespace Calculator

/-- Neither a defect nor a function that is not there. -/
def Failure.IsExpected (f : Failure) : Prop :=
  f.family ≠ .internal ∧ ∀ name, f ≠ .unregisteredFunction name

theorem Registry.contains_iff {r : Registry} {name : String} :
    r.contains name = true ↔ name ∈ r.names := by
  rw [contains, find?, List.find?_isSome, names, List.mem_map]
  simp only [decide_eq_true_eq]

theorem Builtin.contains_of_find? {mode : Mode} {n name : String}
    (h : find? mode n = some (.value (.function name))) :
    Registry.builtin.contains name = true := by
  have listed : ∀ e ∈ table mode, ∀ v ∈ e.2.meaning?, v.kind = .function →
      v ∈ Registry.builtin.names.map Value.function := by
    cases mode <;> decide +kernel
  obtain ⟨other, registered, same⟩ :=
    List.mem_map.1 (listed _ (Bindings.mem_of_find? h) (.function name) rfl rfl)
  cases same
  exact Registry.contains_iff.2 registered

namespace Registry

variable {r : Registry}

theorem contains_register (d : Definition) {name : String} (h : r.contains name = true) :
    (r.register d).contains name = true := by
  have found := find?_registerIn r.definitions d name
  rw [contains, find?, register, found]
  split
  · rfl
  · exact h

theorem contains_registerAll (ds : List Definition) {name : String} (h : r.contains name = true) :
    (r.registerAll ds).contains name = true := by
  induction ds generalizing r with
  | nil => exact h
  | cons d rest ih => exact ih (contains_register d h)

theorem Follows.mem_of_find? {log : List Definition} (h : r.Follows log) {name : String}
    {d : Definition} (found : r.find? name = some d) : d ∈ log ∧ d.name = name := by
  rw [h.find?_eq, latest?] at found
  have named := List.find?_some found
  exact ⟨List.mem_reverse.1 (List.mem_of_find?_eq_some found), of_decide_eq_true named⟩

theorem Follows.marksApproximate {log : List Definition} (h : r.Follows log)
    (known : r.contains Builtin.approximately = true)
    (kept : ∀ d ∈ log, d.name = Builtin.approximately → d ∈ builtinDefinitions) :
    r.MarksApproximate := by
  obtain ⟨d, found⟩ := Option.isSome_iff_exists.1 known
  obtain ⟨logged, named⟩ := h.mem_of_find? found
  have marking : ∀ d ∈ builtinDefinitions,
      d.name = Builtin.approximately → d.implementation = .approximately := by decide
  exact ⟨d, found, marking d (kept d logged named) named⟩

end Registry

theorem Juxtaposition.of_result_eq_unregistered {r : Registry} {form : Juxtaposition} {v w : Value}
    {name : String} (h : (v.apply r form.mayMultiply form.mustMultiply w).result =
      .error (.unregisteredFunction name)) : v = .function name ∧ r.contains name = false := by
  cases v with
  | number x =>
    cases may : form.mayMultiply with
    | true =>
      simp only [Value.apply, may, if_true, Evaluation.result_bind, Evaluation.result_answer,
        Number.result_polled, ok_bind, Evaluation.result_pure, bind_eq_error_iff] at h
      obtain h | ⟨y, -, h⟩ := h
      · cases (Value.family_of_expectNumber_eq_error h).1
      · cases h
    | false =>
      simp only [Value.apply, may, Bool.false_eq_true, if_false, Evaluation.result_bind,
        Evaluation.result_answer, Evaluation.result_throw, bind_eq_error_iff,
        Number.render_eq_error_iff] at h
      obtain ⟨u, -, h⟩ | ⟨text, -, h⟩ := h <;> cases h
  | function other =>
    cases must : form.mustMultiply with
    | true => simp [Value.apply, must] at h
    | false =>
      simp only [Value.apply, must, Bool.false_eq_true, if_false, Evaluation.result_answer,
        Value.call] at h
      cases found : r.find? other with
      | none =>
        simp only [found] at h
        cases h
        exact ⟨rfl, by rw [Registry.contains, found]; rfl⟩
      | some d =>
        cases w with
        | number y =>
          simp only [found, Value.expectNumber, ok_bind] at h
          obtain family | ⟨u, missing, -⟩ := Implementation.chokes_of_run_eq_error h
          · cases family
          · cases missing
        | _ => simp [found, Value.expectNumber, Value.render] at h
  | _ =>
    simp only [Value.apply, Value.render, Evaluation.result_bind, Evaluation.result_answer,
      ok_bind, Evaluation.result_throw] at h
    split at h <;> cases h

namespace Environment

/-- Whether what names stand for can be used: functions be called, and constants be had. -/
structure IsEquipped (env : Environment) : Prop where
  marks : env.registry.MarksApproximate
  registered : ∀ n name, env.meaning? n = some (.function name) →
    env.registry.contains name = true

end Environment

namespace Tree

variable {env : Environment}

theorem contains_of_result (equipped : env.IsEquipped) {t : Tree} {name : String}
    (h : (t.evaluate env).result = .ok (.function name)) : env.registry.contains name = true := by
  obtain ⟨n, rfl⟩ := exists_identifier_of_result h
  rw [result_identifier, Environment.result_resolve_eq_ok_iff equipped.marks] at h
  exact equipped.registered n name h

theorem operand_ne_unregistered {t : Tree} {name : String}
    (ih : (t.evaluate env).result ≠ .error (.unregisteredFunction name)) :
    t.operand env ≠ .error (.unregisteredFunction name) := by
  intro h
  obtain h | ⟨v, -, refused⟩ := operand_eq_error_iff.1 h
  · exact ih h
  · cases (Value.family_of_expectNumber_eq_error refused).1

theorem result_ne_unregistered (equipped : env.IsEquipped) (t : Tree) (name : String) :
    (t.evaluate env).result ≠ .error (.unregisteredFunction name) := by
  induction t with
  | literal t =>
    intro h
    cases (result_literal_eq_error_iff.1 h).2
  | identifier n =>
    intro h
    rw [result_identifier, Environment.result_resolve_eq_error_iff equipped.marks] at h
    cases h.2
  | unary op t ih =>
    intro h
    obtain h | ⟨x, -, h⟩ := result_unary_eq_error_iff.1 h
    · exact operand_ne_unregistered ih h
    · cases Unary.family_of_run_eq_error h
  | binary op l r ihl ihr =>
    intro h
    cases op with
    | arithmetic op =>
      obtain h | ⟨x, -, h | ⟨y, -, h⟩⟩ := result_arithmetic_eq_error_iff.1 h
      · exact operand_ne_unregistered ihl h
      · exact operand_ne_unregistered ihr h
      · cases Arithmetic.family_of_run_eq_error h
    | juxtaposition form =>
      obtain h | ⟨v, left, h | ⟨w, -, h⟩⟩ := result_juxtaposition_eq_error_iff.1 h
      · exact ihl h
      · exact ihr h
      · -- the left side is a function, so it is the value of a name
        obtain ⟨rfl, missing⟩ := Juxtaposition.of_result_eq_unregistered h
        rw [contains_of_result equipped left] at missing
        cases missing
    | conversion =>
      obtain h | ⟨target, -, ⟨-, h⟩ | ⟨-, h | ⟨v, -, h⟩⟩⟩ := result_conversion_eq_error_iff.1 h
      · exact ihr h
      · cases h
      · exact ihl h
      · cases (Value.family_of_conversionSource_eq_error h).1

theorem family_ne_internal (marks : env.registry.MarksApproximate) {t : Tree} {f : Failure}
    (h : (t.evaluate env).result = .error f) : f.family ≠ .internal := by
  obtain domain | ⟨u, rfl, -⟩ := failsWith_of_result_eq_error marks h
  · intro defect
    simp [Failure.isDomain, defect] at domain
  · intro defect
    cases u <;> cases defect

end Tree

namespace Session

/-- Steps that take no function away from the names that stand for it: they do not empty the
registry, and bind names to what trees evaluate to. -/
def Step.keepsFunctions : Step → Bool
  | .clear => false
  | .setFunction _ _ _ => false
  | _ => true

structure IsEquipped (s : Session) : Prop where
  marks : s.registry.MarksApproximate
  builtins : ∀ name, Registry.builtin.contains name = true → s.registry.contains name = true
  bound : ∀ i n name, s.local? i n = some (.function name) → s.registry.contains name = true

variable {s : Session}

theorem IsEquipped.environment (h : s.IsEquipped) (i : Nat) (mode : Mode) :
    (s.environment i mode).IsEquipped where
  marks := h.marks
  registered n name meant := by
    simp only [Environment.meaning?, Session.environment] at meant
    cases found : Builtin.find? mode n with
    | some b =>
      simp only [found] at meant
      cases b with
      | value v =>
        cases meant
        exact h.builtins name (Builtin.contains_of_find? found)
      | constant digits => simp [Builtin.meaning?] at meant
    | none =>
      simp only [found, get?_scope] at meant
      obtain ⟨j, -, here⟩ := List.exists_of_findSome?_eq_some meant
      exact h.bound j n name here

theorem evaluateIn_eq_iff {i : Nat} {tree : Data} {mode : Mode} {r : Except Failure Value} :
    s.evaluateIn i tree mode = r.mapError .evaluation ↔
      ∃ t, Tree.ofData tree = .ok t ∧ (t.evaluate (s.environment i mode)).result = r := by
  unfold evaluateIn environment
  cases Tree.ofData tree with
  | error m => cases r <;> simp [Except.mapError]
  | ok t =>
    simp only [Except.ok.injEq, exists_eq_left']
    cases (Tree.evaluate ⟨mode, s.registry, s.scope i⟩ t).result <;>
      cases r <;> simp [Except.mapError]

theorem contains_registry_after {step : Step} (keeps : step.keepsFunctions = true) {name : String}
    (h : s.registry.contains name = true) : (s.after step).registry.contains name = true := by
  rw [registry_after]
  cases step with
  | clear => cases keeps
  | registerAll => exact Registry.contains_registerAll _ h
  | «alias» name description category source examples =>
    simp only
    split
    · exact Registry.contains_register _ h
    · exact h
  | _ => exact h

theorem record_subset {step : Step} (keeps : step.keepsFunctions = true) (log : List Definition) :
    log ⊆ record log step := by
  cases step with
  | clear => cases keeps
  | registerAll => exact List.subset_append_left _ _
  | «alias» name description category source examples =>
    simp only [record]
    split
    · exact List.subset_append_left _ _
    · exact List.Subset.refl _
  | _ => exact List.Subset.refl _

theorem IsEquipped.contains_of_stored? (h : s.IsEquipped) {step : Step}
    (keeps : step.keepsFunctions = true) {i : Nat} {n name : String}
    (stored : s.stored? i n step = some (.function name)) : s.registry.contains name = true := by
  cases step with
  | set j m tree mode =>
    simp only [stored?] at stored
    split at stored
    · cases evaluated : s.evaluateIn j tree mode with
      | ok v =>
        simp only [evaluated, Except.toOption, Option.some.injEq] at stored
        obtain ⟨t, -, value⟩ := (evaluateIn_eq_iff (r := .ok _)).1 (stored ▸ evaluated)
        exact Tree.contains_of_result (h.environment j mode) value
      | error r => simp [evaluated, Except.toOption] at stored
    · cases stored
  | setFunction j m function => cases keeps
  | _ => cases stored

theorem IsEquipped.after (h : s.IsEquipped) {step : Step} (keeps : step.keepsFunctions = true)
    (marks : (s.after step).registry.MarksApproximate) : (s.after step).IsEquipped where
  marks := marks
  builtins name builtin := contains_registry_after keeps (h.builtins name builtin)
  bound i n name here := by
    refine contains_registry_after keeps ?_
    rw [local?_after] at here
    cases stored : s.stored? i n step with
    | some v =>
      rw [stored, Option.some_or] at here
      exact h.contains_of_stored? keeps (stored.trans here)
    | none =>
      rw [stored, Option.none_or] at here
      exact h.bound i n name here

theorem isEquipped_run {steps : List Step} (keeps : ∀ step ∈ steps, step.keepsFunctions = true)
    (kept : ∀ d ∈ registrations steps,
      d.name = Builtin.approximately → d ∈ Registry.builtinDefinitions) :
    (run steps).IsEquipped := by
  induction steps using List.reverseRecOn with
  | nil =>
    refine ⟨Registry.builtin_marksApproximate, fun _ => id, fun i n name here => ?_⟩
    have nothing : initial.local? i n = none := by cases i <;> rfl
    rw [run, List.foldl_nil, nothing] at here
    cases here
  | append_singleton steps step ih =>
    have last := keeps step (List.mem_append_right _ (List.mem_singleton_self step))
    have logged : registrations (steps ++ [step]) = record (registrations steps) step :=
      List.foldl_append
    -- a step only adds registrations, so those before it are among those after it
    have before : (run steps).IsEquipped := by
      refine ih (fun step listed => keeps step (List.mem_append_left _ listed)) fun d listed => ?_
      exact kept d (logged ▸ record_subset last _ listed)
    have follows := follows_run (steps ++ [step])
    rw [run_append_singleton] at follows ⊢
    have known := contains_registry_after last (before.builtins Builtin.approximately (by decide))
    exact before.after last (follows.marksApproximate known kept)

theorem of_step_eq_error {step : Step} {f : Failure} (h : s.step step = .error (.evaluation f)) :
    (∃ i mode t, (Tree.evaluate (s.environment i mode) t).result = .error f) ∨
      ∃ name, f = .unboundName name := by
  have evaluation (i : Nat) (tree : Data) (mode : Mode) {reply : Value → Session × Reply}
      (h : (s.evaluateIn i tree mode).map reply = .error (.evaluation f)) :
      ∃ i mode t, (Tree.evaluate (s.environment i mode) t).result = .error f := by
    cases evaluated : s.evaluateIn i tree mode with
    | ok v => simp [evaluated, Except.map] at h
    | error r =>
      simp only [evaluated, Except.map, Except.error.injEq] at h
      obtain ⟨t, -, failed⟩ := (evaluateIn_eq_iff (r := .error _)).1 (h ▸ evaluated)
      exact ⟨i, mode, t, failed⟩
  cases step with
  | set i name tree mode => exact .inl (evaluation i tree mode h)
  | evaluate i tree mode => exact .inl (evaluation i tree mode h)
  | get i name =>
    simp only [Session.step, Scope.get] at h
    cases bound : (s.scope i).get? name with
    | some v => simp [bound] at h
    | none =>
      simp only [bound, Except.error.injEq, Refusal.evaluation.injEq] at h
      exact .inr ⟨name, h.symm⟩
  | «alias» name description category source examples =>
    simp only [Session.step, findCategory, find] at h
    cases known : Category.ofText? category with
    | none =>
      rw [known] at h
      cases h
    | some c =>
      rw [known] at h
      cases found : s.registry.find? source <;> simp only [found] at h <;> cases h
  | lookup name =>
    simp only [Session.step, find] at h
    cases found : s.registry.find? name <;> rw [found] at h <;> cases h
  | category name =>
    simp only [Session.step, findCategory] at h
    cases found : Category.ofText? name <;> rw [found] at h <;> cases h
  | _ => cases h

theorem IsEquipped.isExpected (h : s.IsEquipped) {i : Nat} {mode : Mode} {t : Tree} {f : Failure}
    (failed : (t.evaluate (s.environment i mode)).result = .error f) : f.IsExpected := by
  have equipped := h.environment i mode
  refine ⟨Tree.family_ne_internal equipped.marks failed, fun name missing => ?_⟩
  exact Tree.result_ne_unregistered equipped t name (missing ▸ failed)

/-- In a history that takes no function away and registers no other one as `approximately`, no
step and no evaluation reports a defect or a function that is not there, in whatever scope and
mode, and constants have their values. -/
theorem functions_available (steps : List Step)
    (keeps : ∀ step ∈ steps, step.keepsFunctions = true)
    (kept : ∀ d ∈ registrations steps,
      d.name = Builtin.approximately → d ∈ Registry.builtinDefinitions) :
    (∀ step f, (run steps).step step = .error (.evaluation f) → f.IsExpected) ∧
    (∀ (t : Tree) i mode fires f,
      ((t.evaluate ((run steps).environment i mode)).computation.run fires).1 =
        some (.error f) → f.IsExpected) ∧
    (∀ i mode name digits, Builtin.find? mode name = some (.constant digits) →
      ∃ q, Literal.value? digits = some q ∧
        (((run steps).environment i mode).resolve name).result =
          .ok (.number (Number.ofRat q).approximately)) := by
  have equipped := isEquipped_run keeps kept
  refine ⟨fun step f failed => ?_, fun t i mode fires f ran => ?_,
    fun i mode name digits found => ?_⟩
  · obtain ⟨i, mode, t, failed⟩ | ⟨name, rfl⟩ := of_step_eq_error failed
    · exact equipped.isExpected failed
    · constructor
      · intro defect
        cases defect
      · intro other missing
        cases missing
  · exact equipped.isExpected ((Evaluation.run_eq_some_iff _ _ _).1 ran).1.symm
  · obtain ⟨q, read⟩ := Builtin.isSome_value?_of_find? found
    refine ⟨q, read, ?_⟩
    rw [Environment.result_resolve_eq_ok_iff equipped.marks]
    have here : Builtin.find? ((run steps).environment i mode).mode name =
      some (.constant digits) := found
    simp only [Environment.meaning?, here, Builtin.meaning?, read, Option.map_some]

/-- `f` means a function under a name that is given to another one later, and `approximately` is
bound in the scope, and refused as the name of an alias. -/
theorem functions_available_renamed :
    let steps : List Step :=
      [.child 0, .set 1 "f" (.scalar (.text "sqrt")) .compatibility,
        .set 1 "approximately" (.scalar (.int 2)) .standard,
        .alias "sqrt" "Display base" "presentation" "base" [],
        .alias "approximately" "" "presentation" "none" []]
    let tree : Data := .mapping [(.text "call", .list [.scalar (.text "f"), .scalar (.text "f")])]
    let step : Step := .evaluate 1 tree .standard
    let t := Tree.binary (.juxtaposition .call) (.identifier "f") (.literal "37")
    let env := (run steps).environment 1 .compatibility
    (∀ step ∈ steps, step.keepsFunctions = true) ∧
    (∀ d ∈ registrations steps,
      d.name = Builtin.approximately → d ∈ Registry.builtinDefinitions) ∧
    (run steps).step step = .error (.evaluation (.functionPassed "sqrt" "sqrt")) ∧
    (Failure.functionPassed "sqrt" "sqrt").IsExpected ∧
    ((t.evaluate env).computation.run (Polling.after 3)).1 =
      some (.error (.radixOutOfRange "37")) ∧
    (Failure.radixOutOfRange "37").IsExpected ∧
    ∃ q, (((run steps).environment 1 .standard).resolve "pi").result =
      .ok (.number (Number.ofRat q).approximately) := by
  intro steps tree step t env
  have keeps : ∀ step ∈ steps, step.keepsFunctions = true := by decide
  have kept : ∀ d ∈ registrations steps,
      d.name = Builtin.approximately → d ∈ Registry.builtinDefinitions := by decide +kernel
  obtain ⟨answered, evaluated, constants⟩ := functions_available steps keeps kept
  have passed : (Tree.evaluate ((run steps).environment 1 .standard) (.binary (.juxtaposition .call)
      (.identifier "f") (.identifier "f"))).result = .error (.functionPassed "sqrt" "sqrt") := by
    decide +kernel
  have refused : (run steps).step step = .error (.evaluation (.functionPassed "sqrt" "sqrt")) := by
    rw [Session.step, evaluateIn_eq_iff.2 ⟨_, rfl, passed⟩]
    rfl
  have failed : ((t.evaluate env).computation.run (Polling.after 3)).1 =
      some (.error (.radixOutOfRange "37")) := by decide +kernel
  obtain ⟨q, -, value⟩ := constants 1 .standard "pi" _ rfl
  exact ⟨keeps, kept, refused, answered step _ refused, failed,
    evaluated t 1 .compatibility _ _ failed, q, value⟩

end Session
end Calculator
