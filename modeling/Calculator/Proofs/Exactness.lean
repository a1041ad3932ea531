import Calculator.Proofs.Kind
import Calculator.Proofs.Operation
import Calculator.Proofs.Session

/-! Exactness over whole runs. Evaluation makes its numbers by operations on numbers, of the parts
of the tree that are no conversion targets, and a session binds what evaluation makes; so the
mark of approximation is carried from every number to all that are computed from it, through
trees and from binding to binding. -/

namespace Calculator

open Relation Operation

/-- What the mark and the base of a number stand for: without the mark both parts are rational,
and there are digits for the base. -/
def Number.IsSound (x : Number) : Prop :=
  (x.approx = false → ∃ z : Gaussian, x.value = .exact z ∧
    Component.both x.value = (.rational z.re, .rational z.im)) ∧
  2 ≤ x.base.value ∧ x.base.value ≤ 36

theorem Number.isSound (x : Number) : x.IsSound := by
  refine ⟨fun unmarked => ?_, x.base.two_le, x.base.le_maximum⟩
  have exact := x.exact_of_not_approx unmarked
  cases value : x.value with
  | exact z => exact ⟨z, rfl, rfl⟩
  | _ => simp [value, Closed.isExact, Closed.gaussian?] at exact

theorem NamedFunction.ofName?_name (f : NamedFunction) : ofName? f.name = some f := by
  cases f with
  | elementary f => cases f <;> decide
  | _ => decide

namespace Operation

theorem feeds_of_unary {op : Unary} {x y : Number} (h : (op.run x).result = .ok y) :
    ReflTransGen Feeds x y := by
  cases op with
  | parens => cases h; exact .refl
  | plus => cases h; exact .refl
  | negate => exact .single ⟨.negate x, h, List.mem_singleton_self x⟩
  | reciprocal =>
    exact .single ⟨.arithmetic .div (.ofInt 1) x, h, List.mem_cons_of_mem _ List.mem_cons_self⟩
  | factorial => exact .single ⟨.factorial x, h, List.mem_singleton_self x⟩

theorem feeds_of_implementation {i : Implementation} {x y : Number}
    (h : i.run x = .ok (.number y)) : Feeds x y := by
  cases i with
  | named f =>
    simp only [Implementation.run, bind_eq_ok_iff, pure_eq_ok, Except.ok.injEq,
      Value.number.injEq] at h
    obtain ⟨z, applied, rfl⟩ := h
    refine ⟨.function f.name x, ?_, List.mem_singleton_self x⟩
    simpa [evaluate, Number.applyFunction, Number.applyFunctionIn, Number.applyNamed,
      f.ofName?_name] using applied
  | approximately =>
    cases h
    exact ⟨.approximately x, rfl, List.mem_singleton_self x⟩
  | base =>
    simp [Implementation.run, bind_eq_ok_iff] at h

theorem feeds_of_conversion (x : Number) (target : Value) :
    ReflTransGen Feeds x (Value.present x target) := by
  cases target with
  | number y => exact .refl
  | function name => exact .refl
  | format s => exact .single ⟨.restyle s x, rfl, List.mem_singleton_self x⟩
  | precisionMarker =>
    exact .single ⟨.restyle (.digits Value.markerDigits) x, rfl, List.mem_singleton_self x⟩
  | base b =>
    refine .single ⟨.rebase b.value x, ?_, List.mem_singleton_self x⟩
    have radix : Radix.ofInt b.value = .ok b := by
      have range : 2 ≤ (b.value : Int) ∧ (b.value : Int) ≤ 36 := by
        have two_le := b.two_le
        have le_maximum := b.le_maximum
        omega
      simp [Radix.ofInt, Radix.ofInt?, range]
    simp [evaluate, radix, Except.map, Value.present]

end Operation

namespace Tree

/-- The parts of a tree that its value is computed from: operands, and operands of these, but
nothing in the target of a conversion. -/
inductive Contributes : Tree → Tree → Prop
  | here (t : Tree) : Contributes t t
  | operand {op : Unary} {t s : Tree} : Contributes t s → Contributes (unary op t) s
  | left {op : Binary} {l r s : Tree} : Contributes l s → Contributes (binary op l r) s
  | right {op : Binary} {l r s : Tree} :
    op ≠ .conversion → Contributes r s → Contributes (binary op l r) s

variable {env : Environment}

theorem Contributes.result_of_function {t s : Tree} {name : String} (h : t.Contributes s)
    (value : (t.evaluate env).result = .ok (.function name)) : s = t := by
  obtain ⟨n, rfl⟩ := exists_identifier_of_result value
  cases h
  rfl

theorem Contributes.reflTransGen {t s : Tree} {x y : Number} (h : t.Contributes s)
    (whole : (t.evaluate env).result = .ok (.number x))
    (part : (s.evaluate env).result = .ok (.number y)) : ReflTransGen Feeds y x := by
  induction h generalizing x with
  | here t =>
    rw [whole] at part
    cases part
    exact .refl
  | operand _ ih =>
    obtain ⟨z, w, inner, ran, value⟩ := result_unary_eq_ok_iff.1 whole
    cases value
    exact (ih inner part).trans (feeds_of_unary ran)
  | @left op l r s inside ih =>
    cases op with
    | arithmetic op =>
      obtain ⟨z, w, c, left, right, ran, value⟩ := result_arithmetic_eq_ok_iff.1 whole
      cases value
      exact (ih left part).tail ⟨.arithmetic op z w, ran, List.mem_cons_self⟩
    | juxtaposition form =>
      obtain ⟨v, w, left, right, applied⟩ := result_juxtaposition_eq_ok_iff.1 whole
      obtain ⟨-, z, c, rfl, rfl, value⟩ | ⟨-, name, d, c, rfl, -, rfl, -⟩ :=
        Juxtaposition.result_eq_ok_iff.1 applied
      · cases value
        exact (ih left part).tail ⟨.arithmetic .mul z c, rfl, List.mem_cons_self⟩
      · -- the left side is the function itself, which is no number
        rw [inside.result_of_function left, left] at part
        cases part
    | conversion =>
      obtain ⟨target, z, -, -, left, value⟩ := result_conversion_eq_ok_iff.1 whole
      cases value
      exact (ih left part).trans (feeds_of_conversion z target)
  | @right op l r s proper _ ih =>
    cases op with
    | arithmetic op =>
      obtain ⟨z, w, c, left, right, ran, value⟩ := result_arithmetic_eq_ok_iff.1 whole
      cases value
      exact (ih right part).tail
        ⟨.arithmetic op z w, ran, List.mem_cons_of_mem _ List.mem_cons_self⟩
    | juxtaposition form =>
      obtain ⟨v, w, left, right, applied⟩ := result_juxtaposition_eq_ok_iff.1 whole
      obtain ⟨-, z, c, rfl, rfl, value⟩ | ⟨-, name, d, c, rfl, -, rfl, ran⟩ :=
        Juxtaposition.result_eq_ok_iff.1 applied
      · cases value
        exact (ih right part).tail
          ⟨.arithmetic .mul z c, rfl, List.mem_cons_of_mem _ List.mem_cons_self⟩
      · exact (ih right part).tail (feeds_of_implementation ran)
    | conversion => exact absurd rfl proper

end Tree

namespace Session

/-- Where evaluation takes place when a step of a session evaluates. -/
def environment (s : Session) (i : Nat) (mode : Mode) : Environment :=
  ⟨mode, s.registry, s.scope i⟩

/-- After a history, `y` is one of the numbers that the number bound to a name in scope `i` was
computed from, in the step that bound it or in one that bound a name this step looked up. -/
inductive Source : List Step → Nat → String → Number → Prop
  | kept {steps : List Step} {step : Step} {i : Nat} {name : String} {y : Number} :
    (run steps).stored? i name step = none → Source steps i name y →
      Source (steps ++ [step]) i name y
  | part {steps : List Step} {i : Nat} {name : String} {tree : Data} {mode : Mode} {t s : Tree}
    {x y : Number} :
    Tree.ofData tree = .ok t →
      (run steps).stored? i name (.set i name tree mode) = some (.number x) →
      t.Contributes s → (s.evaluate ((run steps).environment i mode)).result = .ok (.number y) →
      Source (steps ++ [.set i name tree mode]) i name y
  | earlier {steps : List Step} {i j : Nat} {name other : String} {tree : Data} {mode : Mode}
    {t : Tree} {x y : Number} :
    Tree.ofData tree = .ok t →
      (run steps).stored? i name (.set i name tree mode) = some (.number x) →
      t.Contributes (.identifier other) → other ∉ Builtin.names mode →
      ((outward (parents steps) i).find? fun k => (latest? initial k other steps).isSome) = some j →
      Source steps j other y → Source (steps ++ [.set i name tree mode]) i name y

theorem result_of_stored? {s : Session} {i : Nat} {name : String} {tree : Data} {mode : Mode}
    {t : Tree} {v : Value} (read : Tree.ofData tree = .ok t)
    (stored : s.stored? i name (.set i name tree mode) = some v) :
    (t.evaluate (s.environment i mode)).result = .ok v := by
  simp only [stored?, true_and, evaluateIn, read] at stored
  change (t.evaluate ⟨mode, s.registry, s.scope i⟩).result = .ok v
  split at stored
  · cases answer : (t.evaluate ⟨mode, s.registry, s.scope i⟩).result with
    | ok w => simpa [answer, Except.toOption] using stored
    | error f => simp [answer, Except.toOption] at stored
  · cases stored

theorem result_identifier_run {steps : List Step} {i j : Nat} {name : String} {mode : Mode}
    (free : name ∉ Builtin.names mode)
    (first : ((outward (parents steps) i).find? fun k => (latest? initial k name steps).isSome) =
      some j) {v : Value} (bound : latest? initial j name steps = some v) :
    ((Tree.identifier name).evaluate ((run steps).environment i mode)).result = .ok v := by
  have recorded : recorded? steps i name = some v := by
    obtain ⟨-, inner, outer, split, unbound⟩ := List.find?_eq_some_iff_append.1 first
    refine List.findSome?_eq_some_iff.2 ⟨inner, j, outer, split, bound, fun k inside => ?_⟩
    simpa using unbound k inside
  have builtin := Builtin.find?_eq_none_iff.2 free
  rw [Tree.result_identifier]
  simp only [Environment.resolve, Environment.plainLookup, environment, builtin,
    Evaluation.result_answer, Scope.get, get?_scope_run, recorded]

theorem Source.reflTransGen {steps : List Step} {i : Nat} {name : String} {y : Number}
    (h : Source steps i name y) :
    ∃ x, latest? initial i name steps = some (.number x) ∧ ReflTransGen Feeds y x := by
  induction h with
  | kept nothing _ ih =>
    obtain ⟨x, bound, chain⟩ := ih
    exact ⟨x, by rw [latest?_append_singleton, nothing, Option.none_or, bound], chain⟩
  | part read stored inside part =>
    refine ⟨_, by rw [latest?_append_singleton, stored, Option.some_or], ?_⟩
    exact inside.reflTransGen (result_of_stored? read stored) part
  | earlier read stored inside free first _ ih =>
    obtain ⟨z, bound, chain⟩ := ih
    refine ⟨_, by rw [latest?_append_singleton, stored, Option.some_or], ?_⟩
    exact chain.trans (inside.reflTransGen (result_of_stored? read stored)
      (result_identifier_run free first bound))

end Session

/-- A number without the mark of approximation has rational parts and was computed from numbers
without it, whether operations made it one after the other, a tree was evaluated to it, or a
session bound it; and an operation marks its result for the reasons given and no others. -/
theorem Number.operands_unmarked :
    (∀ (o : Operation) (z : Number), o.evaluate.result = .ok z → z.IsSound ∧
      z.approx = (o.marks || o.operands.any Number.approx || !z.value.isExact)) ∧
    (∀ made, Calculation made → ∀ o x, (o, x) ∈ made → x.IsSound ∧
      (x.approx = false → ∀ y, TransGen (Enters made) y x → y.approx = false)) ∧
    (∀ env fires (t : Tree) x,
      ((t.evaluate env).computation.run fires).1 = some (.ok (.number x)) → x.IsSound ∧
      (x.approx = false → ∀ s y, t.Contributes s →
        (s.evaluate env).result = .ok (.number y) → y.approx = false)) ∧
    (∀ steps i name x, (Session.run steps).local? i name = some (.number x) → x.IsSound ∧
      (x.approx = false → ∀ y, Session.Source steps i name y → y.approx = false)) := by
  have carried {x y : Number} (chain : ReflTransGen Feeds y x) (unmarked : x.approx = false) :
      y.approx = false := by
    by_contra marked
    have mark := approx_of_reflTransGen chain (by simpa using marked)
    rw [unmarked] at mark
    cases mark
  refine ⟨fun o z made => ⟨z.isSound, approx_of_result made⟩, ?_, ?_, ?_⟩
  · intro made calculation o x _
    refine ⟨x.isSound, fun unmarked y chain => carried ?_ unmarked⟩
    exact (chain.lift id fun _ _ => calculation.feeds_of_enters).to_reflTransGen
  · intro env fires t x ran
    have whole := ((Evaluation.run_eq_some_iff _ _ _).1 ran).1.symm
    exact ⟨x.isSound, fun unmarked s y inside part =>
      carried (inside.reflTransGen whole part) unmarked⟩
  · intro steps i name x bound
    refine ⟨x.isSound, fun unmarked y source => ?_⟩
    obtain ⟨z, latest, chain⟩ := source.reflTransGen
    rw [Session.local?_run, latest, Option.some.injEq, Value.number.injEq] at bound
    subst bound
    exact carried chain unmarked

theorem Number.operands_unmarked_two :
    let two := Number.ofInt 2
    let made := [(Operation.int 2, two), (Operation.negate two, two.negate)]
    let t := Tree.binary .conversion (.literal "2") (.identifier "pi")
    let steps : List Session.Step :=
      [.set 0 "x" (.scalar (.int 2)) .standard, .set 0 "y" (.scalar (.text "x")) .standard]
    (Operation.approximately two).evaluate.result = .ok two.approximately ∧
    two.approximately.approx = true ∧
    Calculation made ∧ TransGen (Enters made) two two.negate ∧
    ((t.evaluate ⟨.standard, .builtin, .empty⟩).computation.run Polling.never).1 =
      some (.ok (.number two)) ∧ t.Contributes (.literal "2") ∧
    (Session.run steps).local? 0 "y" = some (.number two) ∧ Session.Source steps 0 "y" two ∧
    two.approx = false := by
  intro two made t steps
  obtain ⟨operations, calculations, trees, sessions⟩ := operands_unmarked
  have marked : (Operation.approximately two).evaluate.result = .ok two.approximately := rfl
  have mark := (operations _ _ marked).2
  have calculation : Calculation made := by
    have start : ((Operation.int 2).evaluate.computation.run Polling.never).1 =
        some (.ok two) := rfl
    have negated : ((Operation.negate two).evaluate.computation.run Polling.never).1 =
        some (.ok two.negate) := rfl
    refine .next (.next .empty (fun y listed => by cases listed) start) (fun y listed => ?_) negated
    rw [List.mem_singleton.1 listed]
    exact ⟨_, List.mem_singleton_self _⟩
  have negation : (Operation.negate two, two.negate) ∈ made :=
    List.mem_cons_of_mem _ List.mem_cons_self
  have enters : TransGen (Enters made) two two.negate :=
    .single ⟨.negate two, negation, List.mem_singleton_self two⟩
  have unmarked := (calculations made calculation _ _ negation).2 rfl two enters
  have ran : ((t.evaluate ⟨.standard, .builtin, .empty⟩).computation.run Polling.never).1 =
      some (.ok (.number two)) := by decide +kernel
  have inside : t.Contributes (.literal "2") := .left (.here _)
  have part := (trees _ _ t two ran).2 unmarked _ two inside (by decide +kernel)
  have bound : (Session.run steps).local? 0 "y" = some (.number two) := by decide +kernel
  have source : Session.Source steps 0 "y" two := by
    have set : Session.Source ([] ++ [.set 0 "x" (.scalar (.int 2)) .standard]) 0 "x" two := by
      have stored : (Session.run []).stored? 0 "x" (.set 0 "x" (.scalar (.int 2)) .standard) =
          some (.number two) := by decide +kernel
      have encoded : Tree.ofData (.scalar (.int 2)) = .ok (.literal (Scalar.int 2).plain) := by
        rw [Tree.ofData, Tree.written, if_pos (by decide +kernel)]
      exact .part encoded stored (.here (.literal (Scalar.int 2).plain)) (by decide +kernel)
    have stored : (Session.run [.set 0 "x" (.scalar (.int 2)) .standard]).stored? 0 "y"
        (.set 0 "y" (.scalar (.text "x")) .standard) = some (.number two) := by decide +kernel
    refine .earlier rfl stored (.here (.identifier "x"))
      (Builtin.find?_eq_none_iff.1 (by decide)) ?_ set
    rw [Session.outward]
    decide +kernel
  have origin := (sessions steps 0 "y" two bound).2 part two source
  exact ⟨marked, mark, calculation, enters, ran, inside, bound, source, origin⟩

end Calculator
