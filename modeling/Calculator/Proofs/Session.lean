import Calculator.Proofs.Scope
import Calculator.Session
import Mathlib.Data.List.Basic
import Mathlib.Data.List.Induction

/-! Sessions as logs. What a name means in a scope is written in the history of the session: it is
the value that the latest step stored there, or else in the scope around it, and so on outward.
Values are stored as they were computed, so nothing that happens later to the names they were
computed from, or to the registry, makes a difference. -/

namespace Calculator

namespace Session

def run (steps : List Step) : Session := steps.foldl after initial

/-- What a step, taken in the session `s`, stores under a name in scope `i`. A step that fails
stores nothing, and neither does one whose scope is not there. -/
def stored? (s : Session) (i : Nat) (name : String) : Step → Option Value
  | .set j n tree mode =>
    if j = i ∧ n = name ∧ i < s.levels.length then (s.evaluateIn j tree mode).toOption else none
  | .setFunction j n function =>
    if j = i ∧ n = name ∧ i < s.levels.length then some (.function function) else none
  | _ => none

/-- What the latest of the steps, taken one after the other from `s` on, stores there. -/
def latest? (s : Session) (i : Nat) (name : String) : List Step → Option Value
  | [] => none
  | step :: rest => (latest? (s.after step) i name rest).or (s.stored? i name step)

/-- The scopes that children were made of, in order: the first one is the parent of scope 1. -/
def parents (steps : List Step) : List Nat :=
  steps.filterMap fun
    | .child i => some i
    | _ => none

/-- A scope and those around it, from the inside out. A parent is older than its child. -/
def outward (parents : List Nat) (i : Nat) : List Nat :=
  i :: match i with
    | 0 => []
    | k + 1 =>
      match parents[k]? with
      | some p => if p ≤ k then outward parents p else []
      | none => []
  termination_by i
  decreasing_by omega

/-- What the history says about a name in a scope: the latest value in the first scope, from the
inside out, in which there is one. -/
def recorded? (steps : List Step) (i : Nat) (name : String) : Option Value :=
  (outward (parents steps) i).findSome? fun j => latest? initial j name steps

def Step.target? : Step → Option Nat
  | .set i _ _ _ => some i
  | .setFunction i _ _ => some i
  | _ => none

def reply (s : Session) (step : Step) : Except Refusal Reply := (s.step step).map Prod.snd

def local? (s : Session) (i : Nat) (name : String) : Option Value :=
  (s.levels[i]?).bind fun l => l.frame.get? name

variable {s : Session}

theorem local?_bind (s : Session) (i j : Nat) (n name : String) (v : Value) :
    (s.bind j n v).local? i name =
      if j = i ∧ n = name ∧ i < s.levels.length then some v else s.local? i name := by
  simp only [local?, bind, List.getElem?_modify]
  by_cases here : i < s.levels.length
  · rw [List.getElem?_eq_getElem here]
    by_cases scope : j = i
    · by_cases same : n = name
      · subst same
        simp [scope, here, Frame.get?, Frame.set, Bindings.find?_set_self]
      · simp [scope, same, Frame.get?, Frame.set, Bindings.find?_set_of_ne same]
    · simp [scope]
  · simp [here]

theorem local?_child (s : Session) (i p : Nat) (name : String) :
    (s.child p).local? i name = s.local? i name := by
  have fresh : Frame.empty.get? name = none := rfl
  simp only [local?, child, List.getElem?_append]
  split
  · rfl
  · next outside =>
    rw [List.getElem?_eq_none (Nat.le_of_not_lt outside), List.getElem?_singleton]
    split <;> simp [fresh]

theorem path_bind (s : Session) (i j : Nat) (n : String) (v : Value) :
    (s.bind j n v).path i = s.path i := by
  simp only [path, bind, List.getElem?_modify]
  cases s.levels[i]? with
  | none => rfl
  | some l => by_cases scope : j = i <;> simp [scope]

theorem path_child (s : Session) (i p : Nat) :
    (s.child p).path i = if i = s.levels.length then i :: s.path p else s.path i := by
  simp only [path, child, List.getElem?_append]
  by_cases old : i < s.levels.length
  · have differ : i ≠ s.levels.length := Nat.ne_of_lt old
    simp [old, differ]
  · by_cases new : i = s.levels.length
    · simp [new]
    · have beyond : i - s.levels.length ≠ 0 := by omega
      simp [old, new, beyond]

theorem after_cases (s : Session) (step : Step) :
    (∃ p, step = .child p ∧ s.after step = s.child p) ∨
    (parents [step] = [] ∧ ∃ i n v, s.after step = s.bind i n v ∧ ∀ j name,
      s.stored? j name step = if i = j ∧ n = name ∧ j < s.levels.length then some v else none) ∨
    (parents [step] = [] ∧ (s.after step).levels = s.levels ∧
      ∀ j name, s.stored? j name step = none) := by
  cases step with
  | child p => exact .inl ⟨p, rfl, rfl⟩
  | set i n tree mode =>
    cases evaluated : s.evaluateIn i tree mode with
    | ok v =>
      refine .inr (.inl ⟨rfl, i, n, v, ?_, fun j name => ?_⟩)
      · simp [after, Session.step, evaluated, Bind.bind, Except.bind, pure, Except.pure]
      · simp [stored?, evaluated, Except.toOption]
    | error r =>
      refine .inr (.inr ⟨rfl, ?_, fun j name => ?_⟩)
      · simp [after, Session.step, evaluated, Bind.bind, Except.bind]
      · simp [stored?, evaluated, Except.toOption]
  | setFunction i n function =>
    exact .inr (.inl ⟨rfl, i, n, .function function, rfl, fun j name => rfl⟩)
  | get i name =>
    refine .inr (.inr ⟨rfl, ?_, fun j name => rfl⟩)
    simp only [after, Session.step]
    cases (s.scope i).get name <;> rfl
  | evaluate i tree mode =>
    refine .inr (.inr ⟨rfl, ?_, fun j name => rfl⟩)
    simp only [after, Session.step]
    cases s.evaluateIn i tree mode <;> rfl
  | «alias» name description category source examples =>
    refine .inr (.inr ⟨rfl, ?_, fun j name => rfl⟩)
    simp only [after, Session.step]
    cases findCategory category with
    | error r => rfl
    | ok c => cases s.find source <;> rfl
  | lookup name =>
    refine .inr (.inr ⟨rfl, ?_, fun j name => rfl⟩)
    simp only [after, Session.step]
    cases s.find name <;> rfl
  | category name =>
    refine .inr (.inr ⟨rfl, ?_, fun j name => rfl⟩)
    simp only [after, Session.step]
    cases findCategory name <;> rfl
  | _ =>
    refine .inr (.inr ⟨rfl, ?_, fun j name => rfl⟩)
    simp only [after, Session.step]

theorem local?_after (s : Session) (step : Step) (i : Nat) (name : String) :
    (s.after step).local? i name = (s.stored? i name step).or (s.local? i name) := by
  obtain ⟨p, rfl, after⟩ | ⟨-, j, n, v, after, stored⟩ | ⟨-, same, stored⟩ := after_cases s step
  · rw [after, local?_child]
    rfl
  · rw [after, local?_bind, stored]
    split <;> rfl
  · rw [stored, Option.none_or, local?, same, local?]

theorem local?_foldl (s : Session) (steps : List Step) (i : Nat) (name : String) :
    (steps.foldl after s).local? i name = (s.latest? i name steps).or (s.local? i name) := by
  induction steps generalizing s with
  | nil => rfl
  | cons step rest ih => rw [List.foldl_cons, ih, local?_after, latest?, Option.or_assoc]

theorem local?_run (steps : List Step) (i : Nat) (name : String) :
    (run steps).local? i name = latest? initial i name steps := by
  have empty : initial.local? i name = none := by cases i <;> rfl
  rw [run, local?_foldl, empty, Option.or_none]

theorem run_append_singleton (steps : List Step) (step : Step) :
    run (steps ++ [step]) = (run steps).after step := by
  rw [run, List.foldl_append]
  rfl

theorem parents_append_singleton (steps : List Step) (step : Step) :
    parents (steps ++ [step]) = parents steps ++ parents [step] := List.filterMap_append

theorem length_levels_run (steps : List Step) :
    (run steps).levels.length = (parents steps).length + 1 := by
  induction steps using List.reverseRecOn with
  | nil => rfl
  | append_singleton steps step ih =>
    rw [run_append_singleton, parents_append_singleton, List.length_append]
    obtain ⟨p, rfl, after⟩ | ⟨none, j, n, v, after, -⟩ | ⟨none, same, -⟩ :=
      after_cases (run steps) step
    · rw [after, child, List.length_append, ih]
      rfl
    · rw [after, bind, List.length_modify, ih, none, List.length_nil]
    · rw [same, ih, none, List.length_nil]

theorem outward_append_singleton (parents : List Nat) (p i : Nat) (old : i ≤ parents.length) :
    outward (parents ++ [p]) i = outward parents i := by
  induction i using Nat.strongRecOn with
  | ind i ih =>
    cases i with
    | zero => rw [outward, outward]
    | succ k =>
      have here : (parents ++ [p])[k]? = parents[k]? := List.getElem?_append_left old
      rw [outward, outward]
      simp only [here]
      congr 1
      cases parents[k]? with
      | none => rfl
      | some q =>
        by_cases older : q ≤ k
        · simp only [older, if_true]
          exact ih q (by omega) (by omega)
        · simp only [older, if_false]

theorem outward_of_length_lt {parents : List Nat} {i : Nat} (new : parents.length < i) :
    outward parents i = [i] := by
  cases i with
  | zero => cases new
  | succ k =>
    have none : parents[k]? = none := List.getElem?_eq_none (Nat.le_of_lt_succ new)
    rw [outward]
    simp only [none]

theorem path_run (steps : List Step) (i : Nat) :
    (run steps).path i = if i ≤ (parents steps).length then outward (parents steps) i else [] := by
  induction steps using List.reverseRecOn generalizing i with
  | nil =>
    cases i with
    | zero => rw [parents, List.filterMap_nil, outward]; rfl
    | succ k => rfl
  | append_singleton steps step ih =>
    rw [run_append_singleton, parents_append_singleton]
    obtain ⟨p, rfl, after⟩ | ⟨none, j, n, v, after, -⟩ | ⟨none, same, -⟩ :=
      after_cases (run steps) step
    · have added : parents [.child p] = [p] := rfl
      rw [after, path_child, length_levels_run, added, List.length_append, List.length_singleton]
      obtain old | rfl | beyond : i ≤ (parents steps).length ∨ i = (parents steps).length + 1 ∨
          (parents steps).length + 1 < i := by omega
      · rw [if_neg (by omega), ih, if_pos old, if_pos (by omega),
          outward_append_singleton _ _ _ old]
      · -- the new scope comes before the path of its parent, empty if there is no such scope
        rw [if_pos rfl, if_pos (Nat.le_refl _), ih p, outward]
        simp only [List.getElem?_concat_length]
        split
        · next older => rw [outward_append_singleton _ _ _ older]
        · rfl
      · rw [if_neg (by omega), ih, if_neg (by omega), if_neg (by omega)]
    · rw [after, path_bind, ih, none, List.append_nil]
    · rw [none, List.append_nil, path, same, ← path, ih]

theorem get?_scope (s : Session) (i : Nat) (name : String) :
    (s.scope i).get? name = (s.path i).findSome? fun j => s.local? j name := by
  rw [scope, Scope.get?]
  induction s.path i with
  | nil => rfl
  | cons j rest ih =>
    rw [List.filterMap_cons, List.findSome?_cons]
    cases here : s.levels[j]? with
    | none => simpa [local?, here] using ih
    | some l =>
      simp only [Option.map_some, Scope.getIn, ih, local?, here, Option.bind_some]
      cases l.frame.get? name <;> rfl

theorem get?_scope_run (steps : List Step) (i : Nat) (name : String) :
    ((run steps).scope i).get? name = recorded? steps i name := by
  rw [get?_scope, path_run, recorded?]
  simp only [local?_run]
  split
  · rfl
  · next new =>
    have empty : latest? initial i name steps = none := by
      have beyond : (run steps).levels.length ≤ i := by
        rw [length_levels_run]
        omega
      rw [← local?_run, local?, List.getElem?_eq_none beyond, Option.bind_none]
    rw [outward_of_length_lt (Nat.lt_of_not_le new), List.findSome?_cons, empty,
      List.findSome?_nil]

theorem latest?_append_singleton (steps : List Step) (step : Step) (i : Nat) (name : String) :
    latest? initial i name (steps ++ [step]) =
      ((run steps).stored? i name step).or (latest? initial i name steps) := by
  rw [← local?_run, ← local?_run, run_append_singleton, local?_after]

theorem outward_parents_append_singleton (steps : List Step) (step : Step) {i : Nat}
    (old : i ≤ (parents steps).length) :
    outward (parents (steps ++ [step])) i = outward (parents steps) i := by
  rw [parents_append_singleton]
  cases step with
  | child p => exact outward_append_singleton _ p i old
  | _ => exact congrArg (outward · i) (List.append_nil (parents steps))

theorem recorded?_append_singleton {steps : List Step} {step : Step} {i : Nat} {name : String}
    (old : i ≤ (parents steps).length)
    (quiet : ∀ j ∈ outward (parents steps) i, (run steps).stored? j name step = none) :
    recorded? (steps ++ [step]) i name = recorded? steps i name := by
  rw [recorded?, recorded?, outward_parents_append_singleton steps step old,
    ← List.head?_filterMap, ← List.head?_filterMap]
  congr 1
  refine List.filterMap_congr fun j inside => ?_
  rw [latest?_append_singleton, quiet j inside, Option.none_or]

theorem stored?_of_target?_ne {s : Session} {step : Step} {i : Nat} {name : String}
    (elsewhere : step.target? ≠ some i) : s.stored? i name step = none := by
  cases step with
  | set j n tree mode =>
    have differ : j ≠ i := fun same => elsewhere (congrArg some same)
    simp [stored?, differ]
  | setFunction j n function =>
    have differ : j ≠ i := fun same => elsewhere (congrArg some same)
    simp [stored?, differ]
  | _ => rfl

theorem stored?_of_step_eq_error {s : Session} {step : Step} {r : Refusal}
    (failed : s.step step = .error r) (i : Nat) (name : String) :
    s.stored? i name step = none := by
  cases step with
  | set j n tree mode =>
    cases evaluated : s.evaluateIn j tree mode with
    | ok v => simp [Session.step, evaluated, Bind.bind, Except.bind, pure, Except.pure] at failed
    | error r => simp [stored?, evaluated, Except.toOption]
  | setFunction j n function => cases failed
  | _ => rfl

theorem step_get_eq (steps : List Step) (i : Nat) (name : String) :
    (run steps).step (.get i name) =
      match recorded? steps i name with
      | some v => .ok (run steps, .value v)
      | none => .error (.evaluation (.unboundName name)) := by
  rw [Session.step, Scope.get, get?_scope_run]
  cases recorded? steps i name <;> rfl

theorem step_has_eq (steps : List Step) (i : Nat) (name : String) :
    (run steps).step (.has i name) = .ok (run steps, .truth (recorded? steps i name).isSome) := by
  rw [Session.step, get?_scope_run]

/-- After every history, `get` answers what is recorded and `has` whether `get` does. The answers
for a scope stay as they are when a step fails, binds nothing, or binds in a scope that is
not on the way outward. Children are numbered as their parents are listed. -/
theorem get_eq_recorded (steps : List Step) :
    (∀ p, reply (run steps) (.child p) = .ok (.index ((parents steps).length + 1))) ∧
    (∀ i name, (run steps).step (.get i name) =
      match recorded? steps i name with
      | some v => .ok (run steps, .value v)
      | none => .error (.evaluation (.unboundName name))) ∧
    (∀ i name, (run steps).step (.has i name) =
      .ok (run steps, .truth ((run steps).step (.get i name)).isOk)) ∧
    (∀ step i name, i ≤ (parents steps).length →
      ((∃ r, (run steps).step step = .error r) ∨ step.target? = none ∨
        ∃ j, step.target? = some j ∧ j ∉ outward (parents steps) i) →
      reply (run (steps ++ [step])) (.get i name) = reply (run steps) (.get i name) ∧
      reply (run (steps ++ [step])) (.has i name) = reply (run steps) (.has i name)) := by
  refine ⟨fun p => ?_, step_get_eq steps, fun i name => ?_, fun step i name old quiet => ?_⟩
  · rw [reply, Session.step, length_levels_run]
    rfl
  · rw [step_get_eq, step_has_eq]
    cases recorded? steps i name <;> rfl
  · have nothing : ∀ j ∈ outward (parents steps) i, (run steps).stored? j name step = none := by
      intro j inside
      obtain ⟨r, failed⟩ | none | ⟨k, target, outside⟩ := quiet
      · exact stored?_of_step_eq_error failed j name
      · exact stored?_of_target?_ne (by rw [none]; nofun)
      · refine stored?_of_target?_ne ?_
        rw [target]
        rintro ⟨⟩
        exact outside inside
    have same := recorded?_append_singleton old nothing
    rw [reply, reply, reply, reply, step_get_eq, step_get_eq, step_has_eq, step_has_eq, same]
    cases recorded? steps i name <;> exact ⟨rfl, rfl⟩

theorem get_eq_recorded_function :
    let steps : List Step := [.child 0, .setFunction 0 "f" "sqrt"]
    let step : Step := .set 1 "f" (.scalar (.int 2)) .standard
    0 ≤ (parents steps).length ∧ step.target? = some 1 ∧ 1 ∉ outward (parents steps) 0 ∧
    reply (run (steps ++ [step])) (.get 0 "f") = reply (run steps) (.get 0 "f") ∧
    reply (run (steps ++ [step])) (.get 0 "f") = .ok (.value (.function "sqrt")) := by
  intro steps step
  have outside : 1 ∉ outward (parents steps) 0 := by
    rw [outward]
    decide
  have same := (get_eq_recorded steps).2.2.2 step 0 "f" (Nat.zero_le _)
    (.inr (.inr ⟨1, rfl, outside⟩))
  refine ⟨Nat.zero_le _, rfl, outside, same.1, ?_⟩
  rw [same.1]
  rfl

end Session
end Calculator
