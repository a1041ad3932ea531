import Calculator.Evaluation.Tree
import Calculator.Proofs.Watched
import Calculator.Registry.Builtin

/-! The order of evaluation. A node evaluates its operands one after the other, each followed
by a check that its value has to pass before the next operand is evaluated. The first operand
that fails, or whose value is refused, ends the evaluation of the node, of the node around it
and so of the whole tree, and what stands behind it is never visited. -/

namespace Calculator

namespace Evaluation

variable {α β : Type}

theorem answer_ok (a : α) : answer (.ok a) = pure a := rfl
theorem answer_error_bind (f : Failure) (k : α → Evaluation β) :
    answer (.error f) >>= k = throw f := rfl

theorem answer_check (e : Except Failure α) (k : α → Evaluation β) :
    (do answer (e.map fun _ => ()); let a ← answer e; k a) = (do let a ← answer e; k a) := by
  cases e <;> rfl

end Evaluation

inductive Side
  | only | left | right
  deriving DecidableEq

inductive Label
  | literal (text : String)
  | identifier (name : String)
  | unary (op : Unary)
  | binary (op : Binary)
  deriving DecidableEq

namespace Label
open Evaluation

/-- The check of an operand's value that comes before the next operand. -/
def check : Label → Side → Value → Except Failure Unit
  | unary _, _, v => v.expectNumber.map fun _ => ()
  | binary (.arithmetic _), _, v => v.expectNumber.map fun _ => ()
  | binary .conversion, .right, v =>
    if v.kind = .function then .error .convertedToFunction else .ok ()
  | binary .conversion, _, v => v.conversionSource.map fun _ => ()
  | _, _, _ => .ok ()

def finish (env : Environment) (values : Side → Value) : Label → Evaluation Value
  | literal t => do return .number (← answer (Number.ofLiteral t))
  | identifier n => env.resolve n
  | unary op => do
    let x ← answer (values .only).expectNumber
    return .number (← op.run x)
  | binary (.arithmetic op) => do
    let x ← answer (values .left).expectNumber
    let y ← answer (values .right).expectNumber
    return .number (← Number.polled fun _ => op.run x y)
  | binary (.juxtaposition form) =>
    (values .left).apply env.registry form.mayMultiply form.mustMultiply (values .right)
  | binary .conversion => do
    let x ← answer (values .left).conversionSource
    Value.convert x (values .right)

end Label

namespace Tree
open Evaluation

def label : Tree → Label
  | literal t => .literal t
  | identifier n => .identifier n
  | unary op _ => .unary op
  | binary op _ _ => .binary op

/-- The operands in the order of their evaluation: a conversion begins with its target. -/
def operands : Tree → List (Side × Tree)
  | literal _ => []
  | identifier _ => []
  | unary _ t => [(.only, t)]
  | binary .conversion l r => [(.right, r), (.left, l)]
  | binary _ l r => [(.left, l), (.right, r)]

variable (env : Environment) (fires : Nat → Bool)

def checked (node : Label) (side : Side) (t : Tree) : Evaluation Value := do
  let v ← t.evaluate env
  answer (node.check side v)
  return v

/-- The values of operands, each one checked before the next is evaluated. -/
def visit (node : Label) : List (Side × Tree) → Evaluation (Side → Value)
  | [] => return fun _ => default
  | (side, t) :: rest => do
    let v ← checked env node side t
    let values ← visit node rest
    return fun s => if s = side then v else values s

theorem evaluate_eq_visit (t : Tree) :
    t.evaluate env = (do
      poll
      let values ← visit env t.label t.operands
      t.label.finish env values) := by
  have := Polling.lawfulMonad
  cases t with
  | literal t => simp [evaluate, evaluateWith, visit, operands, label, Label.finish]
  | identifier n => simp [evaluate, evaluateWith, visit, operands, label, Label.finish]
  | unary op t =>
    simp [evaluate, evaluateWith, visit, operands, label, Label.finish, checked, Label.check,
      answer_check]
  | binary op l r =>
    cases op with
    | arithmetic op =>
      simp only [evaluate, evaluateWith, visit, operands, label, Label.finish, checked, Label.check,
        bind_assoc, pure_bind, if_true, reduceCtorEq, if_false]
      refine bind_congr fun _ => bind_congr fun v => ?_
      -- the first operand is refused before the second one is evaluated
      cases first : v.expectNumber with
      | error f => rfl
      | ok x =>
        simp only [Except.map, answer_ok, pure_bind]
        exact bind_congr fun w => (answer_check w.expectNumber _).symm
    | juxtaposition form =>
      simp [evaluate, evaluateWith, visit, operands, label, Label.finish, checked, Label.check,
        answer_ok]
    | conversion =>
      simp only [evaluate, evaluateWith, visit, operands, label, Label.finish, checked, Label.check,
        bind_assoc, pure_bind, if_true, reduceCtorEq, if_false]
      refine bind_congr fun _ => bind_congr fun target => ?_
      by_cases function : target.kind = .function
      · simp only [function, if_true, answer_error_bind]
        rfl
      · simp only [function, if_false, answer_ok, pure_bind]
        exact bind_congr fun v => (answer_check v.conversionSource _).symm

def operand? (t : Tree) (side : Side) : Option Tree := t.operands.lookup side

/-- The tree at a position, which is given by the sides to take from the root on. -/
def subtree? : Tree → List Side → Option Tree
  | t, [] => some t
  | t, side :: p => do (← t.operand? side).subtree? p

def runFrom (t : Tree) (n : Nat) : Except Signal Value × Nat :=
  ((t.evaluate env).watch fires).runFrom n

/-- The polls made when a node comes to its operand on a side, if it does. -/
def reach? (node : Label) (side : Side) : List (Side × Tree) → Nat → Option Nat
  | [], _ => none
  | (s, t) :: rest, n =>
    if side = s then some n
    else match ((checked env node s t).watch fires).runFrom n with
      | (.ok _, m) => reach? node side rest m
      | (.error _, _) => none

/-- The polls made when an evaluation comes to a position, if it does. -/
def arrival? : Tree → List Side → Nat → Option Nat
  | _, [], n => some n
  | t, side :: p, n =>
    if fires n then none
    else do
      let s ← t.operand? side
      let m ← reach? env fires t.label side t.operands (n + 1)
      s.arrival? p m

/-- The subtree at a position is evaluated and does not lead on: it fails or is interrupted, or
the node around it refuses its value. The signal is raised with `k` polls made. -/
inductive Stops (t : Tree) : List Side → Signal → Nat → Prop
  | failed {p : List Side} {s : Tree} {m k : Nat} {signal : Signal} :
    t.subtree? p = some s → t.arrival? env fires p 0 = some m →
      s.runFrom env fires m = (.error signal, k) → Stops t p signal k
  | refused {p : List Side} {side : Side} {node s : Tree} {m k : Nat} {v : Value} {f : Failure} :
    t.subtree? p = some node → node.operand? side = some s →
      t.arrival? env fires (p ++ [side]) 0 = some m → s.runFrom env fires m = (.ok v, k) →
      node.label.check side v = .error f → Stops t (p ++ [side]) (.failed f) k

variable {env fires}

theorem runFrom_checked (node : Label) (side : Side) (t : Tree) (n : Nat) :
    ((checked env node side t).watch fires).runFrom n =
      match t.runFrom env fires n with
      | (.ok v, m) =>
        match node.check side v with
        | .ok _ => (.ok v, m)
        | .error f => (.error (.failed f), m)
      | (.error s, m) => (.error s, m) := by
  simp only [checked, watch_bind, Watched.runFrom_bind, runFrom]
  rcases ((t.evaluate env).watch fires).runFrom n with ⟨s | v, m⟩
  · rfl
  · simp only
    cases node.check side v <;> rfl

theorem runFrom_of_fires {t : Tree} {n : Nat} (fired : fires n = true) :
    t.runFrom env fires n = (.error .interrupted, n + 1) := by
  simp [runFrom, evaluate_eq_visit env t, Watched.runFrom_bind, fired]

theorem runFrom_of_silent {t : Tree} {n : Nat} (silent : fires n = false) :
    t.runFrom env fires n =
      match ((visit env t.label t.operands).watch fires).runFrom (n + 1) with
      | (.ok values, m) => ((t.label.finish env values).watch fires).runFrom m
      | (.error s, m) => (.error s, m) := by
  simp only [runFrom, evaluate_eq_visit env t, watch_bind, watch_poll, Watched.runFrom_bind,
    Watched.runFrom_check, silent, Bool.false_eq_true, if_false]
  rcases ((visit env t.label t.operands).watch fires).runFrom (n + 1) with ⟨_ | values, m⟩ <;> rfl

theorem runFrom_visit_cons (node : Label) (side : Side) (t : Tree) (rest : List (Side × Tree))
    (n : Nat) :
    ((visit env node ((side, t) :: rest)).watch fires).runFrom n =
      match ((checked env node side t).watch fires).runFrom n with
      | (.ok v, m) =>
        match ((visit env node rest).watch fires).runFrom m with
        | (.ok values, k) => (.ok fun s => if s = side then v else values s, k)
        | (.error s, k) => (.error s, k)
      | (.error s, m) => (.error s, m) := by
  simp only [visit, watch_bind, Watched.runFrom_bind]
  rcases ((checked env node side t).watch fires).runFrom n with ⟨_ | v, m⟩
  · rfl
  · simp only
    rcases ((visit env node rest).watch fires).runFrom m with ⟨_ | values, k⟩ <;> rfl

theorem arrival?_cons {t : Tree} {side : Side} {p : List Side} {n m : Nat} :
    t.arrival? env fires (side :: p) n = some m ↔ fires n = false ∧ ∃ s j,
      t.operand? side = some s ∧ reach? env fires t.label side t.operands (n + 1) = some j ∧
      s.arrival? env fires p j = some m := by
  rw [arrival?]
  cases fires n <;> simp [Option.bind_eq_some_iff]

theorem visit_of_stop {node : Label} {side : Side} {operands : List (Side × Tree)} {s : Tree}
    {n m k : Nat} {signal : Signal} (here : operands.lookup side = some s)
    (reached : reach? env fires node side operands n = some m)
    (stopped : ((checked env node side s).watch fires).runFrom m = (.error signal, k)) :
    ((visit env node operands).watch fires).runFrom n = (.error signal, k) := by
  -- an operand that is come to and stops, stops the row of operands
  induction operands generalizing n with
  | nil => cases here
  | cons first rest ih =>
    obtain ⟨other, t⟩ := first
    rw [runFrom_visit_cons]
    by_cases same : side = other
    · subst same
      simp only [List.lookup_cons_self, Option.some.injEq] at here
      simp only [reach?, if_true, Option.some.injEq] at reached
      rw [here, reached, stopped]
    · have differ : (side == other) = false := by simpa using same
      simp only [List.lookup_cons, differ] at here
      simp only [reach?, same, if_false] at reached
      rcases passed : ((checked env node other t).watch fires).runFrom n with ⟨_ | v, j⟩
      · simp [passed] at reached
      · simp only [passed] at reached ⊢
        rw [ih here reached]

theorem runFrom_of_stop {t s : Tree} {side : Side} {n m k : Nat} {signal : Signal}
    (silent : fires n = false) (here : t.operand? side = some s)
    (reached : reach? env fires t.label side t.operands (n + 1) = some m)
    (stopped : ((checked env t.label side s).watch fires).runFrom m = (.error signal, k)) :
    t.runFrom env fires n = (.error signal, k) := by
  rw [runFrom_of_silent silent, visit_of_stop here reached stopped]

theorem runFrom_of_signal {t s : Tree} {p : List Side} {n m k : Nat} {signal : Signal}
    (here : t.subtree? p = some s) (arrived : t.arrival? env fires p n = some m)
    (failed : s.runFrom env fires m = (.error signal, k)) :
    t.runFrom env fires n = (.error signal, k) := by
  induction p generalizing t n with
  | nil =>
    simp only [subtree?, arrival?, Option.some.injEq] at here arrived
    rw [here, arrived, failed]
  | cons side p ih =>
    obtain ⟨silent, o, j, operand, reached, onwards⟩ := arrival?_cons.1 arrived
    rw [subtree?, operand] at here
    have stopped : ((checked env t.label side o).watch fires).runFrom j = (.error signal, k) := by
      rw [runFrom_checked, ih here onwards]
    exact runFrom_of_stop silent operand reached stopped

theorem runFrom_of_refusal {t node s : Tree} {p : List Side} {side : Side} {n m k : Nat}
    {v : Value} {f : Failure} (here : t.subtree? p = some node)
    (operand : node.operand? side = some s)
    (arrived : t.arrival? env fires (p ++ [side]) n = some m)
    (evaluated : s.runFrom env fires m = (.ok v, k))
    (refused : node.label.check side v = .error f) :
    t.runFrom env fires n = (.error (.failed f), k) := by
  induction p generalizing t n with
  | nil =>
    obtain ⟨silent, o, j, operand', reached, onwards⟩ := arrival?_cons.1 arrived
    simp only [subtree?, arrival?, Option.some.injEq] at here onwards
    subst here onwards
    rw [operand, Option.some.injEq] at operand'
    subst operand'
    have stopped : ((checked env t.label side s).watch fires).runFrom j =
        (.error (.failed f), k) := by
      rw [runFrom_checked, evaluated]
      simp only [refused]
    exact runFrom_of_stop silent operand reached stopped
  | cons first p ih =>
    obtain ⟨silent, o, j, operand', reached, onwards⟩ := arrival?_cons.1 arrived
    rw [subtree?, operand'] at here
    have stopped : ((checked env t.label first o).watch fires).runFrom j =
        (.error (.failed f), k) := by
      rw [runFrom_checked, ih here onwards]
    exact runFrom_of_stop silent operand' reached stopped

theorem runFrom_checked_snd (node : Label) (side : Side) (t : Tree) (n : Nat) :
    (((checked env node side t).watch fires).runFrom n).2 = (t.runFrom env fires n).2 := by
  rw [runFrom_checked]
  rcases t.runFrom env fires n with ⟨_ | v, m⟩
  · rfl
  · simp only
    cases node.check side v <;> rfl

theorem lt_runFrom (t : Tree) (n : Nat) : n < (t.runFrom env fires n).2 := by
  cases fired : fires n with
  | true => simp [runFrom_of_fires fired]
  | false =>
    rw [runFrom_of_silent fired]
    have first := Evaluation.le_runFrom_watch fires (visit env t.label t.operands) (n + 1)
    split
    · next values m visited =>
      have last := Evaluation.le_runFrom_watch fires (t.label.finish env values) m
      rw [visited] at first
      omega
    · next s m visited =>
      rw [visited] at first
      exact first

theorem le_runFrom_visit {node : Label} {side : Side} {operands : List (Side × Tree)} {s : Tree}
    {n m : Nat} (here : operands.lookup side = some s)
    (reached : reach? env fires node side operands n = some m) :
    (s.runFrom env fires m).2 ≤ (((visit env node operands).watch fires).runFrom n).2 := by
  induction operands generalizing n with
  | nil => cases here
  | cons first rest ih =>
    obtain ⟨other, t⟩ := first
    rw [runFrom_visit_cons]
    by_cases same : side = other
    · subst same
      simp only [List.lookup_cons_self, Option.some.injEq] at here
      simp only [reach?, if_true, Option.some.injEq] at reached
      rw [here, reached, ← runFrom_checked_snd node side s m]
      rcases ((checked env node side s).watch fires).runFrom m with ⟨_ | v, j⟩
      · exact le_rfl
      · have later := Evaluation.le_runFrom_watch fires (visit env node rest) j
        simp only
        rcases visited : ((visit env node rest).watch fires).runFrom j with ⟨_ | values, k⟩ <;>
          simpa only [visited] using later
    · have differ : (side == other) = false := by simpa using same
      simp only [List.lookup_cons, differ] at here
      simp only [reach?, same, if_false] at reached
      rcases passed : ((checked env node other t).watch fires).runFrom n with ⟨_ | v, j⟩
      · simp [passed] at reached
      · simp only [passed] at reached ⊢
        have later := ih here reached
        rcases visited : ((visit env node rest).watch fires).runFrom j with ⟨_ | values, k⟩ <;>
          simpa only [visited] using later

theorem arrival?_lt {t : Tree} {p : List Side} {n m : Nat}
    (arrived : t.arrival? env fires p n = some m) : m < (t.runFrom env fires n).2 := by
  induction p generalizing t n with
  | nil =>
    simp only [arrival?, Option.some.injEq] at arrived
    subst arrived
    exact lt_runFrom t n
  | cons side p ih =>
    obtain ⟨silent, s, j, operand, reached, onwards⟩ := arrival?_cons.1 arrived
    have inside := ih onwards
    have operands := le_runFrom_visit operand reached
    rw [runFrom_of_silent silent]
    rcases visited : ((visit env t.label t.operands).watch fires).runFrom (n + 1) with
      ⟨_ | values, k⟩
    · rw [visited] at operands
      exact Nat.lt_of_lt_of_le inside operands
    · have last := Evaluation.le_runFrom_watch fires (t.label.finish env values) k
      rw [visited] at operands
      exact Nat.lt_of_lt_of_le inside (Nat.le_trans operands last)

theorem mem_of_lookup {side : Side} {operands : List (Side × Tree)} {s : Tree}
    (here : operands.lookup side = some s) : (side, s) ∈ operands := by
  obtain ⟨before, after, rfl, -⟩ := List.lookup_eq_some_iff.1 here
  exact List.mem_append_right _ List.mem_cons_self

theorem runFrom_visit_congr {node : Label} {operands operands' : List (Side × Tree)} {n : Nat}
    (sides : operands.map Prod.fst = operands'.map Prod.fst)
    (distinct : (operands.map Prod.fst).Nodup)
    (agree : ∀ side s s' m, operands.lookup side = some s → operands'.lookup side = some s' →
      reach? env fires node side operands n = some m →
      s'.runFrom env fires m = s.runFrom env fires m) :
    ((visit env node operands').watch fires).runFrom n =
      ((visit env node operands).watch fires).runFrom n := by
  induction operands generalizing operands' n with
  | nil =>
    have none : operands' = [] := List.map_eq_nil_iff.1 sides.symm
    rw [none]
  | cons first rest ih =>
    obtain ⟨side, t⟩ := first
    cases operands' with
    | nil => cases sides
    | cons first' rest' =>
      obtain ⟨side', t'⟩ := first'
      simp only [List.map_cons, List.cons.injEq] at sides
      obtain ⟨rfl, sides⟩ := sides
      rw [List.map_cons, List.nodup_cons] at distinct
      have same : t'.runFrom env fires n = t.runFrom env fires n :=
        agree side t t' n List.lookup_cons_self List.lookup_cons_self (if_pos rfl)
      rw [runFrom_visit_cons, runFrom_visit_cons, runFrom_checked, runFrom_checked, same,
        ← runFrom_checked]
      rcases passed : ((checked env node side t).watch fires).runFrom n with ⟨_ | v, j⟩
      · rfl
      · have tail : ((visit env node rest').watch fires).runFrom j =
            ((visit env node rest).watch fires).runFrom j := by
          refine ih sides distinct.2 fun other s s' m here here' reached => ?_
          -- no side occurs twice, so the tail is come to as a part of the row
          have listed : other ∈ rest.map Prod.fst := List.mem_map_of_mem (mem_of_lookup here)
          have differ : other ≠ side := fun again => distinct.1 (again ▸ listed)
          have apart : (other == side) = false := by simpa using differ
          apply agree other s s' m
          · simpa only [List.lookup_cons, apart] using here
          · simpa only [List.lookup_cons, apart] using here'
          · simpa only [reach?, differ, if_false, passed] using reached
        simp only [tail]

theorem operands_induction {motive : Tree → Prop}
    (node : ∀ t, (∀ side s, t.operand? side = some s → motive s) → motive t) (t : Tree) :
    motive t := by
  induction t with
  | literal t => exact node _ nofun
  | identifier n => exact node _ nofun
  | unary op t ih =>
    refine node _ fun side s operand => ?_
    have listed := mem_of_lookup operand
    simp only [operands, List.mem_singleton, Prod.mk.injEq] at listed
    exact listed.2 ▸ ih
  | binary op l r ihl ihr =>
    refine node _ fun side s operand => ?_
    have listed := mem_of_lookup operand
    have either : s = l ∨ s = r := by
      cases op <;>
        simp only [operands, List.mem_cons, Prod.mk.injEq, List.not_mem_nil] at listed <;> tauto
    rcases either with rfl | rfl
    · exact ihl
    · exact ihr

theorem sides_nodup (t : Tree) : (t.operands.map Prod.fst).Nodup := by
  rcases t with _ | _ | _ | ⟨_ | _ | _, _, _⟩ <;> simp [operands]

theorem sides_eq_of_label_eq {t t' : Tree} (same : t'.label = t.label) :
    t.operands.map Prod.fst = t'.operands.map Prod.fst := by
  rcases t with _ | _ | _ | ⟨_ | _ | _, _, _⟩ <;> rcases t' with _ | _ | _ | ⟨_ | _ | _, _, _⟩ <;>
    simp_all [operands, label]

def label? (t : Tree) (p : List Side) : Option Label := (t.subtree? p).map label

theorem runFrom_congr {t t' : Tree} {n : Nat}
    (agree : ∀ p m, t.arrival? env fires p n = some m → t'.label? p = t.label? p) :
    t'.runFrom env fires n = t.runFrom env fires n := by
  induction t using operands_induction generalizing t' n with
  | node t ih =>
    have root : t'.label = t.label := by simpa [label?, subtree?] using agree [] n rfl
    cases fired : fires n with
    | true => rw [runFrom_of_fires fired, runFrom_of_fires fired]
    | false =>
      have values : ((visit env t.label t'.operands).watch fires).runFrom (n + 1) =
          ((visit env t.label t.operands).watch fires).runFrom (n + 1) := by
        refine runFrom_visit_congr (sides_eq_of_label_eq root) (sides_nodup t)
          fun side s s' m here here' reached => ih side s here fun p k arrived => ?_
        have below := agree (side :: p) k
          (arrival?_cons.2 ⟨fired, s, m, here, reached, arrived⟩)
        have operand : t.operand? side = some s := here
        have operand' : t'.operand? side = some s' := here'
        simpa [label?, subtree?, operand, operand'] using below
      rw [runFrom_of_silent fired, runFrom_of_silent fired, root, values]

/-- Where an evaluation stops, the whole tree stops with the same signal and no further poll, and
so does every tree that has the same nodes at the positions visited until then. -/
theorem runFrom_of_stops (env : Environment) (fires : Nat → Bool) (t : Tree) (p : List Side)
    (signal : Signal) (k : Nat) (stops : t.Stops env fires p signal k) :
    t.runFrom env fires 0 = (.error signal, k) ∧
    ∀ t' : Tree,
      (∀ q m, t.arrival? env fires q 0 = some m → m < k → t'.label? q = t.label? q) →
      t'.runFrom env fires 0 = (.error signal, k) := by
  have whole : t.runFrom env fires 0 = (.error signal, k) := by
    cases stops with
    | failed here arrived failed => exact runFrom_of_signal here arrived failed
    | refused here operand arrived evaluated refused =>
      exact runFrom_of_refusal here operand arrived evaluated refused
  refine ⟨whole, fun t' agree => ?_⟩
  rw [← whole]
  refine runFrom_congr fun q m arrived => agree q m arrived ?_
  have before := arrival?_lt arrived
  rwa [whole] at before

theorem runFrom_of_stops_function_operand :
    let env : Environment := ⟨.standard, .builtin, .empty⟩
    let t := binary .conversion (identifier "nope")
      (binary (.arithmetic .add) (identifier "sqrt") (literal "1"))
    let t' := binary .conversion (literal "7")
      (binary (.arithmetic .add) (identifier "sqrt") (unary .factorial (identifier "nope")))
    let signal := Signal.failed (.expectedNumber "function" "sqrt")
    t.Stops env Polling.never [.right, .left] signal 3 ∧
    t.runFrom env Polling.never 0 = (.error signal, 3) ∧
    t'.runFrom env Polling.never 0 = (.error signal, 3) := by
  intro env t t' signal
  have stops : t.Stops env Polling.never ([.right] ++ [.left]) signal 3 :=
    .refused rfl rfl rfl rfl rfl
  obtain ⟨whole, others⟩ := runFrom_of_stops env Polling.never t _ signal 3 stops
  refine ⟨stops, whole, others t' fun q m arrived _ => ?_⟩
  rcases q with _ | ⟨_ | _ | _, q⟩
  · rfl
  · cases arrived
  · cases arrived
  · rcases q with _ | ⟨_ | _ | _, q⟩
    · rfl
    · cases arrived
    · rcases q with _ | ⟨_ | _ | _, q⟩
      · rfl
      · cases arrived
      · cases arrived
      · cases arrived
    · cases arrived

end Tree
end Calculator
