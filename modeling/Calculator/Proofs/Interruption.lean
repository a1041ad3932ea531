import Calculator.Evaluation.Outcome
import Calculator.Proofs.Watched

/-! Evaluation with the interrupt at hand. `Watched.evaluate` is the evaluator of trees written
for one interrupt: it asks at every poll, in the nodes, in the operations on numbers, in
the loop of a factorial and in the evaluation of a constant, and handles signals where
failures are handled. It agrees with `Tree.evaluate` run under that interrupt, and so it
obeys the cut law. -/

namespace Calculator

namespace Watched

variable (fires : Nat → Bool)

def polled (operation : Unit → Except Failure Number) : Watched Number := do
  check fires
  answer (operation ())

def product : (n k acc : Nat) → Watched Nat
  | 0, _, acc => pure acc
  | n + 1, k, acc => do
    if k % Number.factorsPerPoll = 0 then check fires
    product n (k + 1) (acc * k)

def factorial (x : Number) : Watched Number := do
  let n ← answer x.factorialArgument
  let p ← product fires (n - 1) 2 1
  return x.derive false (.ofInt p)

def unary (op : Unary) (x : Number) : Watched Number :=
  match op with
  | .parens => return x
  | .plus => return x
  | .negate => return x.negate
  | .reciprocal => polled fires fun _ => (Number.ofInt 1).div x
  | .factorial => factorial fires x

def apply (r : Registry) (mayMultiply mustMultiply : Bool) (left right : Value) :
    Watched Value :=
  match left with
  | .function name =>
    if mustMultiply then throw (.failed (.functionMultiplied name))
    else answer (Value.call r name right)
  | .number x =>
    if mayMultiply then do
      let y ← answer right.expectNumber
      return .number (← polled fires fun _ => .ok (x.mul y))
    else do throw (.failed (.numberNotCallable (← answer x.render)))
  | v => do
    let text ← answer v.render
    throw (.failed (if mayMultiply then .expectedApplicable v.kind.text text
      else .notCallable v.kind.text text))

def convert (x : Number) : Value → Watched Value
  | .number _ => do return .number (← polled fires fun _ => .ok x)
  | .format s => return .number (x.withStyle s)
  | .precisionMarker => return .number (x.withStyle (.digits Value.markerDigits))
  | .base b => return .number (x.withBase b)
  | .function _ => throw (.failed .convertedToFunction)

def evaluateWith (r : Registry) (lookup : String → Watched Value) : Tree → Watched Value
  | .literal t => do
    check fires
    return .number (← answer (Number.ofLiteral t))
  | .identifier n => do
    check fires
    lookup n
  | .unary op t => do
    check fires
    let v ← evaluateWith r lookup t
    let x ← answer v.expectNumber
    return .number (← unary fires op x)
  | .binary (.arithmetic op) l r' => do
    check fires
    let v ← evaluateWith r lookup l
    let x ← answer v.expectNumber
    let w ← evaluateWith r lookup r'
    let y ← answer w.expectNumber
    return .number (← polled fires fun _ => op.run x y)
  | .binary (.juxtaposition form) l r' => do
    check fires
    let v ← evaluateWith r lookup l
    let w ← evaluateWith r lookup r'
    apply fires r form.mayMultiply form.mustMultiply v w
  | .binary .conversion l r' => do
    check fires
    let target ← evaluateWith r lookup r'
    if target.kind = .function then throw (.failed .convertedToFunction)
    let v ← evaluateWith r lookup l
    let x ← answer v.conversionSource
    convert fires x target

def plainLookup (env : Environment) (name : String) : Watched Value :=
  match Builtin.find? env.mode name with
  | some (.value v) => return v
  | _ => answer (env.scope.get name)

/-- A constant has an evaluation of its own under the same interrupt. -/
def constant (env : Environment) (name digits : String) : Watched Value :=
  expectSuccess s!"Constant '{name}'" <|
    evaluateWith fires env.registry (plainLookup { env with mode := .standard })
      (Environment.constantTree digits)

def resolve (env : Environment) (name : String) : Watched Value :=
  match Builtin.find? env.mode name with
  | some (.constant digits) => constant fires env name digits
  | _ => plainLookup env name

def evaluate (env : Environment) (t : Tree) : Watched Value :=
  evaluateWith fires env.registry (resolve fires env) t

end Watched

namespace Evaluation

variable (fires : Nat → Bool)

@[simp] theorem watch_polled (operation : Unit → Except Failure Number) :
    watch fires (Number.polled operation) = Watched.polled fires operation := by
  simp only [Number.polled, Watched.polled, watch_bind, watch_poll, watch_answer]

theorem watch_product (n k acc : Nat) :
    watch fires (ExceptT.lift (Number.product n k acc)) = Watched.product fires n k acc := by
  induction n generalizing k acc with
  | zero => rfl
  | succ n ih =>
    rw [Watched.product, Number.product]
    by_cases due : k % Number.factorsPerPoll = 0
    · simp only [due, if_true, ← ih, ← watch_poll, ← watch_bind]
      rfl
    · simp only [due, if_false, ← ih]

@[simp] theorem watch_factorial (x : Number) :
    watch fires x.factorial = Watched.factorial fires x := by
  simp only [Number.factorial, Watched.factorial, watch_bind, watch_answer, watch_product,
    watch_pure]

@[simp] theorem watch_unary (op : Unary) (x : Number) :
    watch fires (op.run x) = Watched.unary fires op x := by
  cases op <;> simp only [Unary.run, Watched.unary, watch_pure, watch_polled, watch_factorial]

@[simp] theorem watch_apply (r : Registry) (mayMultiply mustMultiply : Bool) (v w : Value) :
    watch fires (v.apply r mayMultiply mustMultiply w) =
      Watched.apply fires r mayMultiply mustMultiply v w := by
  cases v with
  | number x => cases mayMultiply <;> simp [Value.apply, Watched.apply]
  | function name => cases mustMultiply <;> simp [Value.apply, Watched.apply]
  | _ => simp [Value.apply, Watched.apply]

@[simp] theorem watch_convert (x : Number) (target : Value) :
    watch fires (Value.convert x target) = Watched.convert fires x target := by
  cases target <;> simp [Value.convert, Watched.convert]

theorem watch_evaluateWith (r : Registry) (lookup : String → Evaluation Value) (t : Tree) :
    watch fires (t.evaluateWith r lookup) =
      Watched.evaluateWith fires r (fun n => watch fires (lookup n)) t := by
  induction t with
  | literal t => simp [Tree.evaluateWith, Watched.evaluateWith]
  | identifier n => simp [Tree.evaluateWith, Watched.evaluateWith]
  | unary op t ih => simp [Tree.evaluateWith, Watched.evaluateWith, ih]
  | binary op l r' ihl ihr =>
    cases op with
    | arithmetic op => simp [Tree.evaluateWith, Watched.evaluateWith, ihl, ihr]
    | juxtaposition form => simp [Tree.evaluateWith, Watched.evaluateWith, ihl, ihr]
    | conversion =>
      simp only [Tree.evaluateWith, Watched.evaluateWith, watch_bind, watch_poll, ihr]
      congr 1
      funext _
      congr 1
      funext target
      by_cases h : target.kind = .function <;> simp [h, ihl]

theorem watch_plainLookup (env : Environment) (name : String) :
    watch fires (env.plainLookup name) = Watched.plainLookup env name := by
  unfold Environment.plainLookup Watched.plainLookup
  rcases Builtin.find? env.mode name with _ | (v | digits) <;> simp

theorem watch_resolve (env : Environment) (name : String) :
    watch fires (env.resolve name) = Watched.resolve fires env name := by
  unfold Environment.resolve Watched.resolve
  rcases Builtin.find? env.mode name with _ | (v | digits)
  · exact watch_plainLookup fires env name
  · exact watch_plainLookup fires env name
  · simp [Environment.constant, Watched.constant, watch_evaluateWith, watch_plainLookup]

theorem watch_evaluate (env : Environment) (t : Tree) :
    watch fires (t.evaluate env) = Watched.evaluate fires env t := by
  simp only [Tree.evaluate, Watched.evaluate, watch_evaluateWith, watch_resolve]

end Evaluation

/-- With `k` polls allowed, an evaluation gives the answer of the uninterrupted one, a value or
a failure, with as many polls; or it is interrupted at poll `k + 1`, if the uninterrupted
one makes more than `k`. -/
theorem Tree.evaluate_after (env : Environment) (t : Tree) (k : Nat) :
    (Watched.evaluate Polling.never env t).runFrom 0 =
      ((t.evaluate env).ending, (t.evaluate env).polls) ∧
    (Watched.evaluate (Polling.after k) env t).runFrom 0 =
      (if (t.evaluate env).polls ≤ k then ((t.evaluate env).ending, (t.evaluate env).polls)
      else (.error .interrupted, k + 1)) ∧
    (t.evaluate env).computation.run Polling.never =
      (some (t.evaluate env).result, (t.evaluate env).polls) ∧
    (t.evaluate env).computation.run (Polling.after k) =
      (if (t.evaluate env).polls ≤ k then (some (t.evaluate env).result, (t.evaluate env).polls)
      else (none, k + 1)) := by
  rw [← Evaluation.watch_evaluate, ← Evaluation.watch_evaluate]
  exact ⟨Evaluation.watch_never _, Evaluation.watch_after _ k, Polling.run_never _,
    Polling.run_after _ k⟩

end Calculator
