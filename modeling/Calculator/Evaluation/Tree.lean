import Calculator.Builtins
import Calculator.Evaluation
import Calculator.Registry
import Calculator.Tree

/-! The value of a tree. Every node polls before its work. Operands are evaluated from left
to right, but a conversion evaluates its target first. Arithmetic wants each operand to be a
number as soon as it is evaluated; a juxtaposition looks at its sides when it has both. -/

namespace Calculator

structure Environment where
  mode : Mode
  registry : Registry
  scope : Scope

namespace Value
open Evaluation

/-- Calls a function by name. That the argument is a number is checked after it is known
that the function exists. -/
def call (r : Registry) (name : String) (argument : Value) : Except Failure Value :=
  match r.find? name with
  | none => .error (.unregisteredFunction name)
  | some d =>
    match argument with
    | function a => .error (.functionPassed a name)
    | argument => do d.implementation.run (← argument.expectNumber)

/-- Applies a value to another one. A function is called, unless it stands in a product; a
number multiplies, unless it stands where a function has to be. -/
def apply (r : Registry) (mayMultiply mustMultiply : Bool) (left right : Value) :
    Evaluation Value :=
  match left with
  | function name =>
    if mustMultiply then throw (.functionMultiplied name) else answer (call r name right)
  | number x =>
    if mayMultiply then do
      let y ← answer right.expectNumber
      return number (← Number.polled fun _ => .ok (x.mul y))
    else do throw (.numberNotCallable (← answer x.render))
  | v => do
    let text ← answer v.render
    throw (if mayMultiply then .expectedApplicable v.kind.text text
      else .notCallable v.kind.text text)

def conversionSource : Value → Except Failure Number
  | function name => .error (.functionConverted name)
  | v => v.expectNumber

def markerDigits : Int := 10

/-- Converts a number to what the target says. A target number changes nothing. -/
def convert (x : Number) : Value → Evaluation Value
  | number _ => do return number (← Number.polled fun _ => .ok x)
  | format s => return number (x.withStyle s)
  | precisionMarker => return number (x.withStyle (.digits markerDigits))
  | base b => return number (x.withBase b)
  | function _ => throw .convertedToFunction

end Value

def Arithmetic.run (op : Arithmetic) (x y : Number) : Except Failure Number :=
  match op with
  | add => .ok (x.add y)
  | sub => .ok (x.sub y)
  | mul => .ok (x.mul y)
  | div => x.div y
  | pow => x.pow y

open Evaluation in
def Unary.run (op : Unary) (x : Number) : Evaluation Number :=
  match op with
  | parens => return x
  | plus => return x
  | negate => return x.negate
  | reciprocal => Number.polled fun _ => (Number.ofInt 1).div x
  | factorial => x.factorial

namespace Juxtaposition

def mayMultiply : Juxtaposition → Bool
  | call => false
  | _ => true

def mustMultiply : Juxtaposition → Bool
  | multiply => true
  | _ => false

end Juxtaposition

namespace Tree
open Evaluation

def evaluateWith (r : Registry) (lookup : String → Evaluation Value) : Tree → Evaluation Value
  | literal t => do
    poll
    return .number (← answer (Number.ofLiteral t))
  | identifier n => do
    poll
    lookup n
  | unary op t => do
    poll
    let v ← evaluateWith r lookup t
    let x ← answer v.expectNumber
    return .number (← op.run x)
  | binary (.arithmetic op) l r' => do
    poll
    let v ← evaluateWith r lookup l
    let x ← answer v.expectNumber
    let w ← evaluateWith r lookup r'
    let y ← answer w.expectNumber
    return .number (← Number.polled fun _ => op.run x y)
  | binary (.juxtaposition form) l r' => do
    poll
    let v ← evaluateWith r lookup l
    let w ← evaluateWith r lookup r'
    v.apply r form.mayMultiply form.mustMultiply w
  | binary .conversion l r' => do
    poll
    let target ← evaluateWith r lookup r'
    if target.kind = .function then throw .convertedToFunction
    let v ← evaluateWith r lookup l
    let x ← answer v.conversionSource
    Value.convert x target

end Tree

namespace Environment
open Evaluation

/-- The tree that a constant stands for: its digits, marked as approximate. -/
def constantTree (digits : String) : Tree :=
  .binary (.juxtaposition .implicit) (.identifier Builtin.approximately) (.literal digits)

/-- What a name means where no constant is expected. -/
def plainLookup (env : Environment) (name : String) : Evaluation Value :=
  match Builtin.find? env.mode name with
  | some (.value v) => return v
  | _ => answer (env.scope.get name)

/-- The value of a constant, found in the standard mode. -/
def constant (env : Environment) (name digits : String) : Evaluation Value :=
  announce name <| expectSuccess s!"Constant '{name}'" <|
    (constantTree digits).evaluateWith env.registry
      (plainLookup { env with mode := .standard })

/-- What a name means: a builtin of the mode if there is one, and else its binding. -/
def resolve (env : Environment) (name : String) : Evaluation Value :=
  match Builtin.find? env.mode name with
  | some (.constant digits) => env.constant name digits
  | _ => env.plainLookup name

end Environment

def Tree.evaluate (env : Environment) (t : Tree) : Evaluation Value :=
  t.evaluateWith env.registry env.resolve

end Calculator
