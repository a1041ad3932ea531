import Calculator.Evaluation.Tree

/-! How a request to evaluate a tree ends: with a value, with a failure of the domain, or
cancelled. Any other failure is not an ending of its own. -/

namespace Calculator

inductive Outcome
  | value (v : Value)
  | failed (f : Failure)
  | interrupted
  deriving DecidableEq

namespace Outcome

def status : Outcome → String
  | value _ => "ok"
  | failed _ => "error"
  | interrupted => "interrupted"

def isSuccess : Outcome → Bool
  | value _ => true
  | _ => false

def message? : Outcome → Option String
  | value _ => none
  | failed f => some f.message
  | interrupted => some Polling.cancelledMessage

def value? : Outcome → Option Value
  | value v => some v
  | _ => none

def ofRun : Option (Except Failure Value) → Except Failure Outcome
  | none => .ok interrupted
  | some (.ok v) => .ok (value v)
  | some (.error f) => if f.isDomain then .ok (failed f) else .error f

end Outcome

def Tree.run (env : Environment) (fires : Nat → Bool) (t : Tree) : Except Failure Outcome :=
  Outcome.ofRun ((t.evaluate env).computation.run fires).1

end Calculator
