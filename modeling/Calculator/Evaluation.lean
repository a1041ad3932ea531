import Calculator.Number.Text
import Calculator.Polling

/-! Evaluations: cancellable computations that may fail. The operations on numbers poll once
before they start, and a factorial polls at every 256th factor. -/

namespace Calculator

abbrev Evaluation (α : Type) := ExceptT Failure Polling α

namespace Evaluation

def answer {α : Type} (e : Except Failure α) : Evaluation α := ExceptT.mk (.done e)

def poll : Evaluation Unit := ExceptT.lift Polling.point

/-- The evaluation as a computation with a failure or a value as its result. -/
def computation {α : Type} (e : Evaluation α) : Polling (Except Failure α) := e.run

def result {α : Type} (e : Evaluation α) : Except Failure α := e.computation.result

def polls {α : Type} (e : Evaluation α) : Nat := e.computation.polls

/-- A step that cannot fail. Should it fail in the domain all the same, that is a defect. -/
def expectSuccess {α : Type} (subject : String) (e : Evaluation α) : Evaluation α :=
  tryCatch e fun f => throw (if f.isDomain then .internal subject f else f)

def announce {α : Type} (name : String) (e : Evaluation α) : Evaluation α :=
  ExceptT.mk (e.computation.announce name)

end Evaluation

namespace Number
open Evaluation

def polled (operation : Unit → Except Failure Number) : Evaluation Number := do
  poll
  answer (operation ())

/-- How many factors a factorial multiplies between polls. -/
def factorsPerPoll : Nat := 256

/-- `acc * k * (k + 1) * …` with `n` factors, polling at the factors that are due. -/
def product : (n k acc : Nat) → Polling Nat
  | 0, _, acc => .done acc
  | n + 1, k, acc =>
    if k % factorsPerPoll = 0 then .poll none fun _ => product n (k + 1) (acc * k)
    else product n (k + 1) (acc * k)

def factorial (x : Number) : Evaluation Number := do
  let n ← answer x.factorialArgument
  let p ← ExceptT.lift (product (n - 1) 2 1)
  return x.derive false (.ofInt p)

end Number
end Calculator
