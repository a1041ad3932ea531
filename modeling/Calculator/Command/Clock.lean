import Calculator.Command.Execution

/-! Running an execution against the clock. -/

namespace Calculator

namespace Polling

/-- Runs until a condition of the outside world, such as a clock, holds at a poll. Answers the
result, or nothing, and the notices of the polls made so far after the earlier ones. -/
def runWatched {α : Type} (expired : BaseIO Bool) :
    Polling α → List String → BaseIO (Option α × List String)
  | done a, seen => pure (some a, seen)
  | poll notice next, seen => do
    let seen := match notice with
      | some name => seen ++ [name]
      | none => seen
    if (← expired) then pure (none, seen) else (next ()).runWatched expired seen

end Polling

namespace Execution

def nanosecondsPerMillisecond : Nat := 1000000

/-- Whether a time has passed since now; no time never passes. -/
def stopwatch (timeout : Option Nat) : BaseIO (BaseIO Bool) := do
  let start ← IO.monoNanosNow
  match timeout with
  | none => return pure false
  | some t => return do
    let now ← IO.monoNanosNow
    return start + t * nanosecondsPerMillisecond ≤ now

def run : Execution → BaseIO Ending
  | finished e => return e
  | evaluation timeout work finish => do
    let expired ← stopwatch timeout
    return finish (← work.runWatched expired [])

end Execution
end Calculator
