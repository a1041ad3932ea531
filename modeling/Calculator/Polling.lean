/-! Computations that can be cancelled. A computation stops at agreed points to be asked
whether it should go on, and is otherwise an ordinary value: either it is done, or it waits
at a poll and knows how to continue. Whoever runs it decides at which polls to stop. A poll
may carry a notice, the name of a constant whose evaluation begins there. -/

namespace Calculator

inductive Polling (α : Type) where
  | done (a : α)
  | poll (notice : Option String) (next : Unit → Polling α)

namespace Polling

def bind {α β : Type} : Polling α → (α → Polling β) → Polling β
  | done a, f => f a
  | poll notice next, f => poll notice fun _ => (next ()).bind f

instance instMonad : Monad Polling where
  pure := done
  bind := bind

def point : Polling Unit := poll none fun _ => done ()

/-- The same computation, with a notice at its first poll. -/
def announce {α : Type} (name : String) : Polling α → Polling α
  | done a => done a
  | poll _ next => poll (some name) next

/-- The result when nothing is ever cancelled. -/
def result {α : Type} : Polling α → α
  | done a => a
  | poll _ next => (next ()).result

def polls {α : Type} : Polling α → Nat
  | done _ => 0
  | poll _ next => (next ()).polls + 1

/-- Runs with an interrupt that is asked with the number of polls before, from `n` on.
Answers the result, or nothing when the interrupt fired, and the polls made so far. -/
def runFrom {α : Type} (fires : Nat → Bool) : Polling α → Nat → Option α × Nat
  | done a, n => (some a, n)
  | poll _ next, n => if fires n then (none, n + 1) else (next ()).runFrom fires (n + 1)

def run {α : Type} (fires : Nat → Bool) (c : Polling α) : Option α × Nat := c.runFrom fires 0

def never : Nat → Bool := fun _ => false

def after (k : Nat) : Nat → Bool := fun n => k ≤ n

def cancelledMessage : String := "Computation cancelled"

end Polling
end Calculator
