import Calculator.Binary64

/-! Deadlines: points of time after which a computation is to be cancelled. Times are binary
numbers of seconds, and all arithmetic on them is rounded. -/

namespace Calculator

structure Deadline where
  instant : Binary64
  deriving DecidableEq

namespace Deadline

def seconds (milliseconds : Int) : Binary64 := Binary64.ofRat false (mkRat milliseconds 1000)

def start (milliseconds : Int) (clock : Binary64) : Deadline :=
  ⟨clock.add (seconds milliseconds)⟩

def isReached (d : Deadline) (clock : Binary64) : Bool := d.instant.le clock

end Deadline
end Calculator
