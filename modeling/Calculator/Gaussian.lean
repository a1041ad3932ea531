/-! Gaussian rationals: complex numbers with rational real and imaginary parts.
This is the field in which the calculator's exact arithmetic takes place. Every operation
below is a field operation; division by zero is `0`, as in `Rat`, so callers put the
failing case in front. -/

namespace Calculator

structure Gaussian where
  re : Rat
  im : Rat
  deriving DecidableEq

namespace Gaussian

def ofRat (q : Rat) : Gaussian := ⟨q, 0⟩
def ofInt (n : Int) : Gaussian := ⟨n, 0⟩

def zero : Gaussian := ⟨0, 0⟩
def one : Gaussian := ⟨1, 0⟩
def i : Gaussian := ⟨0, 1⟩

instance instInhabited : Inhabited Gaussian := ⟨zero⟩

def add (z w : Gaussian) : Gaussian := ⟨z.re + w.re, z.im + w.im⟩
def neg (z : Gaussian) : Gaussian := ⟨-z.re, -z.im⟩
def sub (z w : Gaussian) : Gaussian := ⟨z.re - w.re, z.im - w.im⟩
def mul (z w : Gaussian) : Gaussian :=
  ⟨z.re * w.re - z.im * w.im, z.re * w.im + z.im * w.re⟩

instance instAdd : Add Gaussian := ⟨add⟩
instance instNeg : Neg Gaussian := ⟨neg⟩
instance instSub : Sub Gaussian := ⟨sub⟩
instance instMul : Mul Gaussian := ⟨mul⟩

def normSq (z : Gaussian) : Rat := z.re * z.re + z.im * z.im

def inv (z : Gaussian) : Gaussian := ⟨z.re / z.normSq, -z.im / z.normSq⟩
def div (z w : Gaussian) : Gaussian := z * w.inv

instance instDiv : Div Gaussian := ⟨div⟩

def isZero (z : Gaussian) : Bool := z.re == 0 && z.im == 0
def isReal (z : Gaussian) : Bool := z.im == 0
def isImaginary (z : Gaussian) : Bool := z.re == 0

def toInt? (z : Gaussian) : Option Int :=
  if z.im = 0 ∧ z.re.den = 1 then some z.re.num else none

/-- Square-and-multiply: `npowFrom acc z n` is `acc * z ^ n`. -/
def npowFrom (acc z : Gaussian) (n : Nat) : Gaussian :=
  if n = 0 then acc
  else npowFrom (if n % 2 = 1 then acc * z else acc) (z * z) (n / 2)
  termination_by n
  decreasing_by omega

/-- Powers of a real number need no complex product. -/
def npow (z : Gaussian) (n : Nat) : Gaussian :=
  if z.im = 0 then ⟨z.re ^ n, 0⟩ else npowFrom one z n

def zpow (z : Gaussian) : Int → Gaussian
  | .ofNat n => z.npow n
  | .negSucc n => (z.npow (n + 1)).inv

end Gaussian
end Calculator
