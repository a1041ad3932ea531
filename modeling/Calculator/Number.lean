import Calculator.AlgebraSystem
import Calculator.Failure
import Calculator.Literal
import Calculator.Presentation

/-! Numbers of the calculator: a value, whether it is only approximately known, and how it
asks to be shown. The mark of approximation is never taken back, and a value that is not
exact carries it; style and base come from the left operand. -/

namespace Calculator

structure Number where
  value : Closed
  approx : Bool
  style : Style
  base : Radix
  exact_of_not_approx : approx = false → value.isExact = true
  deriving DecidableEq

namespace Number

def ofClosed (v : Closed) : Number := ⟨v, !v.isExact, .auto, .decimal, by simp⟩
def ofRat (q : Rat) : Number := ofClosed (.ofRat q)
def ofInt (n : Int) : Number := ofClosed (.ofInt n)
def i : Number := ofClosed (.exact .i)

instance instInhabited : Inhabited Number := ⟨ofInt 0⟩

def ofLiteral (text : String) : Except Failure Number :=
  match Literal.value? text with
  | some q => .ok (ofRat q)
  | none => .error (.invalidLiteral text)

/-- A new value in the presentation of `x`, approximate if `x` or another operand is, or if
the value is not exact. -/
def derive (x : Number) (other : Bool) (v : Closed) : Number :=
  { x with
    value := v, approx := x.approx || other || !v.isExact, exact_of_not_approx := by simp_all }

def negate (x : Number) : Number := x.derive false (Closed.negate x.value)
def add (x y : Number) : Number := x.derive y.approx (Closed.sum x.value y.value)
def sub (x y : Number) : Number := x.derive y.approx (Closed.difference x.value y.value)
def mul (x y : Number) : Number := x.derive y.approx (Closed.product x.value y.value)

def div (x y : Number) : Except Failure Number :=
  if y.value = .zero then .error .divisionByZero
  else .ok (x.derive y.approx (Closed.quotient x.value y.value))

def powIn (A : AlgebraSystem) (x y : Number) : Except Failure Number :=
  if x.value = .zero ∧ Closed.isNegative y.value then .error .divisionByZero
  else match A.power? x.value y.value with
    | some v => .ok (x.derive y.approx v)
    | none => .error .undefinedPower

def pow (x y : Number) : Except Failure Number := powIn .standard x y

def factorialArgument (x : Number) : Except Failure Nat :=
  match x.value.toInt? with
  | some (.ofNat n) => .ok n
  | _ => .error .factorialDomain

def approximately (x : Number) : Number := { x with approx := true, exact_of_not_approx := nofun }
def withStyle (x : Number) (s : Style) : Number := { x with style := s }
def withBase (x : Number) (b : Radix) : Number := { x with base := b }

end Number
end Calculator
