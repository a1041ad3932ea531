import Calculator.Closed.Radical
import Calculator.Gaussian

/-! Closed forms: the numbers that the calculator can name. A closed form is a Gaussian
rational, or an expression over Gaussian rationals that stands for a number which is not
known to be one. Exactness is thereby a matter of form: a value is exact when its closed
form is `exact`. -/

namespace Calculator

/-- Functions of one complex variable. Roots and logarithms to other bases are powers and
quotients of logarithms. -/
inductive Elementary
  | exp | ln
  | sin | cos | tan | asin | acos | atan
  | sinh | cosh | tanh | asinh | acosh | atanh
  | abs
  deriving DecidableEq

namespace Elementary

/-- The function whose value the argument may be: `f (f.inverse? z) = z` wherever the inner
value is defined. -/
def inverse? : Elementary → Option Elementary
  | .exp => some .ln
  | .sin => some .asin
  | .cos => some .acos
  | .tan => some .atan
  | .sinh => some .asinh
  | .cosh => some .acosh
  | .tanh => some .atanh
  | _ => none

end Elementary

inductive Closed
  | exact (z : Gaussian)
  /-- A multiple of a radical. -/
  | surd (c : Gaussian) (roots : Radical)
  | add (a b : Closed)
  | mul (a b : Closed)
  | div (a b : Closed)
  | pow (a b : Closed)
  | apply (f : Elementary) (a : Closed)
  /-- The real part of a number whose imaginary part vanishes. -/
  | realPart (a : Closed)
  /-- The number `i * im a`, for one whose real part vanishes. -/
  | imagPart (a : Closed)
  deriving DecidableEq

namespace Closed

instance instInhabited : Inhabited Closed := ⟨.exact .zero⟩

def zero : Closed := .exact .zero
def one : Closed := .exact .one
def ofRat (q : Rat) : Closed := .exact (.ofRat q)
def ofInt (n : Int) : Closed := .exact (.ofInt n)

def gaussian? : Closed → Option Gaussian
  | .exact z => some z
  | _ => none

def isExact (e : Closed) : Bool := e.gaussian?.isSome

def toInt? (e : Closed) : Option Int := e.gaussian?.bind Gaussian.toInt?

end Closed
end Calculator
