import Calculator.Closed.Function

/-! The algebra system behind powers and named functions. It answers with a closed form, or with
none where there is no finite value. The calculator asks it for a power, a real root, a logarithm
to a base and the value of an elementary function, and whether a number is real; everything it
does with the answers is independent of how they are found. -/

namespace Calculator

structure AlgebraSystem where
  power? : Closed → Closed → Option Closed
  realRoot? : Nat → Closed → Option Closed
  logarithm? : Nat → Closed → Option Closed
  elementary? : Elementary → Closed → Option Closed
  isReal : Closed → Bool

namespace AlgebraSystem

/-- The system that runs. -/
def standard : AlgebraSystem where
  power? := Closed.power?
  realRoot? := Closed.realRoot?
  logarithm? := Closed.logarithm?
  elementary? := Closed.valueAt?
  isReal := Closed.isReal

@[simp] theorem standard_power? : standard.power? = Closed.power? := rfl
@[simp] theorem standard_realRoot? : standard.realRoot? = Closed.realRoot? := rfl
@[simp] theorem standard_logarithm? : standard.logarithm? = Closed.logarithm? := rfl
@[simp] theorem standard_elementary? : standard.elementary? = Closed.valueAt? := rfl

end AlgebraSystem

inductive NamedFunction
  | elementary (f : Elementary)
  | sqrt | cbrt | log2 | log10
  deriving DecidableEq

namespace NamedFunction

def name : NamedFunction → String
  | elementary .sin => "sin"
  | elementary .cos => "cos"
  | elementary .tan => "tan"
  | elementary .asin => "asin"
  | elementary .acos => "acos"
  | elementary .atan => "atan"
  | elementary .sinh => "sinh"
  | elementary .cosh => "cosh"
  | elementary .tanh => "tanh"
  | elementary .asinh => "asinh"
  | elementary .acosh => "acosh"
  | elementary .atanh => "atanh"
  | elementary .ln => "ln"
  | elementary .exp => "exp"
  | elementary .abs => "abs"
  | sqrt => "sqrt"
  | cbrt => "cbrt"
  | log2 => "log2"
  | log10 => "log10"

def all : List NamedFunction :=
  [elementary .sin, elementary .cos, elementary .tan, elementary .asin, elementary .acos,
    elementary .atan, elementary .sinh, elementary .cosh, elementary .tanh, elementary .asinh,
    elementary .acosh, elementary .atanh, elementary .ln, elementary .exp, elementary .abs,
    sqrt, cbrt, log2, log10]

def ofName? (s : String) : Option NamedFunction := all.find? fun f => f.name = s

/-- The value of a named function. Real numbers have a real cube root. -/
def valueIn? (A : AlgebraSystem) (f : NamedFunction) (e : Closed) : Option Closed :=
  match f with
  | .elementary f => A.elementary? f e
  | .sqrt => A.power? e (.ofRat (1 / 2))
  | .cbrt => if A.isReal e then A.realRoot? 3 e else A.power? e (.ofRat (1 / 3))
  | .log2 => A.logarithm? 2 e
  | .log10 => A.logarithm? 10 e

end NamedFunction
end Calculator
