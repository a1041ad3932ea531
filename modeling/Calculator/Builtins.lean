import Calculator.Scope

/-! Names that need no binding. The standard table has the constants, the functions, the
styles, the marker `dp` and the display bases; the compatibility table has a few functions
only. Constants are given by their digits. -/

namespace Calculator

inductive Mode
  | standard | compatibility
  deriving DecidableEq

namespace Mode

def text : Mode → String
  | standard => "default"
  | compatibility => "compatibility"

def ofBool (compatible : Bool) : Mode := if compatible then compatibility else standard

end Mode

inductive Builtin
  | value (v : Value)
  | constant (digits : String)
  deriving DecidableEq

namespace Builtin

def approximately : String := "approximately"

def function (name : String) : String × Builtin := (name, .value (.function name))

def constants : List (String × Builtin) :=
  [("pi", .constant "3.141592653589793238"), ("e", .constant "2.718281828459045235")]

def functions : List (String × Builtin) :=
  ["sqrt", "cbrt", "abs", "sin", "cos", "tan", "asin", "acos", "atan", "sinh", "cosh", "tanh",
    "asinh", "acosh", "atanh", "ln", "log2", "log10", "exp", "base"].map function

def approximations : List (String × Builtin) :=
  [("approx.", .value (.function approximately)), function approximately]

def styles : List (String × Builtin) :=
  [("auto", .value (.format .auto)), ("exact", .value (.format .exact)),
    ("fraction", .value (.format .fraction)), ("float", .value (.format .float)),
    ("dp", .value .precisionMarker)]

def bases : List (String × Builtin) :=
  [("decimal", .value (.base .decimal)), ("hex", .value (.base .hexadecimal)),
    ("hexadecimal", .value (.base .hexadecimal)), ("binary", .value (.base .binary)),
    ("octal", .value (.base .octal))]

def table : Mode → List (String × Builtin)
  | .standard =>
    constants ++ [("i", .value (.number .i))] ++ functions ++ approximations ++ styles ++ bases
  | .compatibility =>
    ["exp", "sqrt", "ln", "log2", "log10", "tan", "asin"].map function ++ approximations

def find? (mode : Mode) (name : String) : Option Builtin := Bindings.find? name (table mode)

def names (mode : Mode) : List String := Text.sort (Bindings.names (table mode))

end Builtin
end Calculator
