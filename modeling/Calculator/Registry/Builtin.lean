import Calculator.Registry

/-! The functions that the calculator comes with. -/

namespace Calculator.Registry

def numeric (c : Category) (f : NamedFunction) (description : String)
    (examples : List String) : Definition :=
  ⟨f.name, description, c, .named f, examples⟩

def algebraic : List Definition :=
  [ numeric .algebraic .sqrt "Square root (principal root for negative input)"
      ["sqrt 9", "sqrt 2 as dp"],
    numeric .algebraic .cbrt "Cube root (real root for real input)" ["cbrt (-8)"],
    numeric .algebraic (.elementary .abs) "Absolute value (modulus for complex input)"
      ["abs (-3)"] ]

def trigonometric : List Definition :=
  [ numeric .trigonometric (.elementary .sin) "Sine of an angle in radians" ["sin (pi / 2)"],
    numeric .trigonometric (.elementary .cos) "Cosine of an angle in radians" [],
    numeric .trigonometric (.elementary .tan) "Tangent of an angle in radians" [],
    numeric .trigonometric (.elementary .asin) "Inverse sine, in radians" [],
    numeric .trigonometric (.elementary .acos) "Inverse cosine, in radians" [],
    numeric .trigonometric (.elementary .atan) "Inverse tangent, in radians" ["4 atan 1"] ]

def hyperbolic : List Definition :=
  [ numeric .hyperbolic (.elementary .sinh) "Hyperbolic sine" [],
    numeric .hyperbolic (.elementary .cosh) "Hyperbolic cosine" [],
    numeric .hyperbolic (.elementary .tanh) "Hyperbolic tangent" [],
    numeric .hyperbolic (.elementary .asinh) "Inverse hyperbolic sine" [],
    numeric .hyperbolic (.elementary .acosh) "Inverse hyperbolic cosine" [],
    numeric .hyperbolic (.elementary .atanh) "Inverse hyperbolic tangent" [] ]

def exponential : List Definition :=
  [ numeric .exponential (.elementary .exp) "e raised to the given power" [],
    numeric .exponential (.elementary .ln) "Natural logarithm" ["ln e"],
    numeric .exponential .log2 "Base-2 logarithm" [],
    numeric .exponential .log10 "Base-10 logarithm" ["log10 1000"] ]

def presentation : List Definition :=
  [ ⟨"approximately", "Marks a value as approximate", .presentation, .approximately,
      ["approx. 3.14159"]⟩,
    ⟨"base", "Display base from a radix between 2 and 36", .presentation, .base,
      ["100 as base 3"]⟩ ]

def builtinDefinitions : List Definition :=
  algebraic ++ trigonometric ++ hyperbolic ++ exponential ++ presentation

def builtin : Registry := ⟨builtinDefinitions⟩

end Calculator.Registry
