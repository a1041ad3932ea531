import Calculator.Closed.Arithmetic

/-! Elementary functions, roots and logarithms of closed forms. `none` means that the function
is not defined at the argument. A function keeps an exact argument exact only at the
arguments where its value is a Gaussian rational: elementary functions at zero and one,
logarithms at powers of their base. -/

namespace Calculator.Closed

def modulus (z : Gaussian) : Closed :=
  if z.im = 0 then ofRat (if z.re < 0 then -z.re else z.re)
  else ratPower z.normSq (1 / 2)

/-- The complex conjugate of a sum of multiples of real numbers. -/
def conjugate? (e : Closed) : Option Closed :=
  let ms := Monomial.terms e
  let isRealFactor : Closed × Rat → Bool := fun (f, q) =>
    if q.den = 1 then isReal f else isPositive f
  if ms.all fun m => m.factors.all isRealFactor then
    some (normal (ms.map fun m => { m with coefficient := ⟨m.coefficient.re, -m.coefficient.im⟩ }))
  else none

def absolute (e : Closed) : Closed :=
  match e with
  | .exact z => modulus z
  | e => match axis e with
    | .real true => e
    | .real false => negate e
    | .imaginary true => scale (.neg .i) e
    | .imaginary false => scale .i e
    | .neither =>
      let square? := (conjugate? e).map (product e)
      (square?.bind fun s => power? s (ofRat (1 / 2))).getD (settle (.apply .abs e))

/-- Values at the arguments where a function of a Gaussian rational is one again. -/
def special? (f : Elementary) (z : Gaussian) : Option Gaussian :=
  if z = .zero then
    match f with
    | .exp | .cos | .cosh => some .one
    | .sin | .tan | .asin | .atan | .sinh | .tanh | .asinh | .atanh | .abs => some .zero
    | .ln | .acos | .acosh => none
  else if z = .one then
    match f with
    | .ln | .acos | .acosh => some .zero
    | _ => none
  else none

def isSingular (f : Elementary) (z : Gaussian) : Bool :=
  match f with
  | .ln => z = .zero
  | .atanh => z = .one ∨ z = .ofInt (-1)
  | .atan => z = .i ∨ z = .neg .i
  | _ => false

/-- On the imaginary axis the circular inverse functions are hyperbolic ones, turned. -/
def onImaginaryAxis? (f : Elementary) (e : Closed) : Option Closed :=
  let turned := scale (.neg .i) e
  match f with
  | .asin => some (scale .i (settle (.apply .asinh turned)))
  | .acos =>
    some (difference (settle (.apply .asin one)) (scale .i (settle (.apply .asinh turned))))
  | .atan => some (scale .i (settle (.apply .atanh turned)))
  | _ => none

def isImaginary (e : Closed) : Bool :=
  match e with
  | .exact z => z.isImaginary && !z.isZero
  | e => match axis e with
    | .imaginary _ => true
    | _ => false

/-- The sines of the angles up to a right one, which are multiples of `pi`. -/
def sines : List (Rat × Closed) :=
  [(0, zero), (1 / 6, ofRat (1 / 2)), (1 / 4, .surd ⟨1 / 2, 0⟩ [(2, 1 / 2)]),
    (1 / 3, .surd ⟨1 / 2, 0⟩ [(3, 1 / 2)]), (1 / 2, one)]

def tangents : List (Rat × Closed) :=
  [(0, zero), (1 / 6, .surd ⟨1 / 3, 0⟩ [(3, 1 / 2)]), (1 / 4, one),
    (1 / 3, .surd .one [(3, 1 / 2)])]

def sine? (q : Rat) : Option Closed :=
  let q := q - 2 * (q / 2).floor
  let acute := if 1 < q then q - 1 else q
  let value? := sines.lookup (if 1 / 2 < acute then 1 - acute else acute)
  value?.map fun v => if 1 < q then negate v else v

/-- The multiple of `pi` at which an odd function has a value. -/
def angle? (table : List (Rat × Closed)) (e : Closed) : Option Rat :=
  let find? (e : Closed) := (table.find? fun entry => entry.2 = e).map Prod.fst
  (find? e).or ((find? (negate e)).map (-·))

/-- The multiple of `pi` that a multiple of the arc tangent of one is. -/
def halfTurns? (e : Closed) : Option Rat :=
  match Monomial.ofClosed e with
  | ⟨c, [], [(f, q)]⟩ =>
    if c.im = 0 ∧ q = 1 ∧ f = .apply .atan one then some (c.re / 4) else none
  | _ => none

/-- Circular functions and their inverses at angles with well-known values. -/
def tabulated? (f : Elementary) (e : Closed) : Option Closed :=
  let ofAngle (q : Rat) : Closed := scale (.ofRat (4 * q)) (.apply .atan one)
  match f with
  | .sin => (halfTurns? e).bind sine?
  | .cos => (halfTurns? e).bind fun q => sine? (q + 1 / 2)
  | .tan => (halfTurns? e).bind fun q => do return quotient (← sine? q) (← sine? (q + 1 / 2))
  | .asin => (angle? sines e).map ofAngle
  | .acos => (angle? sines e).map fun q => ofAngle (1 / 2 - q)
  | .atan => (angle? tangents e).map ofAngle
  | _ => none

def applyGeneral? (f : Elementary) (e : Closed) : Option Closed :=
  if f = .tan ∧ settle (.apply .cos e) = zero then none
  else
    let turned? := if isImaginary e then onImaginaryAxis? f e else none
    some (((tabulated? f e).or turned?).getD (settle (.apply f e)))

/-- The logarithm of a positive rational other than one. It is real and not zero, however near
to one the rational is, so there is nothing to settle. -/
def ratLn (r : Rat) : Closed :=
  if r.num = 1 then .mul (ofInt (-1)) (.apply .ln (ofInt r.den)) else .apply .ln (ofRat r)

def valueAt? (f : Elementary) (e : Closed) : Option Closed :=
  match f, e with
  | .abs, e => some (absolute e)
  | f, .exact z =>
    if isSingular f z then none
    else match special? f z with
      | some v => some (.exact v)
      | none => if f = .ln ∧ isPositive e then some (ratLn z.re) else applyGeneral? f e
  | f, .apply g x =>
    if f.inverse? = some g then some x
    else if f = .ln ∧ g = .exp ∧ isReal x then some x
    else applyGeneral? f e
  | f, e => applyGeneral? f e

/-- How often the power of `b` is contained in a positive rational. -/
def exponentIn (b : Nat) (r : Rat) : Int :=
  (multiplicity b r.num.natAbs : Int) - multiplicity b r.den

/-- The logarithm of a positive rational to an integer base: the exponent of the base, and the
logarithm of what is left of the rational. -/
def ratLogarithm (b : Nat) (r : Rat) : Closed :=
  let k := exponentIn b r
  let s := r / (b : Rat) ^ k
  if s = 1 then ofInt k
  else
    let rest := .div (ratLn s) (ratLn b)
    if k = 0 then rest else .add (ofInt k) rest

def logarithm? (b : Nat) (e : Closed) : Option Closed :=
  let quotient? := (valueAt? .ln e).map fun l => quotient l (ratLn b)
  match e with
  | .exact z => if z.im = 0 ∧ 0 < z.re then some (ratLogarithm b z.re) else quotient?
  | _ => quotient?

/-- The root of odd degree that has the sign of its argument, for real numbers. -/
def realRoot? (n : Nat) (e : Closed) : Option Closed :=
  if isNegative e then (power? (negate e) (ofRat (1 / n))).map negate
  else power? e (ofRat (1 / n))

end Calculator.Closed
