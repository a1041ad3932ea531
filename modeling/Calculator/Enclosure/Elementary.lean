import Calculator.Enclosure.Series

/-! The remaining functions of one real variable, built from the exponential, the logarithm
and the arc tangent. An inverse function is asked only for members of its real domain. -/

namespace Calculator.Enclosure.Interval

def quarterTurn (w : Nat) : Interval := (pi w).half

/-- `asin x = atan (x / √((1 - x) (1 + x)))`. -/
def asinPoint (p : Nat) (x : Binary) : Interval :=
  let w := p + 24
  if Binary.one.le x then quarterTurn w
  else if x.le (.ofInt (-1)) then -(quarterTurn w)
  else
    let below := Binary.addExact .one (-x)
    let above := Binary.addExact .one x
    match div? w (point x) (sqrt w (mul w (point below) (point above))) with
    | some t => atan w t
    | none => ⟨-(quarterTurn w).hi, (quarterTurn w).hi⟩

/-- `acos x = 2 atan √((1 - x) / (1 + x))`. -/
def acosPoint (p : Nat) (x : Binary) : Interval :=
  let w := p + 24
  if x.le (.ofInt (-1)) then pi w
  else if Binary.one.le x then zero
  else
    let below := Binary.addExact .one (-x)
    let above := Binary.addExact .one x
    (atan w (sqrt w (divPositive w (point below) (point above)))).scale 1

def asin (p : Nat) (x : Interval) : Interval := increasing (asinPoint p) x
def acos (p : Nat) (x : Interval) : Interval := decreasing (acosPoint p) x

/-- Near zero the difference of the exponentials is taken term by term. -/
def sinhPoint (p : Nat) (x : Binary) : Interval :=
  let w := p + 24
  if x.isZero then zero
  else if x.top < 0 then sineSeries w (square w (point x)) (point x)
  else (sub w (expPoint w x) (expPoint w (-x))).half

def coshPoint (p : Nat) (x : Binary) : Interval :=
  let w := p + 24
  if x.isZero then one else (add w (expPoint w x) (expPoint w (-x))).half

def tanhPoint (p : Nat) (x : Binary) : Interval :=
  let w := p + 24
  if x.isZero then zero
  else if x.top < 0 then
    let s := sinhPoint w x.abs
    let t := divPositive w s (coshPoint w x)
    if x.isNegative then -t else t
  else
    let e := expPoint w (x.abs.scale 1)
    let t := clampUnit (sub w one (divPositive w (ofInt 2) (add w e one)))
    if x.isNegative then -t else t

def sinh (p : Nat) (x : Interval) : Interval := increasing (sinhPoint p) x
def tanh (p : Nat) (x : Interval) : Interval := increasing (tanhPoint p) x

/-- The hyperbolic cosine is even and grows with the magnitude. -/
def cosh (p : Nat) (x : Interval) : Interval := increasing (coshPoint p) x.abs

/-- `asinh x = ln (x + √(x² + 1))` for positive numbers, and odd. Near zero it is
`artanh (x / √(x² + 1))`. -/
def asinhPoint (p : Nat) (x : Binary) : Interval :=
  let w := p + 24
  if x.isZero then zero
  else
    let m := point x.abs
    let root := sqrt w (add w (square w m) one)
    let y := if x.top < 0 then oddSeries w false (divPositive w m root) else ln w (add w m root)
    if x.isNegative then -y else y

def asinh (p : Nat) (x : Interval) : Interval := increasing (asinhPoint p) x

/-- `acosh x = asinh √((x - 1) (x + 1))` for numbers from one on. -/
def acoshPoint (p : Nat) (x : Binary) : Interval :=
  let w := p + 24
  if x.le .one then zero
  else
    let below := point (Binary.addExact x (.ofInt (-1)))
    let above := point (Binary.addExact x .one)
    asinh w (sqrt w (mul w below above))

def acosh (p : Nat) (x : Interval) : Interval := increasing (acoshPoint p) x

/-- `atanh x = ln ((1 + x) / (1 - x)) / 2` strictly between `-1` and `1`. -/
def atanhPoint (p : Nat) (x : Binary) : Interval :=
  let w := p + 24
  if x.isZero then zero
  else if x.top < 0 then oddSeries w false (point x)
  else
    let below := point (Binary.addExact .one (-x))
    let above := point (Binary.addExact .one x)
    (ln w (divPositive w above below)).half

def atanh (p : Nat) (x : Interval) : Interval := increasing (atanhPoint p) x

/-- The angle of the point `(x, y)`, in `(-π, π]`. No answer while the point may lie at the
origin or the angle may jump. -/
def angle? (p : Nat) (x y : Interval) : Option Interval :=
  let w := p + 24
  if y.isZero then
    if x.isPositive then some zero else if x.isNegative then some (pi w) else none
  else if x.isPositive then (div? w y x).map (atan w)
  else if y.isPositive then (div? w x y).map fun t => sub w (quarterTurn w) (atan w t)
  else if y.isNegative then (div? w x y).map fun t => sub w (-(quarterTurn w)) (atan w t)
  else none

end Calculator.Enclosure.Interval
