import Calculator.Enclosure.Elementary

/-! Rectangles of complex numbers with sides parallel to the axes. A box whose imaginary
side is the point zero is a set of real numbers, and the functions below keep it real
wherever they map reals to reals. On the cuts of the inverse functions they take the
principal values: real arguments above one have `asin x = π / 2 - i acosh x`. -/

namespace Calculator.Enclosure

structure Box where
  re : Interval
  im : Interval
  deriving DecidableEq

namespace Box

def zero : Box := ⟨.zero, .zero⟩
def one : Box := ⟨.one, .zero⟩
def real (x : Interval) : Box := ⟨x, .zero⟩
def ofRat (p : Nat) (q : Rat) : Box := real (.ofRat p q)

instance instInhabited : Inhabited Box := ⟨zero⟩

def isReal (z : Box) : Bool := z.im.isZero
def isImaginary (z : Box) : Bool := z.re.isZero

def neg (z : Box) : Box := ⟨-z.re, -z.im⟩
instance instNeg : Neg Box := ⟨neg⟩

def add (p : Nat) (z w : Box) : Box := ⟨.add p z.re w.re, .add p z.im w.im⟩
def sub (p : Nat) (z w : Box) : Box := add p z (-w)

def mul (p : Nat) (z w : Box) : Box :=
  ⟨.sub p (.mul p z.re w.re) (.mul p z.im w.im), .add p (.mul p z.re w.im) (.mul p z.im w.re)⟩

def turn (z : Box) : Box := ⟨-z.im, z.re⟩

def half (z : Box) : Box := ⟨z.re.half, z.im.half⟩

def normSq (p : Nat) (z : Box) : Interval := .add p (z.re.square p) (z.im.square p)

def abs (p : Nat) (z : Box) : Interval :=
  if z.isReal then z.re.abs
  else if z.isImaginary then z.im.abs
  else .sqrt p (normSq p z)

def div? (p : Nat) (z w : Box) : Option Box :=
  if w.isReal then do return ⟨← z.re.div? p w.re, ← z.im.div? p w.re⟩
  else if w.isImaginary then do return ⟨← z.im.div? p w.im, ← (-z.re).div? p w.im⟩
  else do
    let n := normSq p w
    let t := mul p z ⟨w.re, -w.im⟩
    return ⟨← t.re.div? p n, ← t.im.div? p n⟩

def npow (p : Nat) (acc z : Box) (n : Nat) : Box :=
  if n = 0 then acc
  else npow p (if n % 2 = 1 then mul p acc z else acc) (mul p z z) (n / 2)
  termination_by n
  decreasing_by omega

def zpow? (p : Nat) (z : Box) (n : Int) : Option Box :=
  let w := p + 8 + 2 * Binary.bitCount n
  let t := npow w one z n.natAbs
  if n < 0 then div? w one t else some t

/-- How far an exponential may grow: up to here, its exponent can be written out. -/
def steepest : Int := 20000000

/-- Whether one side is no larger than a periodic function can have it, and the other one no
larger than an exponential. -/
def isModerate (turning growing : Interval) : Bool :=
  turning.isWithin Interval.farthest && growing.isWithin steepest

def exp? (p : Nat) (z : Box) : Option Box :=
  if isModerate z.im z.re then
    let r := Interval.exp p z.re
    let (s, c) := Interval.sinCos p z.im
    some ⟨.mul p r c, .mul p r s⟩
  else none

def ln? (p : Nat) (z : Box) : Option Box :=
  if z.isReal then
    if z.re.isPositive then some (real (.ln p z.re))
    else if z.re.isNegative then some ⟨.ln p (-z.re), .pi p⟩
    else none
  else do
    let turn ← Interval.angle? p z.re z.im
    if z.isImaginary then return ⟨.ln p z.im.abs, turn⟩
    else return ⟨(Interval.ln p (normSq p z)).half, turn⟩

/-- `exp (w ln z)`. -/
def pow? (p : Nat) (z w : Box) : Option Box := do
  exp? p (mul p w (← ln? p z))

def sqrt? (p : Nat) (z : Box) : Option Box :=
  if z.isReal then
    some ⟨.sqrt p z.re, .sqrt p (-z.re)⟩
  else do
    let l ← ln? p z
    exp? p l.half

def sin (p : Nat) (z : Box) : Box :=
  let (s, c) := Interval.sinCos p z.re
  ⟨.mul p s (.cosh p z.im), .mul p c (.sinh p z.im)⟩

def cos (p : Nat) (z : Box) : Box :=
  let (s, c) := Interval.sinCos p z.re
  ⟨.mul p c (.cosh p z.im), -(.mul p s (.sinh p z.im))⟩

def tan? (p : Nat) (z : Box) : Option Box := div? p (sin p z) (cos p z)

def sinh (p : Nat) (z : Box) : Box :=
  let (s, c) := Interval.sinCos p z.im
  ⟨.mul p (.sinh p z.re) c, .mul p (.cosh p z.re) s⟩

def cosh (p : Nat) (z : Box) : Box :=
  let (s, c) := Interval.sinCos p z.im
  ⟨.mul p (.cosh p z.re) c, .mul p (.sinh p z.re) s⟩

def tanh? (p : Nat) (z : Box) : Option Box :=
  if z.isReal then some (real (.tanh p z.re)) else div? p (sinh p z) (cosh p z)

/-- Real members may reach past one on either side, where the value leaves the real axis:
downwards above one and upwards below minus one. -/
def asinReal (p : Nat) (x : Interval) : Option Box :=
  let q := Interval.quarterTurn (p + 24)
  if x.atLeast .one then some ⟨q, -(.acosh p x)⟩
  else if x.atMost (.ofInt (-1)) then some ⟨-q, .acosh p (-x)⟩
  else if x.atMost .one && x.atLeast (.ofInt (-1)) then some (real (.asin p x))
  else if x.atLeast (.ofInt (-1)) then
    some ⟨⟨(Interval.asinPoint p x.lo).lo, q.hi⟩, -⟨.zero, (Interval.acoshPoint p x.hi).hi⟩⟩
  else if x.atMost .one then
    some ⟨⟨-q.hi, (Interval.asinPoint p x.hi).hi⟩, ⟨.zero, (Interval.acoshPoint p (-x.lo)).hi⟩⟩
  else none

/-- `asin z = -i ln (i z + √(1 - z²))`. -/
def asin? (p : Nat) (z : Box) : Option Box :=
  if z.isReal then asinReal p z.re
  else do
    let root ← sqrt? p (sub p one (mul p z z))
    let l ← ln? p (add p z.turn root)
    return -l.turn

/-- `acos z = π / 2 - asin z`; on the real axis below one the arc cosine itself is used. -/
def acos? (p : Nat) (z : Box) : Option Box :=
  if z.isReal && z.re.atMost .one && z.re.atLeast (.ofInt (-1)) then some (real (.acos p z.re))
  else if z.isReal && z.re.atLeast .one then some ⟨.zero, .acosh p z.re⟩
  else do
    let s ← asin? p z
    return sub p (real (.quarterTurn (p + 24))) s

/-- `atan z = i / 2 (ln (1 - i z) - ln (1 + i z))`. -/
def atan? (p : Nat) (z : Box) : Option Box :=
  if z.isReal then some (real (.atan p z.re))
  else do
    let below ← ln? p (sub p one z.turn)
    let above ← ln? p (add p one z.turn)
    return (sub p below above).half.turn

/-- `asinh z = ln (z + √(z² + 1))`. -/
def asinh? (p : Nat) (z : Box) : Option Box :=
  if z.isReal then some (real (.asinh p z.re))
  else if z.isImaginary then do
    let s ← asinReal p z.im
    return s.turn
  else do
    let root ← sqrt? p (add p (mul p z z) one)
    ln? p (add p z root)

/-- Real members below one have a purely imaginary value or the imaginary part `π`. -/
def acoshReal (p : Nat) (x : Interval) : Option Box :=
  if x.atLeast .one then some (real (.acosh p x))
  else if x.atMost (.ofInt (-1)) then some ⟨.acosh p (-x), .pi p⟩
  else if x.atMost .one && x.atLeast (.ofInt (-1)) then some ⟨.zero, .acos p x⟩
  else if x.atLeast (.ofInt (-1)) then
    some ⟨⟨.zero, (Interval.acoshPoint p x.hi).hi⟩, ⟨.zero, (Interval.acosPoint p x.lo).hi⟩⟩
  else none

/-- `acosh z = ln (z + √(z + 1) √(z - 1))`. -/
def acosh? (p : Nat) (z : Box) : Option Box :=
  if z.isReal then acoshReal p z.re
  else if z.isImaginary then
    let q := Interval.quarterTurn (p + 24)
    if z.im.isPositive then some ⟨.asinh p z.im, q⟩
    else if z.im.isNegative then some ⟨.asinh p (-z.im), -q⟩
    else none
  else do
    let above ← sqrt? p (add p z one)
    let below ← sqrt? p (sub p z one)
    ln? p (add p z (mul p above below))

/-- `atanh z = (ln (1 + z) - ln (1 - z)) / 2`. -/
def atanh? (p : Nat) (z : Box) : Option Box :=
  if z.isReal && z.re.hi.lt .one && (Binary.ofInt (-1)).lt z.re.lo then
    some (real (.atanh p z.re))
  else if z.isImaginary then some ⟨.zero, .atan p z.im⟩
  else do
    let above ← ln? p (add p one z)
    let below ← ln? p (sub p one z)
    return (sub p above below).half

end Box
end Calculator.Enclosure
