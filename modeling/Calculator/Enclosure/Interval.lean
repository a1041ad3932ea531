import Calculator.Enclosure.Binary

/-! Closed intervals with binary end points. Each operation answers an interval that holds
every result of the exact operation on members of its arguments. A number known exactly is
an interval with equal ends, and operations on such zeros stay exact: zero times anything
is the point zero. -/

namespace Calculator.Enclosure

structure Interval where
  lo : Binary
  hi : Binary
  deriving DecidableEq

namespace Interval

def point (x : Binary) : Interval := ⟨x, x⟩
def zero : Interval := point .zero
def one : Interval := point .one
def ofInt (n : Int) : Interval := point (.ofInt n)

instance instInhabited : Inhabited Interval := ⟨zero⟩

def isZero (x : Interval) : Bool := x.lo.isZero && x.hi.isZero
def isPositive (x : Interval) : Bool := x.lo.isPositive
def isNegative (x : Interval) : Bool := x.hi.isNegative
def isNonneg (x : Interval) : Bool := !x.lo.isNegative
def isNonpos (x : Interval) : Bool := !x.hi.isPositive
def containsZero (x : Interval) : Bool := !x.isPositive && !x.isNegative

def atMost (x : Interval) (b : Binary) : Bool := x.hi.le b
def atLeast (x : Interval) (b : Binary) : Bool := b.le x.lo

/-- Every member lies within `2 ^ k` of zero. -/
def isWithin (k : Int) (x : Interval) : Bool :=
  (x.lo.isZero || decide (x.lo.top ≤ k)) && (x.hi.isZero || decide (x.hi.top ≤ k))

/-- The bound of `isWithin`, for an interval that is not the point zero. -/
def top (x : Interval) : Int :=
  if x.lo.isZero then x.hi.top else if x.hi.isZero then x.lo.top else max x.lo.top x.hi.top

def neg (x : Interval) : Interval := ⟨-x.hi, -x.lo⟩
def scale (x : Interval) (k : Int) : Interval := ⟨x.lo.scale k, x.hi.scale k⟩
def half (x : Interval) : Interval := x.scale (-1)

instance instNeg : Neg Interval := ⟨neg⟩

def add (p : Nat) (x y : Interval) : Interval :=
  ⟨Binary.addFloor p x.lo y.lo, Binary.addCeil p x.hi y.hi⟩

def sub (p : Nat) (x y : Interval) : Interval := add p x (-y)

def mulNonneg (p : Nat) (x y : Interval) : Interval :=
  ⟨Binary.mulFloor p x.lo (if x.lo.isNegative then y.hi else y.lo),
    Binary.mulCeil p x.hi (if x.hi.isNegative then y.lo else y.hi)⟩

def mul (p : Nat) (x y : Interval) : Interval :=
  if x.isZero || y.isZero then zero
  else if y.isNonneg then mulNonneg p x y
  else if y.isNonpos then -(mulNonneg p x (-y))
  else if x.isNonneg then mulNonneg p y x
  else if x.isNonpos then -(mulNonneg p y (-x))
  else
    ⟨(Binary.mulFloor p x.lo y.hi).smaller (Binary.mulFloor p x.hi y.lo),
      (Binary.mulCeil p x.lo y.lo).larger (Binary.mulCeil p x.hi y.hi)⟩

def square (p : Nat) (x : Interval) : Interval :=
  if x.isNonneg then mulNonneg p x x
  else if x.isNonpos then mulNonneg p (-x) (-x)
  else ⟨.zero, (Binary.mulCeil p x.lo x.lo).larger (Binary.mulCeil p x.hi x.hi)⟩

def divPositive (p : Nat) (x y : Interval) : Interval :=
  ⟨Binary.divFloor p x.lo (if x.lo.isNegative then y.lo else y.hi),
    Binary.divCeil p x.hi (if x.hi.isNegative then y.hi else y.lo)⟩

/-- No answer while the divisor may be zero. -/
def div? (p : Nat) (x y : Interval) : Option Interval :=
  if x.isZero && !y.containsZero then some zero
  else if y.isPositive then some (divPositive p x y)
  else if y.isNegative then some (-(divPositive p x (-y)))
  else none

def divNat (p : Nat) (x : Interval) (n : Nat) : Interval :=
  ⟨Binary.divFloor p x.lo (.ofInt n), Binary.divCeil p x.hi (.ofInt n)⟩

def ofRat (p : Nat) (q : Rat) : Interval :=
  if q.den = 1 then ofInt q.num else ⟨Binary.ratFloor p q, Binary.ratCeil p q⟩

/-- The square root of members that are not negative; a lower end below zero is taken as
zero. -/
def sqrt (p : Nat) (x : Interval) : Interval :=
  ⟨if x.lo.isPositive then Binary.sqrtFloor p x.lo else .zero,
    if x.hi.isPositive then Binary.sqrtCeil p x.hi else .zero⟩

def abs (x : Interval) : Interval :=
  if x.isNonneg then x
  else if x.isNonpos then -x
  else ⟨.zero, x.lo.abs.larger x.hi.abs⟩

/-- Everything that is not farther from zero than some member. -/
def symmetric (x : Interval) : Interval :=
  let r := x.lo.abs.larger x.hi.abs
  ⟨-r, r⟩

/-- The part that lies between `-1` and `1`. -/
def clampUnit (x : Interval) : Interval :=
  ⟨x.lo.larger (.ofInt (-1)), x.hi.smaller .one⟩

def increasing (f : Binary → Interval) (x : Interval) : Interval :=
  if x.lo = x.hi then f x.lo else ⟨(f x.lo).lo, (f x.hi).hi⟩

def decreasing (f : Binary → Interval) (x : Interval) : Interval :=
  if x.lo = x.hi then f x.lo else ⟨(f x.hi).lo, (f x.lo).hi⟩

end Interval
end Calculator.Enclosure
