/-! Binary numbers `mantissa * 2 ^ exponent` and arithmetic rounded in a fixed direction.
An operation named `…Floor p` answers at most the exact result, one named `…Ceil p` at
least that, each with about `p` significant bits. Only the mantissa's size matters for
cost: exponents may be as large as they like, and a sum whose parts lie far apart never
writes the gap between them. -/

namespace Calculator.Enclosure

structure Binary where
  mantissa : Int
  exponent : Int
  deriving DecidableEq

namespace Binary

def zero : Binary := ⟨0, 0⟩
def one : Binary := ⟨1, 0⟩
def ofInt (n : Int) : Binary := ⟨n, 0⟩

instance instInhabited : Inhabited Binary := ⟨zero⟩

def bitCount (n : Int) : Nat := if n = 0 then 0 else n.natAbs.log2 + 1

/-- A nonzero value lies between `2 ^ (top - 1)` and `2 ^ top` in magnitude. -/
def top (x : Binary) : Int := x.exponent + bitCount x.mantissa

def isZero (x : Binary) : Bool := x.mantissa == 0
def isNegative (x : Binary) : Bool := decide (x.mantissa < 0)
def isPositive (x : Binary) : Bool := decide (0 < x.mantissa)

def neg (x : Binary) : Binary := ⟨-x.mantissa, x.exponent⟩
def abs (x : Binary) : Binary := ⟨x.mantissa.natAbs, x.exponent⟩
def scale (x : Binary) (k : Int) : Binary := ⟨x.mantissa, x.exponent + k⟩

instance instNeg : Neg Binary := ⟨neg⟩

def shiftLeft (n : Int) (k : Nat) : Int := n * (Nat.pow 2 k : Nat)

def floorTo (p : Nat) (x : Binary) : Binary :=
  let n := bitCount x.mantissa
  if n ≤ p then x else ⟨x.mantissa >>> (n - p), x.exponent + (n - p : Nat)⟩

def ceilTo (p : Nat) (x : Binary) : Binary := -(floorTo p (-x))

/-- Exact sum, written over the smaller of the two exponents. -/
def addExact (x y : Binary) : Binary :=
  if x.exponent ≤ y.exponent then
    ⟨x.mantissa + shiftLeft y.mantissa (y.exponent - x.exponent).toNat, x.exponent⟩
  else
    ⟨shiftLeft x.mantissa (x.exponent - y.exponent).toNat + y.mantissa, y.exponent⟩

/-- A lower bound of `x + y` when `y` lies below every bit that is kept of `x`. -/
def addTiny (p : Nat) (x y : Binary) : Binary :=
  if y.isNegative then floorTo p ⟨shiftLeft x.mantissa (p + 4) - 1, x.exponent - (p + 4 : Nat)⟩
  else x

def addFloor (p : Nat) (x y : Binary) : Binary :=
  if x.isZero then floorTo p y
  else if y.isZero then floorTo p x
  else if y.top + (p + 4 : Nat) < x.exponent then addTiny p x y
  else if x.top + (p + 4 : Nat) < y.exponent then addTiny p y x
  else floorTo p (addExact x y)

def addCeil (p : Nat) (x y : Binary) : Binary := -(addFloor p (-x) (-y))

def mulExact (x y : Binary) : Binary := ⟨x.mantissa * y.mantissa, x.exponent + y.exponent⟩
def mulFloor (p : Nat) (x y : Binary) : Binary := floorTo p (mulExact x y)
def mulCeil (p : Nat) (x y : Binary) : Binary := ceilTo p (mulExact x y)

def divFloor (p : Nat) (x y : Binary) : Binary :=
  let k := p + bitCount y.mantissa + 1 - bitCount x.mantissa
  floorTo p ⟨Int.fdiv (shiftLeft x.mantissa k) y.mantissa, x.exponent - y.exponent - k⟩

def divCeil (p : Nat) (x y : Binary) : Binary := -(divFloor p (-x) y)

/-- The mantissa widened to at least `2 p` bits over an even exponent. -/
def forSqrt (p : Nat) (x : Binary) : Nat × Int :=
  let k := 2 * p + 2 - bitCount x.mantissa
  let k := if (x.exponent - k) % 2 = 0 then k else k + 1
  ((shiftLeft x.mantissa k).toNat, (x.exponent - k) / 2)

def sqrtFloor (p : Nat) (x : Binary) : Binary :=
  let (n, e) := forSqrt p x
  floorTo p ⟨n.sqrt, e⟩

def sqrtCeil (p : Nat) (x : Binary) : Binary :=
  let (n, e) := forSqrt p x
  let r := n.sqrt
  ceilTo p ⟨if r * r = n then r else r + 1, e⟩

/-- Order of the values. Signs and magnitudes are looked at first, so numbers of very
different size are never brought to one exponent. -/
def le (x y : Binary) : Bool :=
  if x.mantissa ≤ 0 ∧ 0 ≤ y.mantissa then true
  else if 0 ≤ x.mantissa ∧ y.mantissa ≤ 0 then x.isZero && y.isZero
  else if x.top < y.top then decide (0 < x.mantissa)
  else if y.top < x.top then decide (x.mantissa < 0)
  else decide (0 ≤ (addExact y (-x)).mantissa)

def lt (x y : Binary) : Bool := !(le y x)
def smaller (x y : Binary) : Binary := if le x y then x else y
def larger (x y : Binary) : Binary := if le x y then y else x

def ratFloor (p : Nat) (q : Rat) : Binary := divFloor p (ofInt q.num) (ofInt q.den)
def ratCeil (p : Nat) (q : Rat) : Binary := divCeil p (ofInt q.num) (ofInt q.den)

def toIntFloor (x : Binary) : Int :=
  if 0 ≤ x.exponent then shiftLeft x.mantissa x.exponent.toNat
  else if x.top < 0 then (if x.isNegative then -1 else 0)
  else x.mantissa >>> (-x.exponent).toNat

end Binary
end Calculator.Enclosure
