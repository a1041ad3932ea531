import Calculator.Positional

/-! Binary floating-point numbers of 64 bits, as the exact values that they are. Results are
rounded once, to the nearest number, and a half goes to the even significand. -/

namespace Calculator
open Positional

/-- A finite number is `significand * 2 ^ exponent`, with a significand of 53 bits or with
the least exponent. -/
inductive Binary64
  | nan
  | infinite (negative : Bool)
  | finite (negative : Bool) (significand : Nat) (exponent : Int)
  deriving DecidableEq

namespace Binary64

def leastExponent : Int := -1074
def greatestExponent : Int := 971

def zero (negative : Bool) : Binary64 := finite negative 0 leastExponent

instance instInhabited : Inhabited Binary64 := ⟨zero false⟩

def ofFraction (negative : Bool) (n d : Nat) : Binary64 :=
  if n = 0 then zero negative
  else
    let e := max (exponent 2 n d - 52) leastExponent
    let (n', d') := shifted 2 n d (-e)
    let m := nearestEven n' d'
    let (m, e) := if m = Nat.pow 2 53 then (Nat.pow 2 52, e + 1) else (m, e)
    if greatestExponent < e then infinite negative else finite negative m e

/-- The number nearest to a rational, with a sign for zero. -/
def ofRat (negativeZero : Bool) (q : Rat) : Binary64 :=
  if q = 0 then zero negativeZero else ofFraction (decide (q < 0)) q.num.natAbs q.den

/-- Beyond these powers of ten, everything rounds to infinity and to zero. -/
def greatestDecimal : Int := 310
def leastDecimal : Int := -330

def ofDecimal (negative : Bool) (coefficient : Nat) (scale : Int) : Binary64 :=
  let left := scale + (digits 10 coefficient).length
  if coefficient = 0 then zero negative
  else if greatestDecimal < left then infinite negative
  else if left < leastDecimal then zero negative
  else
    let (n, d) := shifted 10 coefficient 1 scale
    ofFraction negative n d

def magnitude (significand : Nat) (exponent : Int) : Rat :=
  let (n, d) := shifted 2 significand 1 exponent
  mkRat n d

inductive Place
  | below
  | finite (q : Rat)
  | above
  deriving DecidableEq

def place? : Binary64 → Option Place
  | nan => none
  | infinite negative => some (if negative then .below else .above)
  | finite negative m e => some (.finite (if negative then -magnitude m e else magnitude m e))

def Place.le : Place → Place → Bool
  | below, _ => true
  | _, above => true
  | finite p, finite q => p ≤ q
  | _, _ => false

def isZero : Binary64 → Bool
  | finite _ m _ => m = 0
  | _ => false

def isNegative : Binary64 → Bool
  | nan => false
  | infinite negative => negative
  | finite negative _ _ => negative

def negate : Binary64 → Binary64
  | nan => nan
  | infinite negative => infinite !negative
  | finite negative m e => finite (!negative) m e

/-- The sum. A sum that is zero is negative only if both terms are. -/
def add (x y : Binary64) : Binary64 :=
  match x.place?, y.place? with
  | some (.finite p), some (.finite q) => ofRat (x.isNegative && y.isNegative) (p + q)
  | some (.finite _), some _ => y
  | some p, some q => if (q matches .finite _) || p = q then x else nan
  | _, _ => nan

def scale (x : Binary64) (k : Nat) : Binary64 :=
  match x.place? with
  | some (.finite q) => ofRat x.isNegative (q * (k : Rat))
  | _ => x

/-- The order of numbers, in which nothing compares with `nan`. -/
def le (x y : Binary64) : Bool :=
  match x.place?, y.place? with
  | some p, some q => p.le q
  | _, _ => false

end Binary64
end Calculator
