import Calculator.Closed
import Calculator.Enclosure.Box

/-! Where a closed form lies. `enclose p` computes a box around the number with `p` bits of
working precision. `locate` raises the precision until every part of the box has a definite
sign, and `settle` uses it to put a closed form into the shape the rest of the calculator
relies on: a part that no precision tells from zero is zero from then on. How near to zero a
number may come that is not zero depends on the rationals it is made of, and so do the
precisions. -/

namespace Calculator.Closed
open Enclosure

def encloseRoots (p : Nat) (roots : Radical) : Interval :=
  if roots.all fun (_, e) => e = 1 / 2 then
    (Interval.ofInt (roots.foldl (fun product (n, _) => product * n) 1)).sqrt p
  else
    Interval.exp p (roots.foldl (fun sum (n, e) =>
      .add p sum (.mul p (.ofRat p e) (.ln p (.ofInt n)))) .zero)

def encloseApply (p : Nat) (f : Elementary) (z : Box) : Option Box :=
  match f with
  | .exp => z.exp? p
  | .ln => z.ln? p
  | .sin => if Box.isModerate z.re z.im then some (z.sin p) else none
  | .cos => if Box.isModerate z.re z.im then some (z.cos p) else none
  | .tan => if Box.isModerate z.re z.im then z.tan? p else none
  | .asin => z.asin? p
  | .acos => z.acos? p
  | .atan => z.atan? p
  | .sinh => if Box.isModerate z.im z.re then some (z.sinh p) else none
  | .cosh => if Box.isModerate z.im z.re then some (z.cosh p) else none
  | .tanh => if Box.isModerate z.im z.re then z.tanh? p else none
  | .asinh => z.asinh? p
  | .acosh => z.acosh? p
  | .atanh => z.atanh? p
  | .abs => some (.real (z.abs p))

def enclosePow (p : Nat) (z w : Box) (exponent : Closed) : Option Box :=
  match exponent.toInt? with
  | some n => z.zpow? p n
  | none => if exponent = .ofRat (1 / 2) then z.sqrt? p else z.pow? p w

def enclose (p : Nat) : Closed → Option Box
  | .exact z => some ⟨.ofRat p z.re, .ofRat p z.im⟩
  | .surd c roots =>
    some (.mul p ⟨.ofRat p c.re, .ofRat p c.im⟩ (.real (encloseRoots p roots)))
  | .add a b => do return .add p (← enclose p a) (← enclose p b)
  | .mul a b => do return .mul p (← enclose p a) (← enclose p b)
  | .div a b => do (← enclose p a).div? p (← enclose p b)
  | .pow a b => do enclosePow p (← enclose p a) (← enclose p b) b
  | .apply f a => do encloseApply p f (← enclose p a)
  | .realPart a => do return .real (← enclose p a).re
  | .imagPart a => do return ⟨.zero, (← enclose p a).im⟩

def ratBits (q : Rat) : Nat := Binary.bitCount q.num + Binary.bitCount q.den

def bits : Closed → Nat
  | .exact z => ratBits z.re + ratBits z.im
  | .surd c roots =>
    ratBits c.re + ratBits c.im + (roots.map fun (n, e) => ratBits n + ratBits e).sum
  | .add a b => bits a + bits b
  | .mul a b => bits a + bits b
  | .div a b => bits a + bits b
  | .pow a b => bits a + bits b
  | .apply _ a => bits a
  | .realPart a => bits a
  | .imagPart a => bits a

/-- Working precisions from `least` bits on, in the order in which they are tried. From the
third on they have room for the rationals of the form as well. -/
def precisions (least : Nat) (e : Closed) : List Nat :=
  [least, 2 * least] ++ [4, 8, 16, 32, 64, 128].map fun k => k * least + bits e

def leastPrecision : Nat := 96

/-- Whether a part of the number is zero, as far as `p` bits tell. An interval that is still
around zero counts as zero once it is narrow at a high precision, for rationals with `digits`
binary digits. -/
def vanishes? (digits p : Nat) (x : Interval) : Option Bool :=
  if x.isZero then some true
  else if !x.containsZero then some false
  else if 4 * leastPrecision + digits ≤ p && x.isWithin (-200 - (digits / 2 : Nat)) then some true
  else none

/-- The first enclosure that decides about both parts, with what it decides. -/
def locateFrom (e : Closed) : List Nat → Option (Box × Bool × Bool)
  | [] => none
  | p :: rest =>
    match enclose p e with
    | none => locateFrom e rest
    | some b =>
      match vanishes? (bits e) p b.re, vanishes? (bits e) p b.im with
      | some r, some i => some (b, r, i)
      | _, _ => locateFrom e rest

def locate (e : Closed) : Option (Box × Bool × Bool) := locateFrom e (precisions leastPrecision e)

/-- The same number, with vanishing parts removed. No answer if the number could not be
located, as at a pole. -/
def settle? (e : Closed) : Option Closed := do
  let (b, r, i) ← locate e
  if r && i then return zero
  else if i then return if b.isReal then e else .realPart e
  else if r then return if b.isImaginary then e else .imagPart e
  else return e

def settle (e : Closed) : Closed := (settle? e).getD e

inductive Axis
  | real (positive : Bool)
  | imaginary (positive : Bool)
  | neither
  deriving DecidableEq

def axis (e : Closed) : Axis :=
  match locate e with
  | some (b, r, i) =>
    if i then .real b.re.isPositive
    else if r then .imaginary b.im.isPositive
    else .neither
  | none => .neither

/-- Whether the number mentions an inverse function off the real interval on which it is
real. The half plane of such a value is not taken as decided. -/
def hasOpenBranch : Closed → Bool
  | .exact _ => false
  | .surd _ _ => false
  | .add a b => hasOpenBranch a || hasOpenBranch b
  | .mul a b => hasOpenBranch a || hasOpenBranch b
  | .div a b => hasOpenBranch a || hasOpenBranch b
  | .pow a b => hasOpenBranch a || hasOpenBranch b
  | .apply f a =>
    hasOpenBranch a ||
      match f, axis (.apply f a) with
      | .asin, .real _ | .acos, .real _ | .atan, .real _ => false
      | .asin, _ | .acos, _ | .atan, _ => true
      | _, _ => false
  | .realPart a => hasOpenBranch a
  | .imagPart a => hasOpenBranch a

end Calculator.Closed
