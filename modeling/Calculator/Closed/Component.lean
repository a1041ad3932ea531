import Calculator.Closed.Arithmetic
import Calculator.Number.Rounded
import Calculator.Presentation

/-! Real and imaginary parts of a closed form, as far as a text needs them: whether a part
is zero or one, which sign it has, and its leading digits. -/

namespace Calculator

inductive Component
  | rational (q : Rat)
  /-- The real part, or the imaginary part, of a closed form that is not exact. -/
  | part (e : Closed) (imaginary : Bool)

namespace Component
open Enclosure Positional

def both : Closed → Component × Component
  | .exact z => (.rational z.re, .rational z.im)
  | e =>
    match Closed.locate e with
    | some (_, r, i) =>
      (if r then .rational 0 else .part e false, if i then .rational 0 else .part e true)
    | none => (.part e false, .rational 0)

def isZero : Component → Bool
  | .rational q => q = 0
  | .part _ _ => false

def side (imaginary : Bool) (b : Box) : Interval := if imaginary then b.im else b.re

def belowZero : Component → Bool
  | .rational q => q < 0
  | .part e imaginary =>
    match Closed.locate e with
    | some (b, _) => (side imaginary b).isNegative
    | none => false

/-- Below zero, and decided to be so: the sign of a value off the principal interval of an
inverse function stays open. -/
def isNegative : Component → Bool
  | .rational q => q < 0
  | .part e imaginary => belowZero (.part e imaginary) && !Closed.hasOpenBranch e

def toClosed : Component → Closed
  | .rational q => .ofRat q
  | .part e false => .realPart e
  | .part e true => Closed.scale (.neg .i) (.imagPart e)

def isUnit (c : Component) : Bool :=
  match c with
  | .rational q => q = 1 ∨ q = -1
  | c => Closed.sum c.toClosed (.ofInt (if c.belowZero then 1 else -1)) = .zero

/-- The magnitude of a binary number to exactly `b` bits, half to even. -/
def roundBinary (b : Nat) (x : Binary) : Scaled :=
  let m := x.mantissa.natAbs
  let n := Binary.bitCount x.mantissa
  if n ≤ b then ⟨m * Nat.pow 2 (b - n), x.exponent - (b - n : Nat)⟩
  else
    let r := nearestEven m (Nat.pow 2 (n - b))
    let e := x.exponent + (n - b : Nat)
    if r = Nat.pow 2 b then ⟨r / 2, e + 1⟩ else ⟨r, e⟩

/-- The magnitude to `b` bits, at the first precision at which both ends of the enclosure
round alike. -/
def nearestFrom (b : Nat) (e : Closed) (imaginary : Bool) : List Nat → Option Scaled
  | [] => none
  | p :: rest =>
    match Closed.enclose p e with
    | none => nearestFrom b e imaginary rest
    | some box =>
      let x := side imaginary box
      let lo := roundBinary b x.lo
      if !x.containsZero && lo = roundBinary b x.hi then some lo
      else nearestFrom b e imaginary rest

/-- Beyond these powers of two, only the decimal exponent matters. -/
def farthest : Nat := 3400000

def decimalExponent (x : Binary) : Int :=
  let w := Binary.bitCount x.exponent + 64
  (Interval.divPositive w (.lnPoint w x) (.lnPoint w (.ofInt 10))).lo.toIntFloor

/-- What is wrong with a part that has no digits at any precision. -/
def exponentFault (digits : Nat) (e : Closed) (imaginary : Bool) : Unprintable :=
  let fault? := (Closed.locate e).bind fun (box, _) =>
    Rounded.exponentFault? digits (decimalExponent (side imaginary box).abs.lo)
  fault?.getD .exponentTooLarge

def roundedText (digits : Nat) (magnitude : Bool) : Component → Except Unprintable String
  | .rational q => Rounded.ratText digits (if magnitude ∧ q < 0 then -q else q)
  | .part e imaginary =>
    let negative := !magnitude && belowZero (.part e imaginary)
    let b := Rounded.bits digits
    match nearestFrom b e imaginary (Closed.precisions (b + 40) e) with
    | none => .error (exponentFault digits e imaginary)
    | some x =>
      if x.exponent.natAbs ≤ farthest then
        Rounded.text digits negative (Rounded.ofBinary digits x)
      else
        match Rounded.exponentFault? digits (decimalExponent ⟨x.coefficient, x.exponent⟩) with
        | some u => .error u
        | none => .ok (if negative then "-0" else "0")

/-- The text in a style that asks for a number of digits. Zero has one whatever it asks for. -/
def styledText (n : Int) (magnitude : Bool) (c : Component) : Except Unprintable String :=
  match Style.count? n with
  | some digits => c.roundedText digits magnitude
  | none => if c.isZero then .ok "0" else .error .precisionOutOfRange

end Component
end Calculator
