import Calculator.Positional

/-! Rounded decimal numerals. A positive number is first rounded to a binary number with a
few more bits than the digits asked for, half to even, and that one to decimal digits, half
up; a rational to be shown in a single digit goes through two. The numeral drops trailing
zeros. It is written with an exponent when the zeros that were dropped stand before the
decimal point, or when the first digit stands at the seventh place behind it or farther
out. -/

namespace Calculator

inductive Unprintable
  /-- An integer of more than 4300 decimal digits. -/
  | tooManyDigits
  /-- A rounded numeral with a decimal exponent above 999999. -/
  | exponentTooLarge
  /-- A decimal exponent of eighteen digits or more, which no numeral is read with. -/
  | exponentUnreadable
  /-- A negative number of significant digits. -/
  | precisionOutOfRange
  deriving DecidableEq

namespace Rounded
open Positional

/-- Binary precision that goes with a number of decimal digits: `digits + 1` times
`log₂ 10`, rounded. -/
def bits (digits : Nat) : Nat :=
  nearestEven ((digits + 1) * 33219280948873626) 10000000000000000

/-- The number times a power of ten; factor and product have thirteen binary digits. -/
def timesTen (x : Scaled) (k : Int) : Scaled :=
  let (n, d) := shifted 10 1 1 k
  let ten := round nearestEven 2 13 n d
  let product : Scaled := ⟨x.coefficient * ten.coefficient, x.exponent + ten.exponent⟩
  let (n, d) := product.fraction 2
  round nearestEven 2 13 n d

/-- A binary number is brought to a single digit through two. What follows the two is
brought to a single digit in the same way, and above a half it raises them by one. The two
then go to tens, half to even. What follows them has fewer binary places each time, and
`depth` bounds how often it is not zero. -/
def singleDigit (depth : Nat) (x : Scaled) : Scaled :=
  let (n, d) := x.fraction 2
  let e := exponent 10 n d
  let (n, d) := (timesTen x (1 - e)).fraction 2
  let two := n / d
  let nearest :=
    if n % d = 0 then two
    else match depth with
      | 0 => two
      | depth + 1 =>
        let (f, g) := (singleDigit depth ⟨n % d, -(leading 2 d).1⟩).fraction 10
        if g < 2 * f then two + 1 else two
  ⟨nearestEven nearest 10, e⟩

def ofBinary (digits : Nat) (x : Scaled) : Scaled :=
  let (n, d) := x.fraction 2
  round nearestUp 10 digits n d

def ofFraction (digits n d : Nat) : Scaled :=
  if digits = 1 then singleDigit 5 (round nearestEven 2 (bits 2) n d)
  else ofBinary digits (round nearestEven 2 (bits digits) n d)

def largestExponent : Int := 999999

/-- The exponents, of the first digit and of the last one, beyond which no numeral is read. -/
def readableExponents : Int × Int := (999999999999999999, -1999999999999999997)

def exponentFault? (digits : Nat) (e : Int) : Option Unprintable :=
  if Nat.pow 10 4300 ≤ e.natAbs then some .tooManyDigits
  else if readableExponents.1 < e ∨ e - (digits - 1) < readableExponents.2 then
    some .exponentUnreadable
  else if largestExponent < e then some .exponentTooLarge
  else none

/-- Decimal exponents end at `-999999`: below, digits are lost to the right until none is
left. -/
def limitBelow (digits : Nat) (x : Scaled) : Scaled :=
  let least : Int := -largestExponent - (digits - 1)
  if least ≤ x.exponent then x
  else
    let drop := (least - x.exponent).toNat
    ⟨if digits + 1 < drop then 0 else nearestEven x.coefficient (Nat.pow 10 drop), least⟩

def layout (x : Scaled) : List Char :=
  let ds := chars 10 x.coefficient
  let left : Int := x.exponent + ds.length
  if x.coefficient = 0 then ['0']
  else if x.exponent ≤ 0 ∧ -6 < left then
    if left ≤ 0 then '0' :: '.' :: (zeros (-left).toNat ++ ds)
    else if x.exponent = 0 then ds
    else ds.take left.toNat ++ '.' :: ds.drop left.toNat
  else
    let e := left - 1
    let mantissa := match ds with
      | [d] => [d]
      | d :: rest => d :: '.' :: rest
      | [] => []
    mantissa ++ 'e' :: (if e < 0 then '-' else '+') :: chars 10 e.natAbs

def text (digits : Nat) (negative : Bool) (x : Scaled) : Except Unprintable String :=
  let x := strip x.coefficient x.exponent
  if largestExponent < x.exponent + (chars 10 x.coefficient).length - 1 then
    .error .exponentTooLarge
  else
    let y := limitBelow digits x
    let cs := layout (strip y.coefficient y.exponent)
    .ok (String.ofList (if negative then '-' :: cs else cs))

/-- The rounded text of a rational number; zero is `0`. -/
def ratText (digits : Nat) (q : Rat) : Except Unprintable String :=
  if q.num = 0 then .ok "0"
  else text digits (decide (q.num < 0)) (ofFraction digits q.num.natAbs q.den)

end Rounded
end Calculator
