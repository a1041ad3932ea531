import Calculator.Number
import Calculator.Closed.Component

/-! The text of a number. Exact parts are written as integers in the display base, as
decimals when base ten and the denominator allow it, and as fractions otherwise; a style
may ask for fractions or for decimals only. Parts that are not exactly known are rounded
to ten digits and say so. A style with a number of digits rounds every part silently. -/

namespace Calculator.Number
open Positional

/-- An integer in a display base: marked in front or, for bases without a mark, named
behind. Decimal integers may not be too long. -/
def integerText (b : Radix) (n : Int) : Except Unprintable String :=
  if b.value = 10 then
    if Nat.pow 10 4300 ≤ n.natAbs then .error .tooManyDigits else .ok (decimal n)
  else
    let sign := if n < 0 then "-" else ""
    let ds := Positional.text b.value n.natAbs
    if b.marker = "" then .ok (sign ++ ds ++ " (base " ++ Positional.text 10 b.value ++ ")")
    else .ok (sign ++ b.marker ++ ds)

def fractionText (b : Radix) (q : Rat) : Except Unprintable String := do
  return (← integerText b q.num) ++ "/" ++ (← integerText b q.den)

/-- The number of decimal places of a fraction with this denominator, if it has finitely
many. -/
def places? (d : Nat) : Option Nat :=
  let twos := Closed.multiplicity 2 d
  let fives := Closed.multiplicity 5 d
  if d = Nat.pow 2 twos * Nat.pow 5 fives then some (max twos fives) else none

def placesText (q : Rat) (places : Nat) : Except Unprintable String :=
  let scaled := q.num.natAbs * Nat.pow 10 places / q.den
  if Nat.pow 10 4300 ≤ scaled then .error .tooManyDigits
  else
    let ds := chars 10 scaled
    let ds := List.replicate (places + 1 - ds.length) '0' ++ ds
    let cs := ds.take (ds.length - places) ++ '.' :: ds.drop (ds.length - places)
    .ok (String.ofList (if q.num < 0 then '-' :: cs else cs))

def exactText (s : Style) (b : Radix) (q : Rat) : Except Unprintable String :=
  if q.den = 1 then integerText b q.num
  else if s = .fraction then fractionText b q
  else match (if b.value = 10 then places? q.den else none) with
    | some places => placesText q places
    | none =>
      if s = .float then do return "approx. " ++ (← Rounded.ratText 10 q) else fractionText b q

def partText (x : Number) (magnitude : Bool) (c : Component) : Except Unprintable String :=
  match x.style, c with
  | .digits n, c => c.styledText n magnitude
  | s, .rational q =>
    if x.approx then do return "approx. " ++ (← c.roundedText 10 magnitude)
    else exactText s x.base (if magnitude ∧ q < 0 then -q else q)
  | _, c => do return "approx. " ++ (← c.roundedText 10 magnitude)

/-- An imaginary part. A unit is written without digits, and so without saying that it is
approximate. -/
def imaginaryText (x : Number) (magnitude : Bool) (c : Component) : Except Unprintable String :=
  if c.isUnit then .ok (if !magnitude && c.belowZero then "-i" else "i")
  else do return (← partText x magnitude c) ++ "i"

def text (x : Number) : Except Unprintable String :=
  let (re, im) := Component.both x.value
  if im.isZero then partText x false re
  else if re.isZero then imaginaryText x false im
  else do
    let sign := if im.isNegative then " - " else " + "
    return (← partText x false re) ++ sign ++ (← imaginaryText x true im)

def render (x : Number) : Except Failure String :=
  match x.text with
  | .ok s => .ok s
  | .error u => .error (.unprintable u)

def toInt (x : Number) : Except Failure Int :=
  match x.value.toInt? with
  | some n => .ok n
  | none => do throw (.notAnInteger (← x.render))

/-- The value of a named function. The argument is written out first, since the failure
would mention it. -/
def applyNamedIn (A : AlgebraSystem) (x : Number) (f : NamedFunction) :
    Except Failure Number := do
  let argument ← x.render
  match f.valueIn? A x.value with
  | some v => return x.derive false v
  | none => throw (.undefinedAt f.name argument)

def applyNamed (x : Number) (f : NamedFunction) : Except Failure Number :=
  x.applyNamedIn .standard f

def applyFunctionIn (A : AlgebraSystem) (x : Number) (name : String) : Except Failure Number :=
  match NamedFunction.ofName? name with
  | some f => x.applyNamedIn A f
  | none => .error (.unknownPrimitive name)

def applyFunction (x : Number) (name : String) : Except Failure Number :=
  applyFunctionIn .standard x name

end Calculator.Number

namespace Calculator.Radix

def ofInt (n : Int) : Except Failure Radix :=
  match ofInt? n with
  | some b => .ok b
  | none =>
    match Number.integerText .decimal n with
    | .ok s => .error (.radixOutOfRange s)
    | .error u => .error (.unprintable u)

end Calculator.Radix
