import Calculator.Binary64

/-! The shortest decimal text that reads back as the same number: the fewest digits, and of
the numerals with that many the nearest one. Numerals are positional between `0.0001` and
`10 ^ 16` and have an exponent outside, and integers end in `.0`. -/

namespace Calculator.Binary64
open Positional

/-- The numbers that round to `m * 2 ^ e`, as a range with or without its ends. -/
structure Range where
  lower : Rat
  upper : Rat
  closed : Bool

/-- Half the way to either neighbour; below a power of two the neighbour is nearer. Ends
round to the even significand. -/
def roundingRange (m : Nat) (e : Int) : Range :=
  let below := if m = Nat.pow 2 52 ∧ leastExponent < e then 1 else 2
  ⟨magnitude (4 * m - below) (e - 2), magnitude (4 * m + 2) (e - 2), m % 2 = 0⟩

def Range.contains (r : Range) (q : Rat) : Bool :=
  if r.closed then r.lower ≤ q && q ≤ r.upper else r.lower < q && q < r.upper

def ofScaled (x : Scaled) : Rat :=
  let (n, d) := x.fraction 10
  mkRat n d

/-- The nearest numeral with `k` digits in the range, if there is one. Only the two
neighbours of the value on the decimal grid can be. -/
def nearest? (r : Range) (m : Nat) (e : Int) (k : Nat) : Option Scaled :=
  let (n, d) := shifted 2 m 1 e
  let scale := exponent 10 n d - (k - 1)
  let (n', d') := shifted 10 n d (-scale)
  let low : Scaled := ⟨n' / d', scale⟩
  let high : Scaled := ⟨n' / d' + 1, scale⟩
  let preferred := if nearestEven n' d' = n' / d' then low else high
  let other := if nearestEven n' d' = n' / d' then high else low
  if r.contains (ofScaled preferred) then some preferred
  else if r.contains (ofScaled other) then some other
  else none

/-- Seventeen digits always suffice. -/
def mostDigits : Nat := 17

def shortestFrom (r : Range) (m : Nat) (e : Int) : List Nat → Scaled
  | [] => ⟨m, e⟩
  | k :: rest => (nearest? r m e k).getD (shortestFrom r m e rest)

def shortest (m : Nat) (e : Int) : Scaled :=
  let x := shortestFrom (roundingRange m e) m e (List.range' 1 mostDigits)
  strip x.coefficient x.exponent

/-- Positional notation covers the numerals whose point stands in this window. -/
def firstPoint : Int := -3
def lastPoint : Int := 16

/-- An exponent has a sign and at least two digits. -/
def exponentChars (e : Int) : List Char :=
  let ds := chars 10 e.natAbs
  (if e < 0 then '-' else '+') :: (zeros (2 - ds.length) ++ ds)

def layout (x : Scaled) : List Char :=
  let ds := chars 10 x.coefficient
  let point : Int := x.exponent + ds.length
  if firstPoint ≤ point ∧ point ≤ lastPoint then
    if point ≤ 0 then '0' :: '.' :: (zeros (-point).toNat ++ ds)
    else
      let ds := ds ++ zeros (point.toNat - ds.length)
      match ds.drop point.toNat with
      | [] => ds ++ ['.', '0']
      | places => ds.take point.toNat ++ '.' :: places
  else
    match ds with
    | [d] => d :: 'e' :: exponentChars (point - 1)
    | d :: rest => d :: '.' :: (rest ++ 'e' :: exponentChars (point - 1))
    | [] => []

def text : Binary64 → String
  | nan => "nan"
  | infinite negative => if negative then "-inf" else "inf"
  | finite negative m e =>
    let cs := if m = 0 then ['0', '.', '0'] else layout (shortest m e)
    String.ofList (if negative then '-' :: cs else cs)

end Calculator.Binary64
