import Calculator.Text.Blank
import Calculator.Text.DecimalDigit

/-! Numeric literals. With underscores removed and blanks trimmed, a literal is a signed
fraction `12/5` or a signed decimal `1.5e3`, whose integer part or fractional part may be
missing but not both. The value is the rational that the text denotes, without rounding. -/

namespace Calculator.Literal
open Text

def longestRun : Nat := 4300

def takeDigits (cs : List Char) : List Nat × List Char :=
  match cs with
  | [] => ([], [])
  | c :: rest =>
    match digitValue? c with
    | some d => let (ds, after) := takeDigits rest; (d :: ds, after)
    | none => ([], cs)

def valueOf (ds : List Nat) : Nat := ds.foldl (fun n d => 10 * n + d) 0

/-- The value of a run of digits, if it is not too long; an empty run is zero. -/
def runValue? (ds : List Nat) : Option Nat :=
  if ds.length ≤ longestRun then some (valueOf ds) else none

def takeSign (cs : List Char) : Bool × List Char :=
  match cs with
  | '-' :: rest => (true, rest)
  | '+' :: rest => (false, rest)
  | cs => (false, cs)

def onlyBlanks (cs : List Char) : Bool := cs.all isBlank

/-- The digits of a fractional part with its point; no point means no digits. -/
def takeFractional (cs : List Char) : List Nat × List Char :=
  match cs with
  | '.' :: rest => takeDigits rest
  | cs => ([], cs)

/-- The exponent with its letter; no letter means zero. -/
def takeExponent? (cs : List Char) : Option (Int × List Char) :=
  let read (rest : List Char) : Option (Int × List Char) :=
    let (negative, rest) := takeSign rest
    match takeDigits rest with
    | ([], _) => none
    | (ds, after) => (runValue? ds).map fun n => (if negative then -(n : Int) else n, after)
  match cs with
  | 'e' :: rest => read rest
  | 'E' :: rest => read rest
  | cs => some (0, cs)

/-- `n / 10 ^ places * 10 ^ e`, as a fraction. -/
def decimalValue (n places : Nat) (e : Int) : Rat :=
  if 0 ≤ e then mkRat (n * Nat.pow 10 e.toNat : Nat) (Nat.pow 10 places)
  else mkRat n (Nat.pow 10 places * Nat.pow 10 (-e).toNat)

/-- What follows the sign. -/
def unsigned? (cs : List Char) : Option Rat :=
  let (whole, rest) := takeDigits cs
  match whole, rest with
  | _ :: _, '/' :: rest => do
    let (below, after) := takeDigits rest
    let n ← runValue? whole
    let d ← runValue? below
    if below = [] ∨ d = 0 ∨ !onlyBlanks after then none else some (mkRat n d)
  | _, _ => do
    let (places, rest) := takeFractional rest
    if whole = [] ∧ places = [] then none
    else
      let (e, after) ← takeExponent? rest
      let n ← runValue? whole
      let m ← runValue? places
      if onlyBlanks after then
        some (decimalValue (n * Nat.pow 10 places.length + m) places.length e)
      else none

def ofChars? (cs : List Char) : Option Rat :=
  let (negative, rest) := takeSign ((cs.filter (· ≠ '_')).dropWhile isBlank)
  (unsigned? rest).map fun q => if negative then -q else q

def value? (text : String) : Option Rat := ofChars? text.toList

end Calculator.Literal
