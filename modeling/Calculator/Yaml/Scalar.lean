import Calculator.Binary64.Decimal
import Calculator.Data

/-! What a plain scalar of YAML 1.1 stands for: null, a truth value, an integer or a float by
its form, and its own text otherwise. Numerals may contain underscores, integers may be
binary, octal, hexadecimal or sexagesimal. -/

namespace Calculator.Yaml
open Literal

def nullWords : List String := ["", "~", "null", "Null", "NULL"]

def trueWords : List String :=
  ["yes", "Yes", "YES", "true", "True", "TRUE", "on", "On", "ON"]

def falseWords : List String :=
  ["no", "No", "NO", "false", "False", "FALSE", "off", "Off", "OFF"]

/-- Forms whose meaning depends on where they stand. -/
def reservedWords : List String := ["<<", "="]

/-- The value of a digit below ten or, as a small or capital letter, above. -/
def digitOf? (c : Char) : Option Nat :=
  let n := c.toNat
  if '0'.toNat ≤ n ∧ n ≤ '9'.toNat then some (n - '0'.toNat)
  else if 'a'.toNat ≤ n ∧ n ≤ 'f'.toNat then some (n - 'a'.toNat + 10)
  else if 'A'.toNat ≤ n ∧ n ≤ 'F'.toNat then some (n - 'A'.toNat + 10)
  else none

def isDigitOf (base : Nat) (c : Char) : Bool :=
  match digitOf? c with
  | some d => d < base
  | none => false

def isNumeral (base : Nat) (c : Char) : Bool := isDigitOf base c || c = '_'

def runOf (base : Nat) (cs : List Char) : Except Unreadable Nat :=
  match cs.filterMap digitOf? with
  | [] => .error (.noDigits base)
  | ds =>
    if base = 10 ∧ longestRun < ds.length then .error (.tooManyDigits ds.length)
    else .ok (Positional.value base ds)

/-- One part after a colon of a sexagesimal numeral: at most 59. -/
def isSixtieth : List Char → Bool
  | [a] => isDigitOf 10 a
  | [a, b] => isDigitOf 6 a && isDigitOf 10 b
  | _ => false

def parts : List Char → List (List Char)
  | [] => [[]]
  | c :: rest =>
    if c = ':' then [] :: parts rest
    else
      match parts rest with
      | p :: ps => (c :: p) :: ps
      | [] => [[c]]

def isDecimalRun : List Char → Bool
  | c :: rest => isDigitOf 10 c && rest.all (isNumeral 10)
  | [] => false

def startsPositive : List Char → Bool
  | c :: _ => isDigitOf 10 c && c ≠ '0'
  | [] => false

def natural? (cs : List Char) : Option (Except Unreadable Nat) :=
  match cs with
  | ['0'] => some (.ok 0)
  | '0' :: 'b' :: rest =>
    if rest ≠ [] ∧ rest.all (isNumeral 2) then some (runOf 2 rest) else none
  | '0' :: 'x' :: rest =>
    if rest ≠ [] ∧ rest.all (isNumeral 16) then some (runOf 16 rest) else none
  | '0' :: rest => if rest.all (isNumeral 8) then some (runOf 8 cs) else none
  | cs =>
    if isDecimalRun cs && startsPositive cs then some (runOf 10 cs)
    else
      match parts cs with
      | first :: p :: ps =>
        if isDecimalRun first && startsPositive first && (p :: ps).all isSixtieth then
          some (((first :: p :: ps).mapM (runOf 10)).map fun ns =>
            ns.foldl (fun n d => 60 * n + d) 0)
        else none
      | _ => none

def hasExponentForm : List Char → Bool
  | [] => true
  | c :: sign :: rest =>
    (c = 'e' || c = 'E') && (sign = '+' || sign = '-') && rest ≠ [] && rest.all (isDigitOf 10)
  | _ => false

def isPointForm (signed : Bool) (cs : List Char) : Bool :=
  let whole := cs.takeWhile (isNumeral 10)
  match cs.dropWhile (isNumeral 10) with
  | '.' :: rest =>
    let places := rest.takeWhile (isNumeral 10)
    hasExponentForm (rest.dropWhile (isNumeral 10)) &&
      (isDecimalRun whole || (whole = [] && !signed && isDecimalRun places))
  | _ => false

def sexagesimal? (cs : List Char) : Option Binary64 :=
  let whole := cs.takeWhile (· ≠ '.')
  match cs.dropWhile (· ≠ '.'), parts whole with
  | '.' :: places, first :: p :: ps =>
    if isDecimalRun first && (p :: ps).all isSixtieth && places.all (isNumeral 10) then
      let plain (xs : List Char) := xs.filter (· ≠ '_')
      let last := (p :: ps).getLast (by simp) ++ '.' :: places
      let all := (first :: (p :: ps).dropLast ++ [last]).map plain
      let value (xs : List Char) := (Binary64.ofChars? xs).getD .nan
      some (all.reverse.foldl
        (fun (sum, weight) xs => (sum.add ((value xs).scale weight), 60 * weight))
        (Binary64.zero false, 1)).1
    else none
  | _, _ => none

def float? (cs : List Char) : Option Binary64 :=
  let signed := cs.head? = some '-' || cs.head? = some '+'
  let (negative, rest) := takeSign cs
  let withSign (x : Binary64) := if negative then x.negate else x
  let text := String.ofList rest
  if [".inf", ".Inf", ".INF"].contains text then some (.infinite negative)
  else if !signed && [".nan", ".NaN", ".NAN"].contains text then some .nan
  else if isPointForm signed rest then
    (Binary64.ofChars? (rest.filter (· ≠ '_'))).map withSign
  else (sexagesimal? rest).map withSign

def plainValue (text : String) : Except Unreadable Scalar :=
  let cs := text.toList
  let (negative, rest) := takeSign cs
  if nullWords.contains text then .ok .null
  else if trueWords.contains text then .ok (.bool true)
  else if falseWords.contains text then .ok (.bool false)
  else if reservedWords.contains text then .error .malformed
  else
    match float? cs, natural? rest with
    | some x, _ => .ok (.float x)
    | none, some value => value.map fun n => .int (if negative then -(n : Int) else n)
    | none, none => .ok (.text text)

end Calculator.Yaml
