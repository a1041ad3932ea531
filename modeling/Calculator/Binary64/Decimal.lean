import Calculator.Binary64
import Calculator.Literal

/-! Binary numbers read from decimal text: a signed numeral with an optional point and an
optional exponent, or a name of infinity or of the undefined number. Single underscores may
stand between digits. -/

namespace Calculator.Binary64
open Literal Text

def infinityNames : List String := ["inf", "infinity"]

def unsigned? (negative : Bool) (cs : List Char) : Option Binary64 := do
  let (whole, rest) := takeDigits cs
  let (places, rest) := takeFractional rest
  if whole = [] ∧ places = [] then none
  else
    let (e, after) ← takeExponent? rest
    if after = [] then some (ofDecimal negative (valueOf (whole ++ places)) (e - places.length))
    else none

def ofChars? (cs : List Char) : Option Binary64 :=
  let (negative, rest) := takeSign (trim cs)
  let name := String.ofList (rest.map Char.toLower)
  if infinityNames.contains name then some (infinite negative)
  else if name = "nan" then some nan
  else (joined? rest).bind (unsigned? negative)

def ofText? (text : String) : Option Binary64 := ofChars? text.toList

end Calculator.Binary64
