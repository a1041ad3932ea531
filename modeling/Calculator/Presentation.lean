import Calculator.Positional

/-! How a number asks to be shown: a style for its parts and a base for its digits. -/

namespace Calculator

/-- `digits n` rounds to `n` significant digits; the other styles show an exact part exactly. -/
inductive Style
  | auto | exact | fraction | float
  | digits (n : Int)
  deriving DecidableEq

/-- How many significant digits `digits n` stands for: zero asks for none in particular, and
nothing can be rounded to fewer. -/
def Style.count? (n : Int) : Option Nat :=
  if n = 0 then some 10 else if 0 < n then some n.toNat else none

def Style.text : Style → String
  | .auto => "auto"
  | .exact => "exact"
  | .fraction => "fraction"
  | .float => "float"
  | .digits n => Positional.decimal n ++ " significant digits"

/-- A base in which digits can be written with the ten digits and the letters. -/
structure Radix where
  value : Nat
  two_le : 2 ≤ value
  le_maximum : value ≤ 36
  deriving DecidableEq

namespace Radix

def binary : Radix := ⟨2, by decide, by decide⟩
def octal : Radix := ⟨8, by decide, by decide⟩
def decimal : Radix := ⟨10, by decide, by decide⟩
def hexadecimal : Radix := ⟨16, by decide, by decide⟩

instance instInhabited : Inhabited Radix := ⟨decimal⟩

def ofInt? (n : Int) : Option Radix :=
  if h : 2 ≤ n ∧ n ≤ 36 then some ⟨n.toNat, by omega, by omega⟩ else none

/-- What stands in front of the digits, for the bases that have a customary mark. -/
def marker (b : Radix) : String :=
  match b.value with
  | 2 => "0b"
  | 8 => "0o"
  | 16 => "0x"
  | _ => ""

def text (b : Radix) : String :=
  match b.value with
  | 2 => "binary"
  | 8 => "octal"
  | 10 => "decimal"
  | 16 => "hexadecimal"
  | n => "base " ++ Positional.text 10 n

end Radix
end Calculator
