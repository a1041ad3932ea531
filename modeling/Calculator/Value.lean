import Calculator.Number.Text

/-! Values that an expression can have: numbers, and the names of functions, styles and
bases that conversions and applications work with. -/

namespace Calculator

inductive Value
  | number (n : Number)
  /-- A function that has not been applied, known by its name only. -/
  | function (name : String)
  | format (s : Style)
  /-- `dp`, a request for a rounded text. -/
  | precisionMarker
  | base (b : Radix)
  deriving DecidableEq

inductive Kind
  | number | function | format | precisionMarker | base
  deriving DecidableEq

namespace Kind

def text : Kind → String
  | number => "number"
  | function => "function"
  | format => "format"
  | precisionMarker => "precision marker"
  | base => "base"

end Kind

namespace Value

instance instInhabited : Inhabited Value := ⟨.precisionMarker⟩

def kind : Value → Kind
  | number _ => .number
  | function _ => .function
  | format _ => .format
  | precisionMarker => .precisionMarker
  | base _ => .base

def render : Value → Except Failure String
  | number n => n.render
  | function name => .ok name
  | format s => .ok s.text
  | precisionMarker => .ok "dp"
  | base b => .ok b.text

def expectNumber (v : Value) : Except Failure Number :=
  match v with
  | number n => .ok n
  | v => do throw (.expectedNumber v.kind.text (← v.render))

end Value
end Calculator
