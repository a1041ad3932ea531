import Calculator.Value

/-! The registry of functions: definitions in order of registration, one for each name. A
definition carries its own implementation, so a name registered again under another one
keeps working when the first is gone. -/

namespace Calculator

inductive Category
  | algebraic | trigonometric | hyperbolic | exponential | presentation
  deriving DecidableEq

namespace Category

def all : List Category := [algebraic, trigonometric, hyperbolic, exponential, presentation]

def text : Category → String
  | algebraic => "algebraic"
  | trigonometric => "trigonometric"
  | hyperbolic => "hyperbolic"
  | exponential => "exponential"
  | presentation => "presentation"

def ofText? (s : String) : Option Category := all.find? fun c => c.text = s

end Category

inductive Implementation
  | named (f : NamedFunction)
  /-- Marks the number as approximately known. -/
  | approximately
  /-- Makes a display base of an integer. -/
  | base
  deriving DecidableEq

def Implementation.run (i : Implementation) (x : Number) : Except Failure Value :=
  match i with
  | named f => do return .number (← x.applyNamed f)
  | approximately => .ok (.number x.approximately)
  | base => do return .base (← Radix.ofInt (← x.toInt))

structure Definition where
  name : String
  description : String
  category : Category
  implementation : Implementation
  examples : List String
  deriving DecidableEq

structure Registry where
  definitions : List Definition
  deriving DecidableEq

namespace Registry

def empty : Registry := ⟨[]⟩

def find? (r : Registry) (name : String) : Option Definition :=
  r.definitions.find? fun d => d.name = name

def contains (r : Registry) (name : String) : Bool := (r.find? name).isSome

def names (r : Registry) : List String := r.definitions.map Definition.name

/-- A definition takes the place of the one with its name, or the last place. -/
def registerIn : List Definition → Definition → List Definition
  | [], d => [d]
  | e :: rest, d => if e.name = d.name then d :: rest else e :: registerIn rest d

def register (r : Registry) (d : Definition) : Registry := ⟨registerIn r.definitions d⟩

def registerAll (r : Registry) (ds : List Definition) : Registry := ds.foldl register r

def inCategory (r : Registry) (c : Category) : List Definition :=
  r.definitions.filter fun d => d.category = c

/-- Categories in order of first appearance. -/
def categories (r : Registry) : List Category :=
  r.definitions.foldl
    (fun seen d => if seen.contains d.category then seen else seen ++ [d.category]) []

def byCategory (r : Registry) : List (Category × List Definition) :=
  r.categories.map fun c => (c, r.inCategory c)

end Registry
end Calculator
