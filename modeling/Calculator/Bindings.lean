/-! Lists of names with what they stand for. A name stands for its first entry, and a new
entry takes the place of the one with its name, or the last place. -/

namespace Calculator.Bindings

def find? {α : Type} (name : String) : List (String × α) → Option α
  | [] => none
  | (n, a) :: rest => if n = name then some a else find? name rest

def set {α : Type} (name : String) (a : α) : List (String × α) → List (String × α)
  | [] => [(name, a)]
  | (n, b) :: rest => if n = name then (name, a) :: rest else (n, b) :: set name a rest

def names {α : Type} (entries : List (String × α)) : List String := entries.map Prod.fst

end Calculator.Bindings
