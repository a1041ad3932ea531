/-! Expression trees. Literals and identifiers keep their text; every other node says which
operation it is and owns its operands. Writing two expressions side by side has three forms:
one that decides by its left side, a call, and a product. -/

namespace Calculator

inductive Unary
  | parens | negate | plus | reciprocal | factorial
  deriving DecidableEq

inductive Arithmetic
  | add | sub | mul | div | pow
  deriving DecidableEq

/-- Two expressions side by side. -/
inductive Juxtaposition
  /-- A call if the left side is a function, a product otherwise. -/
  | implicit
  | call
  | multiply
  deriving DecidableEq

inductive Binary
  | arithmetic (op : Arithmetic)
  | juxtaposition (form : Juxtaposition)
  /-- `left as right`. -/
  | conversion
  deriving DecidableEq

inductive Tree
  | literal (text : String)
  | identifier (name : String)
  | unary (op : Unary) (operand : Tree)
  | binary (op : Binary) (left right : Tree)
  deriving DecidableEq

def Unary.around : Unary → String → String
  | parens, t => "(" ++ t ++ ")"
  | negate, t => "(-" ++ t ++ ")"
  | plus, t => "(+" ++ t ++ ")"
  | reciprocal, t => "(/" ++ t ++ ")"
  | factorial, t => t ++ "!"

def Arithmetic.symbol : Arithmetic → String
  | add => "+"
  | sub => "-"
  | mul => "*"
  | div => "/"
  | pow => "^"

def Binary.around : Binary → String → String → String
  | arithmetic op, l, r => "(" ++ l ++ op.symbol ++ r ++ ")"
  | juxtaposition .implicit, l, r => "(" ++ l ++ " (" ++ r ++ "))"
  | juxtaposition _, l, r => "(" ++ l ++ " " ++ r ++ ")"
  | conversion, l, r => "(" ++ l ++ " as " ++ r ++ ")"

namespace Tree

instance instInhabited : Inhabited Tree := ⟨literal ""⟩

/-- The debug form, with a pair of brackets for nearly every node. -/
def format : Tree → String
  | literal t => t
  | identifier n => n
  | unary op t => op.around t.format
  | binary op l r => op.around l.format r.format

end Tree
end Calculator
