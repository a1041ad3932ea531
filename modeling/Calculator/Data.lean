import Calculator.Binary64.Shortest
import Calculator.Text.Quoted

/-! Plain data, as documents and requests contain it. The keys of a mapping are scalars and
stay in the order in which they were given. -/

namespace Calculator

inductive Scalar
  | null
  | bool (b : Bool)
  | int (n : Int)
  | float (x : Binary64)
  | text (s : String)
  deriving DecidableEq

namespace Scalar

instance instInhabited : Inhabited Scalar := ⟨null⟩

def display : Scalar → String
  | null => "None"
  | bool true => "True"
  | bool false => "False"
  | int n => Positional.decimal n
  | float x => x.text
  | text s => Text.quoted s

/-- The spelling on its own, where a text stands for itself. -/
def plain : Scalar → String
  | text s => s
  | s => s.display

def kindName : Scalar → String
  | null => "NoneType"
  | bool _ => "bool"
  | int _ => "int"
  | float _ => "float"
  | text _ => "str"

/-- Whether the spelling is not too long: an integer may have 4300 digits. -/
def isWritable : Scalar → Bool
  | int n => n.natAbs < Nat.pow 10 4300
  | _ => true

def isTrue : Scalar → Bool
  | null => false
  | bool b => b
  | int n => n ≠ 0
  | float x => !x.isZero
  | text s => s ≠ ""

/-- The place on the number line, where truth values count as one and zero. -/
def number? : Scalar → Option Binary64.Place
  | bool b => some (.finite (if b then 1 else 0))
  | int n => some (.finite n)
  | float x => x.place?
  | _ => none

/-- Whether two keys are the same key: equal numbers are, whatever their kinds. -/
def sameKey (a b : Scalar) : Bool :=
  match a.number?, b.number? with
  | some x, some y => x = y
  | _, _ => a = b

end Scalar

inductive Data
  | scalar (s : Scalar)
  | list (items : List Data)
  | mapping (entries : List (Scalar × Data))

namespace Data

instance instInhabited : Inhabited Data := ⟨scalar .null⟩

mutual

def display : Data → String
  | scalar s => s.display
  | list items => "[" ++ displayItems items ++ "]"
  | mapping entries => "\x7b" ++ displayEntries entries ++ "\x7d"

def displayItems : List Data → String
  | [] => ""
  | [d] => display d
  | d :: rest => display d ++ ", " ++ displayItems rest

def displayEntries : List (Scalar × Data) → String
  | [] => ""
  | [(k, d)] => k.display ++ ": " ++ display d
  | (k, d) :: rest => k.display ++ ": " ++ display d ++ ", " ++ displayEntries rest

end

mutual

def isWritable : Data → Bool
  | scalar s => s.isWritable
  | list items => areItemsWritable items
  | mapping entries => areEntriesWritable entries

def areItemsWritable : List Data → Bool
  | [] => true
  | d :: rest => isWritable d && areItemsWritable rest

def areEntriesWritable : List (Scalar × Data) → Bool
  | [] => true
  | (k, d) :: rest => k.isWritable && isWritable d && areEntriesWritable rest

end

def plain : Data → String
  | scalar s => s.plain
  | d => d.display

def isTrue : Data → Bool
  | scalar s => s.isTrue
  | list items => !items.isEmpty
  | mapping entries => !entries.isEmpty

end Data

inductive Unreadable
  /-- The text is no document. -/
  | malformed
  /-- A decimal integer of more than 4300 digits. -/
  | tooManyDigits (n : Nat)
  /-- The mark of a base without a digit behind it. -/
  | noDigits (base : Nat)
  deriving DecidableEq

def Unreadable.message : Unreadable → String
  | malformed => "invalid YAML"
  | tooManyDigits n =>
    "Exceeds the limit (4300 digits) for integer string conversion: value has " ++
      Positional.text 10 n ++ " digits; use sys.set_int_max_str_digits() to increase the limit"
  | noDigits b => "invalid literal for int() with base " ++ Positional.text 10 b ++ ": ''"

abbrev Reader := String → Except Unreadable Data

end Calculator
