import Calculator.Data
import Calculator.Failure
import Calculator.Tree

/-! Trees as plain data. A number stands for a literal and a text for an identifier; every
other node is a mapping whose only key tags it. `ofData` reads them, reporting the first
node that is out of shape; `toData` writes the form with a tag on every node. -/

namespace Calculator

inductive Tag
  | literal | identifier
  | unary (op : Unary)
  | binary (op : Binary)
  deriving DecidableEq

namespace Tag

def all : List Tag :=
  [ literal, identifier,
    unary .parens, unary .negate, unary .plus, unary .reciprocal, unary .factorial,
    binary (.arithmetic .add), binary (.arithmetic .sub), binary (.arithmetic .mul),
    binary (.arithmetic .div), binary (.arithmetic .pow),
    binary (.juxtaposition .implicit), binary (.juxtaposition .call),
    binary (.juxtaposition .multiply), binary .conversion ]

def text : Tag → String
  | literal => "num"
  | identifier => "ident"
  | unary .parens => "parens"
  | unary .negate => "neg"
  | unary .plus => "plus"
  | unary .reciprocal => "recip"
  | unary .factorial => "factorial"
  | binary (.arithmetic .add) => "add"
  | binary (.arithmetic .sub) => "sub"
  | binary (.arithmetic .mul) => "mul"
  | binary (.arithmetic .div) => "div"
  | binary (.arithmetic .pow) => "pow"
  | binary (.juxtaposition .implicit) => "apply"
  | binary (.juxtaposition .call) => "call"
  | binary (.juxtaposition .multiply) => "apply_mul"
  | binary .conversion => "as"

def ofText? (s : String) : Option Tag := all.find? fun t => t.text = s

end Tag

namespace Tree

/-- Data that encodes no tree, by the shape of the first offending node. -/
inductive Malformed
  | boolean (b : Bool)
  | shape (d : Data)
  | operands (tag : String) (d : Data)
  | unknownTag (tag : String)
  /-- An integer that would have to be written out is too long. -/
  | unwritable

namespace Malformed

def message : Malformed → String
  | boolean b => "Booleans are not expressions: " ++ (Scalar.bool b).display
  | shape d => "Expected a number, a name or a single-key mapping, got " ++ d.display
  | operands tag d => s!"'{tag}' expects a list of two operands, got " ++ d.display
  | unknownTag tag => s!"Unknown node kind '{tag}'"
  | unwritable => (Failure.unprintable .tooManyDigits).message

/-- Whether the data is to blame, and not its size. -/
def isOrdinary : Malformed → Bool
  | unwritable => false
  | _ => true

end Malformed

def written (d : Data) (e : Except Malformed Tree) : Except Malformed Tree :=
  if d.isWritable then e else .error .unwritable

/-- The tree that data encodes. A node is looked at before its operands, and the left
operand before the right one. -/
def ofData : Data → Except Malformed Tree
  | .scalar (.bool b) => .error (.boolean b)
  | .scalar (.int n) => written (.scalar (.int n)) (.ok (.literal (Scalar.int n).plain))
  | .scalar (.float x) => .ok (.literal (Scalar.float x).plain)
  | .scalar (.text s) => .ok (.identifier s)
  | .mapping [(key, body)] =>
    match Tag.ofText? key.plain with
    | some .literal => written body (.ok (.literal body.plain))
    | some .identifier => written body (.ok (.identifier body.plain))
    | some (.unary op) => do return .unary op (← ofData body)
    | some (.binary op) =>
      match body with
      | .list [left, right] => do return .binary op (← ofData left) (← ofData right)
      | d => written d (.error (.operands key.plain d))
    | none => written (.scalar key) (.error (.unknownTag key.plain))
  | d => written d (.error (.shape d))

def tagged (t : Tag) (body : Data) : Data := .mapping [(.text t.text, body)]

def toData : Tree → Data
  | literal t => tagged .literal (.scalar (.text t))
  | identifier n => tagged .identifier (.scalar (.text n))
  | unary op t => tagged (.unary op) t.toData
  | binary op l r => tagged (.binary op) (.list [l.toData, r.toData])

end Tree
end Calculator
