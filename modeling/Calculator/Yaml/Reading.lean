import Calculator.Yaml.Node

/-! Plain data from the text of a document. The keys of a mapping have to be scalars; a key
that comes again keeps its place and takes the later value. The calculator takes whatever reader
it is given. This one covers the documents that expressions and configurations are written in;
anchors, tags, directives, dates and scalars in literal style it refuses. -/

namespace Calculator.Yaml

def scalarOf (text : String) (isPlain : Bool) : Except Unreadable Scalar :=
  if isPlain then plainValue text else .ok (.text text)

def keyOf : Node → Except Unreadable Scalar
  | .scalar text isPlain => scalarOf text isPlain
  | _ => .error .malformed

def put (key : Scalar) (d : Data) : List (Scalar × Data) → List (Scalar × Data)
  | [] => [(key, d)]
  | (k, e) :: rest => if k.sameKey key then (k, d) :: rest else (k, e) :: put key d rest

mutual

def dataOf : Node → Except Unreadable Data
  | .scalar text isPlain => do return .scalar (← scalarOf text isPlain)
  | .list items => do return .list (← itemsOf items)
  | .mapping entries => do return .mapping (← entriesOnto [] entries)

def itemsOf : List Node → Except Unreadable (List Data)
  | [] => .ok []
  | n :: rest => do
    let d ← dataOf n
    return d :: (← itemsOf rest)

def entriesOnto (seen : List (Scalar × Data)) :
    List (Node × Node) → Except Unreadable (List (Scalar × Data))
  | [] => .ok seen
  | (k, n) :: rest => do
    let key ← keyOf k
    let d ← dataOf n
    entriesOnto (put key d seen) rest

end

def read : Reader := fun text =>
  match Node.ofText? text with
  | some n => dataOf n
  | none => .error .malformed

end Calculator.Yaml
