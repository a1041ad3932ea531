/-! The order of texts by the codes of their characters. -/

namespace Calculator.Text

def charsInOrder : List Char → List Char → Bool
  | [], _ => true
  | _ :: _, [] => false
  | a :: as, b :: bs => if a = b then charsInOrder as bs else a.toNat ≤ b.toNat

def inOrder (s t : String) : Bool := charsInOrder s.toList t.toList

def sort (ts : List String) : List String := ts.mergeSort inOrder

end Calculator.Text
