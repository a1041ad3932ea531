import Calculator.Bindings
import Calculator.Text.Order
import Calculator.Text.Quoted
import Calculator.Value

/-! Lexical scopes. A frame binds names to values; a scope is a chain of frames, innermost
first, and a name means what the first frame that binds it says. -/

namespace Calculator

structure Frame where
  bindings : List (String × Value)
  deriving DecidableEq

namespace Frame

def empty : Frame := ⟨[]⟩

instance instInhabited : Inhabited Frame := ⟨empty⟩

def get? (f : Frame) (name : String) : Option Value := Bindings.find? name f.bindings

def set (f : Frame) (name : String) (v : Value) : Frame := ⟨Bindings.set name v f.bindings⟩

def names (f : Frame) : List String := Bindings.names f.bindings

def display (f : Frame) : String :=
  "[" ++ ", ".intercalate ((Text.sort f.names).map Text.quoted) ++ "]"

end Frame

structure Scope where
  frames : List Frame
  deriving DecidableEq

namespace Scope

def empty : Scope := ⟨[Frame.empty]⟩

def getIn (name : String) : List Frame → Option Value
  | [] => none
  | f :: rest =>
    match f.get? name with
    | some v => some v
    | none => getIn name rest

def get? (s : Scope) (name : String) : Option Value := getIn name s.frames

def get (s : Scope) (name : String) : Except Failure Value :=
  match s.get? name with
  | some v => .ok v
  | none => .error (.unboundName name)

def child (s : Scope) : Scope := ⟨Frame.empty :: s.frames⟩

def bind (s : Scope) (name : String) (v : Value) : Scope :=
  match s.frames with
  | [] => ⟨[Frame.empty.set name v]⟩
  | f :: rest => ⟨f.set name v :: rest⟩

def displayIn : List Frame → String
  | [] => "None"
  | f :: rest => "Scope(" ++ f.display ++ ", parent=" ++ displayIn rest ++ ")"

def display (s : Scope) : String := displayIn s.frames

end Scope
end Calculator
