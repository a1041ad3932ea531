/-! File paths in normal form: a root, and parts that are neither empty nor a single dot. Two
slashes in front are a root of their own, and parts that go up are kept. -/

namespace Calculator

structure Path where
  root : String
  parts : List String
  deriving DecidableEq

namespace Path

def split : List Char → List (List Char)
  | [] => [[]]
  | c :: rest =>
    if c = '/' then [] :: split rest
    else
      match split rest with
      | p :: ps => (c :: p) :: ps
      | [] => [[c]]

def partsOf (cs : List Char) : List String :=
  ((split cs).filter fun p => p ≠ [] && p ≠ ['.']).map String.ofList

def rootOf : List Char → String
  | '/' :: '/' :: '/' :: _ => "/"
  | '/' :: '/' :: _ => "//"
  | '/' :: _ => "/"
  | _ => ""

def ofText (s : String) : Path := ⟨rootOf s.toList, partsOf s.toList⟩

def below (p : Path) (names : List String) : Path := { p with parts := p.parts ++ names }

def text (p : Path) : String :=
  let s := p.root ++ "/".intercalate p.parts
  if s = "" then "." else s

end Path
end Calculator
