import Calculator.Path
import Calculator.Settings

/-! Where the settings are kept: in a directory that is named outright, in the directory for
settings of all programs, or in the home directory. An empty name counts as none, except for
the home directory, where it is the root. -/

namespace Calculator

structure Surroundings where
  configDir : Option String
  sharedConfig : Option String
  home : Option String
  compatible : Option String
  deriving DecidableEq

namespace Surroundings

def empty : Surroundings := ⟨none, none, none, none⟩

def programName : String := "reckon"
def fileName : String := "config.yaml"

def given (name : Option String) : Option String := name.filter (· ≠ "")

/-- A name of a home directory, without slashes at its end. A name that starts with a tilde
is no directory. -/
def homePath? (name : String) : Option Path :=
  let cs := (name.toList.reverse.dropWhile (· = '/')).reverse
  match cs with
  | '~' :: _ => none
  | [] => some (Path.ofText "/")
  | cs => some (Path.ofText (String.ofList cs))

def configDirectory (s : Surroundings) : Except ConfigFailure Path :=
  match given s.configDir, given s.sharedConfig, s.home.bind homePath? with
  | some dir, _, _ => .ok (Path.ofText dir)
  | none, some dir, _ => .ok ((Path.ofText dir).below [programName])
  | none, none, some dir => .ok (dir.below [".config", programName])
  | none, none, none => .error .homeMissing

def configFile (s : Surroundings) : Except ConfigFailure Path := do
  return (← s.configDirectory).below [fileName]

def forcesCompatible (s : Surroundings) : Bool := s.compatible = some "1"

end Surroundings
end Calculator
