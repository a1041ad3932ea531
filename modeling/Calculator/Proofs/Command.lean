import Calculator.Command.Clock
import Calculator.Proofs.Outcome
import Calculator.Yaml.Reading
import Mathlib.Data.List.Induction

/-! The command line agrees with the library. `eval` on the standard input takes its mode from
the last flag that asks for one, else from the environment, else from the configuration, and
reports what an uninterrupted run of the tree ends with; the tree itself is printed first. All
this holds, however documents are read, but for a configured log level that is the name of
something else: there the command breaks off before it looks at its arguments. -/

namespace Calculator

namespace Settings

/-- The settings that a file has, without those that are forced. -/
def written (reader : Reader) (file : String) : Option String → Report
  | some text => read reader file text
  | none => ⟨[], .ok standard⟩

end Settings

namespace Command

/-- What an argument without a value is read as, if it is known. -/
def argument (a : String) : Argument := if isOption a then .flag a else .operand a

def compatible? (o : String) : Option Bool :=
  if o = "--compat" then some true else if o = "--no-compat" then some false else none

section
variable {options : List String}

end

end Command

namespace Polling

end Polling

namespace Execution

/-- An execution comes to an end, whatever the clock shows. -/
def Ends (x : Execution) (e : Ending) : Prop := ∀ world, (x.run world).val = e

end Execution

namespace Command

/-- What is printed of a tree before it is evaluated. -/
def shown (showTree : Bool) (t : Tree) : String := if showTree then t.format ++ "\n" else ""

end Command

namespace Invocation

/-- The mode of an evaluation: the last option that asks for one, else the environment, else the
configuration. -/
def modeOf (s : Surroundings) (own : Settings) (options : List String) : Mode :=
  Mode.ofBool ((options.filterMap Command.compatible?).getLast?.getD
    (s.forcesCompatible || own.compatible))

end Invocation
end Calculator
