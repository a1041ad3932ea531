import Calculator.Command.Clock
import Calculator.Yaml.Reading

/-! The command line of the calculator. -/

namespace Calculator.Main

def surroundings : IO Surroundings := do
  return ⟨← IO.getEnv "RECKON_CONFIG_DIR", ← IO.getEnv "XDG_CONFIG_HOME", ← IO.getEnv "HOME",
    ← IO.getEnv "RECKON_COMPAT"⟩

def readText (file : String) : IO (Option String) := do
  try return some (← IO.FS.readFile file)
  catch _ => return none

def readInput : IO String := do
  (← IO.getStdin).readToEnd

/-- The text of the source that a command names, where a hyphen names the standard input. -/
def readSource (arguments : List String) : IO (String → Option String) := do
  match (Invocation.ofArguments? arguments).bind Invocation.command? with
  | some (.evaluate "-" _ _ _) =>
    let text ← readInput
    return fun _ => some text
  | some (.evaluate file _ _ _) =>
    let text ← readText file
    return fun _ => text
  | _ => return fun _ => none

def report : IO Settings.Report := do
  let s ← surroundings
  match s.configFile with
  | .error f => return .failed f
  | .ok file => return Settings.load Yaml.read s file.text (← readText file.text)

end Calculator.Main

open Calculator in
def main (arguments : List String) : IO UInt32 := do
  let report ← Main.report
  let source ← Main.readSource arguments
  match ← (Invocation.execute Yaml.read arguments report source).run with
  | .exited output =>
    IO.print output.stdout
    IO.eprint output.stderr
    return output.exit.toUInt32
  | .escaped e stdout stderr =>
    IO.print stdout
    IO.eprint (stderr ++ Command.line e.message)
    return Output.failed.toUInt32
