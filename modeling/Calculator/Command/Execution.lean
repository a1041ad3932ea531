import Calculator.Command.Arguments
import Calculator.Evaluation.Tree
import Calculator.Export
import Calculator.Registry.Builtin
import Calculator.Settings.Loading
import Calculator.Tree.Encoding

/-! What a command does, up to the clock: it is finished at once, or it is an evaluation
together with the time that it may take and with what to print in the end. Failures that no
command reports get out of it, after what was printed before. -/

namespace Calculator

structure Output where
  exit : Nat
  stdout : String
  stderr : String
  deriving DecidableEq

namespace Output

def succeeded : Nat := 0
def failed : Nat := 1
def misused : Nat := 2
def cancelled : Nat := 130

def usage : Output := ⟨misused, "", "Error: invalid arguments\n"⟩

def error (stdout stderr message : String) : Output :=
  ⟨failed, stdout, stderr ++ "Error: " ++ message ++ "\n"⟩

end Output

/-- Names that the logging knows, but not as levels. -/
inductive Misnomer
  | lineFormat | lineStyles
  deriving DecidableEq

namespace Misnomer

def all : List Misnomer := [lineFormat, lineStyles]

def name : Misnomer → String
  | lineFormat => "BASIC_FORMAT"
  | lineStyles => "_STYLES"

def ofName? (s : String) : Option Misnomer := all.find? fun m => m.name = s

def display : Misnomer → String
  | lineFormat => "'%(levelname)s:%(name)s:%(message)s'"
  | lineStyles =>
    "\x7b'%': (<class 'logging.PercentStyle'>, '%(levelname)s:%(name)s:%(message)s'), " ++
      "'\x7b': (<class 'logging.StrFormatStyle'>, " ++
      "'\x7blevelname\x7d:\x7bname\x7d:\x7bmessage\x7d'), " ++
      "'$': (<class 'logging.StringTemplateStyle'>, " ++
      "'$\x7blevelname\x7d:$\x7bname\x7d:$\x7bmessage\x7d')\x7d"

def message : Misnomer → String
  | lineFormat => "Unknown level: " ++ lineFormat.display
  | lineStyles => "Level not an integer or a valid string: " ++ lineStyles.display

end Misnomer

/-- Failures that are not reported as errors of a command. -/
inductive Escape
  | configuration (f : ConfigFailure)
  | logLevel (m : Misnomer)
  | document (u : Unreadable)
  | tree (m : Tree.Malformed)
  | evaluation (f : Failure)

def Escape.message : Escape → String
  | configuration f => f.message
  | logLevel m => m.message
  | document u => u.message
  | tree m => m.message
  | evaluation f => f.message

inductive Ending
  | exited (o : Output)
  /-- A failure got out, after this was printed. -/
  | escaped (e : Escape) (stdout stderr : String)

def Ending.stdout : Ending → String
  | exited o => o.stdout
  | escaped _ stdout _ => stdout

/-- How an evaluation went: the result, or nothing if it was cancelled, and the constants
whose evaluation had begun. -/
abbrev Progress := Option (Except Failure Value) × List String

inductive Execution
  | finished (e : Ending)
  | evaluation (timeout : Option Nat) (work : Polling (Except Failure Value))
      (finish : Progress → Ending)

structure Inputs where
  settings : Settings
  /-- What was printed before the command. -/
  warnings : String
  isLogged : Bool
  /-- The text of a source, if it can be read. -/
  source : String → Option String
  reader : Reader

namespace Command

def line (s : String) : String := s ++ "\n"

def modeOf (settings : Settings) (compatible : Option Bool) : Mode :=
  Mode.ofBool (compatible.getD settings.compatible)

def logged (isLogged wasCancelled : Bool) (constants : List String) : String :=
  if isLogged then
    String.join (constants.map fun n =>
      line ("DEBUG reckon.expressions.resolver: Bootstrapping constant " ++ n)) ++
      (if wasCancelled then
        line "DEBUG reckon.expressions.interrupt: Interrupt requested, aborting evaluation"
      else "")
  else ""

def concluded (stdout stderr : String) : Option (Except Failure Value) → Ending
  | none => .exited ⟨Output.cancelled, stdout, stderr ++ line Polling.cancelledMessage⟩
  | some (.error f) =>
    if f.isDomain then .exited (.error stdout stderr f.message)
    else .escaped (.evaluation f) stdout stderr
  | some (.ok v) =>
    match v.render with
    | .ok s => .exited ⟨Output.succeeded, stdout ++ line s, stderr⟩
    | .error f => .escaped (.evaluation f) stdout stderr

def evaluateTree (inputs : Inputs) (t : Tree) (compatible : Option Bool) (timeout : Option Nat)
    (showTree : Bool) : Execution :=
  let environment : Environment :=
    ⟨modeOf inputs.settings compatible, Registry.builtin, Scope.empty⟩
  let stdout := if showTree then line t.format else ""
  .evaluation (timeout <|> inputs.settings.timeout) (t.evaluate environment).computation
    fun (result, constants) =>
      concluded stdout (inputs.warnings ++ logged inputs.isLogged result.isNone constants) result

def evaluateData (inputs : Inputs) (d : Data) (compatible : Option Bool) (timeout : Option Nat)
    (showTree : Bool) : Execution :=
  match Tree.ofData d with
  | .ok t => evaluateTree inputs t compatible timeout showTree
  | .error m =>
    .finished (if m.isOrdinary then .exited (.error "" inputs.warnings m.message)
      else .escaped (.tree m) "" inputs.warnings)

def evaluateText (inputs : Inputs) (text : String) (compatible : Option Bool)
    (timeout : Option Nat) (showTree : Bool) : Execution :=
  match inputs.reader text with
  | .ok d => evaluateData inputs d compatible timeout showTree
  | .error u =>
    .finished (if u = .malformed then .exited (.error "" inputs.warnings u.message)
      else .escaped (.document u) "" inputs.warnings)

def builtinsText (mode : Mode) : String :=
  let names := Builtin.names mode
  line (Positional.text 10 names.length ++ " builtin identifiers (" ++ mode.text ++ " mode):") ++
    String.join (names.map fun n => line ("  " ++ n))

def nameWidth : Nat := 14

def padded (s : String) : String :=
  s ++ String.ofList (List.replicate (nameWidth - s.length) ' ')

def functionLine (d : Definition) : String :=
  line ("  " ++ padded d.name ++ " " ++ d.description)

def categoryText (r : Registry) (c : Category) : String :=
  match (r.inCategory c).mergeSort fun a b => Text.inOrder a.name b.name with
  | [] => ""
  | ds => line (Failure.capitalize c.text) ++ String.join (ds.map functionLine)

def functionsText (r : Registry) (asJson : Bool) : String :=
  if asJson then line (Export.text r) else String.join (Category.all.map (categoryText r))

def execute (inputs : Inputs) : Command → Execution
  | evaluate source compatible timeout showTree =>
    match inputs.source source with
    | some text => evaluateText inputs text compatible timeout showTree
    | none => .finished (.exited .usage)
  | builtins compatible =>
    .finished (.exited ⟨Output.succeeded, builtinsText (modeOf inputs.settings compatible),
      inputs.warnings⟩)
  | functions asJson =>
    .finished (.exited ⟨Output.succeeded, functionsText Registry.builtin asJson, inputs.warnings⟩)

end Command

namespace Invocation

def detailedLevels : List String := ["DEBUG", "NOTSET"]

/-- Runs a command line, given what is known about the configuration. -/
def execute (reader : Reader) (arguments : List String) (report : Settings.Report)
    (source : String → Option String) : Execution :=
  match ofArguments? arguments with
  | none => .finished (.exited .usage)
  | some i =>
    let warnings := String.join (report.warnings.map Command.line)
    match report.settings with
    | .error f =>
      .finished (if f.isOrdinary then .exited (.error "" warnings f.message)
        else .escaped (.configuration f) "" warnings)
    | .ok settings =>
      match (if i.verbose then none else Misnomer.ofName? settings.logLevel) with
      | some m => .finished (.escaped (.logLevel m) "" warnings)
      | none =>
        match i.command? with
        | none => .finished (.exited .usage)
        | some c =>
          c.execute ⟨settings, warnings, i.verbose || detailedLevels.contains settings.logLevel,
            source, reader⟩

end Invocation
end Calculator
