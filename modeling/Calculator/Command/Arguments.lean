import Calculator.Text.Blank
import Calculator.Text.DecimalDigit

/-! The arguments of the command line. Options before the command concern all commands; the
options of a command may stand before and after its operands. Two hyphens end the options,
and one hyphen is an operand. -/

namespace Calculator

inductive Command
  | evaluate (source : String) (compatible : Option Bool) (timeout : Option Nat) (showTree : Bool)
  | builtins (compatible : Option Bool)
  | functions (asJson : Bool)
  deriving DecidableEq

namespace Command

inductive Argument
  | flag (name : String)
  | setting (name value : String)
  | operand (text : String)
  deriving DecidableEq

def isOption (a : String) : Bool :=
  match a.toList with
  | '-' :: _ :: _ => true
  | _ => false

/-- The name of an option and the value that is attached to it. -/
def attached (a : String) : String × Option String :=
  let cs := a.toList
  let name := String.ofList (cs.takeWhile (· ≠ '='))
  match cs.dropWhile (· ≠ '=') with
  | _ :: value => (name, some (String.ofList value))
  | [] => (name, none)

/-- Reads arguments, given the options without a value and those with one. -/
def scan? (flags settings : List String) : List String → Option (List Argument)
  | [] => some []
  | "--" :: rest => some (rest.map .operand)
  | a :: rest =>
    if isOption a then
      match attached a, rest with
      | (name, none), value :: after =>
        if flags.contains name then (scan? flags settings (value :: after)).map (.flag name :: ·)
        else if settings.contains name then
          (scan? flags settings after).map (.setting name value :: ·)
        else none
      | (name, none), [] => if flags.contains name then some [.flag name] else none
      | (name, some value), rest =>
        if settings.contains name then
          (scan? flags settings rest).map (.setting name value :: ·)
        else none
    else (scan? flags settings rest).map (.operand a :: ·)

def operands (as : List Argument) : List String :=
  as.filterMap fun
    | .operand t => some t
    | _ => none

/-- The last of two opposite flags decides. -/
def compatibleOf (as : List Argument) : Option Bool :=
  as.foldl (fun known a =>
    if a = .flag "--compat" then some true
    else if a = .flag "--no-compat" then some false
    else known) none

def longestNumeral : Nat := 4300

/-- A positive number of milliseconds. Single underscores may stand between digits. -/
def milliseconds? (text : String) : Option Nat := do
  let cs ← Text.joined? (match Text.trim text.toList with
    | '+' :: rest => rest
    | cs => cs)
  let ds ← cs.mapM Text.digitValue?
  let n := ds.foldl (fun n d => 10 * n + d) 0
  if 0 < n ∧ ds.length ≤ longestNumeral then some n else none

/-- The last timeout that is given; every one has to be valid. -/
def timeoutOf? (as : List Argument) : Option (Option Nat) :=
  as.foldlM (fun known a =>
    match a with
    | .setting "--timeout" value => (milliseconds? value).map some
    | _ => some known) none

def compatibleFlags : List String := ["--compat", "--no-compat"]

def ofArguments? (name : String) (arguments : List String) : Option Command :=
  if name = "eval" then do
    let as ← scan? ("--tree" :: compatibleFlags) ["--timeout"] arguments
    let timeout ← timeoutOf? as
    match operands as with
    | [source] =>
      return evaluate source (compatibleOf as) timeout (as.contains (.flag "--tree"))
    | _ => none
  else if name = "builtins" then do
    let as ← scan? compatibleFlags [] arguments
    if operands as = [] then return builtins (compatibleOf as) else none
  else if name = "functions" then do
    let as ← scan? ["--json"] [] arguments
    if operands as = [] then return functions (as.contains (.flag "--json")) else none
  else none

def names : List String := ["eval", "builtins", "functions"]

end Command

/-- What stands before the arguments of a command. -/
structure Invocation where
  verbose : Bool
  command : String
  arguments : List String
  deriving DecidableEq

namespace Invocation

def isVerboseFlag (a : String) : Bool :=
  a = "--verbose" ||
    match a.toList with
    | '-' :: 'v' :: rest => rest.all (· = 'v')
    | _ => false

def named? (verbose : Bool) : List String → Option Invocation
  | name :: rest => if Command.names.contains name then some ⟨verbose, name, rest⟩ else none
  | [] => none

def ofVerbose? (verbose : Bool) : List String → Option Invocation
  | [] => none
  | "--" :: rest => named? verbose rest
  | a :: rest =>
    if isVerboseFlag a then ofVerbose? true rest
    else if Command.isOption a then none
    else named? verbose (a :: rest)

def ofArguments? (arguments : List String) : Option Invocation := ofVerbose? false arguments

def command? (i : Invocation) : Option Command := Command.ofArguments? i.command i.arguments

end Invocation
end Calculator
