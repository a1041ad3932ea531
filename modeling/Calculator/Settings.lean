import Calculator.Builtins
import Calculator.Data
import Calculator.Text.Uppercase

/-! Settings, read from a mapping. Three keys are known; a key that is not is reported and
ignored. A timeout has to be a positive integer, and the other settings take any value that can be
written out. -/

namespace Calculator

structure Settings where
  compatible : Bool
  /-- Milliseconds after which an evaluation is cancelled. -/
  timeout : Option Nat
  logLevel : String
  deriving DecidableEq

inductive ConfigFailure
  | timeout (d : Data)
  | homeMissing
  | notMapping (file : String)
  | unreadable (file : String)
  /-- Unknown keys of kinds that have no common order. -/
  | unorderedKeys (first second : Scalar)
  /-- A numeral that no number is made of. -/
  | unreadableNumber (u : Unreadable)
  /-- An integer that is too long to be written out. -/
  | unwritableNumber

namespace ConfigFailure

def message : ConfigFailure → String
  | timeout d => "timeout_ms must be a positive integer, got " ++ d.display
  | homeMissing => "Unable to find home directory"
  | notMapping file => "Expected a mapping at the top of " ++ file
  | unreadable file => "Failed to read " ++ file
  | unorderedKeys a b =>
    s!"'<' not supported between instances of '{a.kindName}' and '{b.kindName}'"
  | unreadableNumber u => u.message
  | unwritableNumber => (Failure.unprintable .tooManyDigits).message

/-- Whether the configuration is to blame, and not the program that reads it. -/
def isOrdinary : ConfigFailure → Bool
  | unorderedKeys _ _ => false
  | unreadableNumber _ => false
  | unwritableNumber => false
  | _ => true

end ConfigFailure

namespace Settings

def defaultLogLevel : String := "WARNING"

def standard : Settings := ⟨false, none, defaultLogLevel⟩

def mode (s : Settings) : Mode := Mode.ofBool s.compatible

def compatibleKey : String := "compatibility_mode"
def timeoutKey : String := "timeout_ms"
def logLevelKey : String := "log_level"

def knownKeys : List String := [compatibleKey, timeoutKey, logLevelKey]

abbrev Entries := List (Scalar × Data)

def find? (entries : Entries) (key : String) : Option Data :=
  (entries.find? fun e => e.1 = .text key).map Prod.snd

def isKnown : Scalar → Bool
  | .text s => knownKeys.contains s
  | _ => false

def unknownKeys (entries : Entries) : List Scalar :=
  (entries.map Prod.fst).filter fun k => !isKnown k

/-- Whether one key may stand before another one, if their kinds have a common order. -/
def keysInOrder? (a b : Scalar) : Option Bool :=
  match a, b with
  | .text s, .text t => some (Text.inOrder s t)
  | .text _, _ => none
  | .null, _ => none
  | _, .text _ => none
  | _, .null => none
  | a, b =>
    match a.number?, b.number? with
    | some x, some y => some (x.le y)
    | _, _ => some false

def unordered? : List Scalar → Option (Scalar × Scalar)
  | a :: b :: rest => if (keysInOrder? a b).isSome then unordered? (b :: rest) else some (a, b)
  | _ => none

/-- Keys in order: texts by the codes of their characters, numbers by size. -/
def sortKeys (keys : List Scalar) : Except ConfigFailure (List Scalar) :=
  match unordered? keys with
  | some (a, b) => .error (.unorderedKeys b a)
  | none => .ok (keys.mergeSort fun a b => (keysInOrder? a b).getD true)

def warning (key : Scalar) : String := s!"Ignoring unknown config key '{key.plain}'"

/-- What is wrong with a timeout. The message quotes it, if it can be written out. -/
def rejected (d : Data) : ConfigFailure := if d.isWritable then .timeout d else .unwritableNumber

def timeoutOf (entries : Entries) : Except ConfigFailure (Option Nat) :=
  match find? entries timeoutKey with
  | none => .ok none
  | some (.scalar .null) => .ok none
  | some (.scalar (.int n)) =>
    if 0 < n then .ok (some n.toNat) else .error (rejected (.scalar (.int n)))
  | some d => .error (rejected d)

def isCompatible (entries : Entries) : Bool :=
  ((find? entries compatibleKey).map Data.isTrue).getD false

def logLevelOf (entries : Entries) : Except ConfigFailure String :=
  match find? entries logLevelKey with
  | none => .ok (Text.upper defaultLogLevel)
  | some d => if d.isWritable then .ok (Text.upper d.plain) else .error .unwritableNumber

structure Report where
  warnings : List String
  settings : Except ConfigFailure Settings

def Report.failed (f : ConfigFailure) : Report := ⟨[], .error f⟩

def ofEntries (entries : Entries) : Report :=
  match sortKeys (unknownKeys entries) with
  | .error f => .failed f
  | .ok keys =>
    ⟨keys.map warning, do
      let timeout ← timeoutOf entries
      let logLevel ← logLevelOf entries
      return ⟨isCompatible entries, timeout, logLevel⟩⟩

end Settings
end Calculator
