import Calculator.Number.Rounded

/-! What can go wrong in an evaluation. A failure names its cause; `message` words it.
Texts that a failure quotes are rendered when it arises, so an unprintable operand is
reported as such instead of the failure that wanted to mention it. -/

namespace Calculator

inductive Failure
  -- numbers
  | invalidLiteral (text : String)
  | divisionByZero
  | undefinedPower
  | undefinedAt (function argument : String)
  | factorialDomain
  | unknownPrimitive (name : String)
  | notAnInteger (text : String)
  | radixOutOfRange (text : String)
  -- kinds of values
  | expectedNumber (kind text : String)
  | expectedApplicable (kind text : String)
  | numberNotCallable (text : String)
  | notCallable (kind text : String)
  | functionMultiplied (name : String)
  | functionPassed (argument function : String)
  | convertedToFunction
  | functionConverted (name : String)
  -- names
  | unboundName (name : String)
  | unregisteredFunction (name : String)
  -- limits of texts
  | unprintable (reason : Unprintable)
  /-- A step that cannot fail has failed. -/
  | internal (subject : String) (cause : Failure)
  deriving DecidableEq

inductive FailureClass
  | number | kind | name | evaluation | text | overflow | unreadable | internal
  deriving DecidableEq

namespace Failure

def family : Failure → FailureClass
  | invalidLiteral _ | divisionByZero | undefinedPower | undefinedAt _ _ | factorialDomain
  | unknownPrimitive _ | notAnInteger _ | radixOutOfRange _ => .number
  | expectedNumber _ _ | expectedApplicable _ _ | numberNotCallable _ | notCallable _ _
  | functionMultiplied _ | functionPassed _ _ | convertedToFunction | functionConverted _ => .kind
  | unboundName _ => .name
  | unregisteredFunction _ => .evaluation
  | unprintable .tooManyDigits | unprintable .precisionOutOfRange => .text
  | unprintable .exponentTooLarge => .overflow
  | unprintable .exponentUnreadable => .unreadable
  | internal _ _ => .internal

/-- Domain failures end an evaluation with an error of its own. The others mean that a text
could not be produced, or a defect. -/
def isDomain (f : Failure) : Bool :=
  match f.family with
  | .number | .kind | .name | .evaluation => true
  | .text | .overflow | .unreadable | .internal => false

def capitalize (s : String) : String :=
  match s.toList with
  | c :: rest => String.ofList (c.toUpper :: rest)
  | [] => s

def message : Failure → String
  | invalidLiteral t => s!"Invalid number literal '{t}'"
  | divisionByZero => "Division by zero"
  | undefinedPower => "Exponentiation is undefined"
  | undefinedAt f a => s!"{f}({a}) is undefined"
  | factorialDomain => "Factorial is only supported for non-negative integers"
  | unknownPrimitive n => s!"Unknown function '{n}'"
  | notAnInteger t => s!"Expected an integer, got {t}"
  | radixOutOfRange t => s!"Base must be between 2 and 36 (inclusive), got {t}"
  | expectedNumber k t => s!"Expected a number, found {k} '{t}'"
  | expectedApplicable k t => s!"Expected a number or a function, found {k} '{t}'"
  | numberNotCallable t => s!"'{t}' is not a function"
  | notCallable k t => s!"{capitalize k} '{t}' is not a function"
  | functionMultiplied n => s!"Cannot multiply function '{n}', it is not a number"
  | functionPassed a f => s!"Cannot pass function '{a}' to '{f}', this is not a multiplication"
  | convertedToFunction => "Unable to convert value to a function"
  | functionConverted n => s!"Unable to convert value to a function: '{n}' is not a number"
  | unboundName n => s!"Unknown identifier '{n}'"
  | unregisteredFunction n => s!"Unknown function: {n}"
  | unprintable .tooManyDigits =>
    "Exceeds the limit (4300 digits) for integer string conversion; " ++
      "use sys.set_int_max_str_digits() to increase the limit"
  | unprintable .exponentTooLarge => "[<class 'decimal.Overflow'>]"
  | unprintable .exponentUnreadable => "[<class 'decimal.InvalidOperation'>]"
  | unprintable .precisionOutOfRange => "valid range for prec is [1, MAX_PREC]"
  | internal s c => s ++ " failed unexpectedly: " ++ c.message

end Failure
end Calculator
