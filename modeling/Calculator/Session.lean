import Calculator.Evaluation.Tree
import Calculator.Registry.Builtin
import Calculator.Tree.Encoding

/-! Sessions: a growing family of scopes and a registry of functions, changed by steps. Scope
zero is there from the start; every other scope is a child of an earlier one and sees what
is bound there later on. A step that fails changes nothing. -/

namespace Calculator

/-- A scope of a session: its own frame, and the scopes to look names up in, itself first. -/
structure Level where
  frame : Frame
  path : List Nat
  deriving DecidableEq

structure Session where
  levels : List Level
  registry : Registry
  deriving DecidableEq

namespace Session

def initial : Session := ⟨[⟨Frame.empty, [0]⟩], Registry.builtin⟩

inductive Step
  | child (scope : Nat)
  /-- Evaluates in the scope and binds there. -/
  | set (scope : Nat) (name : String) (tree : Data) (mode : Mode)
  | setFunction (scope : Nat) (name function : String)
  | get (scope : Nat) (name : String)
  | has (scope : Nat) (name : String)
  | display (scope : Nat)
  | evaluate (scope : Nat) (tree : Data) (mode : Mode)
  | clear
  | registerAll
  /-- Registers a function under a name, with the implementation of another one. -/
  | alias (name description category source : String) (examples : List String)
  | registered (name : String)
  | lookup (name : String)
  | category (category : String)
  | inventory

inductive Reply
  | nothing
  | index (n : Nat)
  | truth (b : Bool)
  | text (s : String)
  | names (ns : List String)
  | value (v : Value)
  | definition (d : Definition)
  | registry (r : Registry)

inductive Refusal
  | malformed (m : Tree.Malformed)
  | evaluation (f : Failure)
  | unknownFunction (name : String)
  | unknownCategory (name : String)

namespace Refusal

def message : Refusal → String
  | malformed m => m.message
  | evaluation f => f.message
  | unknownFunction n => s!"Unknown function: {n}"
  | unknownCategory n => Text.quoted n ++ " is not a valid FunctionCategory"

end Refusal

def path (s : Session) (i : Nat) : List Nat := ((s.levels[i]?).map Level.path).getD []

def scope (s : Session) (i : Nat) : Scope :=
  ⟨(s.path i).filterMap fun j => (s.levels[j]?).map Level.frame⟩

def bind (s : Session) (i : Nat) (name : String) (v : Value) : Session :=
  { s with levels := s.levels.modify i fun l => { l with frame := l.frame.set name v } }

def child (s : Session) (i : Nat) : Session :=
  { s with levels := s.levels ++ [⟨Frame.empty, s.levels.length :: s.path i⟩] }

def evaluateIn (s : Session) (i : Nat) (tree : Data) (mode : Mode) : Except Refusal Value :=
  match Tree.ofData tree with
  | .error m => .error (.malformed m)
  | .ok t =>
    match (t.evaluate ⟨mode, s.registry, s.scope i⟩).result with
    | .ok v => .ok v
    | .error f => .error (.evaluation f)

def find (s : Session) (name : String) : Except Refusal Definition :=
  match s.registry.find? name with
  | some d => .ok d
  | none => .error (.unknownFunction name)

def findCategory (name : String) : Except Refusal Category :=
  match Category.ofText? name with
  | some c => .ok c
  | none => .error (.unknownCategory name)

def step (s : Session) : Step → Except Refusal (Session × Reply)
  | .child i => .ok (s.child i, .index s.levels.length)
  | .set i name tree mode => do
    let v ← s.evaluateIn i tree mode
    return (s.bind i name v, .value v)
  | .setFunction i name function => .ok (s.bind i name (.function function), .nothing)
  | .get i name =>
    match (s.scope i).get name with
    | .ok v => .ok (s, .value v)
    | .error f => .error (.evaluation f)
  | .has i name => .ok (s, .truth ((s.scope i).get? name).isSome)
  | .display i => .ok (s, .text (s.scope i).display)
  | .evaluate i tree mode => do
    let v ← s.evaluateIn i tree mode
    return (s, .value v)
  | .clear => .ok ({ s with registry := Registry.empty }, .nothing)
  | .registerAll =>
    .ok ({ s with registry := s.registry.registerAll Registry.builtinDefinitions }, .nothing)
  | .alias name description category source examples => do
    let c ← findCategory category
    let d ← s.find source
    return ({ s with
      registry := s.registry.register ⟨name, description, c, d.implementation, examples⟩ },
      .nothing)
  | .registered name => .ok (s, .truth (s.registry.contains name))
  | .lookup name => do
    let d ← s.find name
    return (s, .definition d)
  | .category category => do
    let c ← findCategory category
    return (s, .names ((s.registry.inCategory c).map Definition.name))
  | .inventory => .ok (s, .registry s.registry)

/-- A step that fails leaves the session as it was. -/
def after (s : Session) (step : Step) : Session :=
  match s.step step with
  | .ok (t, _) => t
  | .error _ => s

end Session
end Calculator
