import Calculator.Proofs.Failure
import Calculator.Registry.Builtin

/-! Conversions do not change numbers. Without its conversions a tree computes what it computes with
them, since no operation looks at the presentation of its operands. The one way to notice them is
a function that writes its argument out: an argument that was to be rounded may be too long to be
written exactly. -/

namespace Calculator

/-- The answer passes, or it is missing since a number cannot be written out. -/
def Delivers {α : Type} (p : α → Prop) : Except Failure α → Prop
  | .ok a => p a
  | .error f => ∃ u, f = .unprintable u

theorem Delivers.bind {α β : Type} {p : α → Prop} {q : β → Prop} {answer : Except Failure α}
    {next : α → Except Failure β} (h : Delivers p answer) (h' : ∀ a, p a → Delivers q (next a)) :
    Delivers q (answer >>= next) := by
  cases answer with
  | ok a => exact h' a h
  | error f => exact h

namespace Number

def bare (x : Number) : Number := { x with style := .auto, base := .decimal }

theorem bare_eq_iff {x y : Number} : x.bare = y.bare ↔ x.value = y.value ∧ x.approx = y.approx := by
  cases x
  cases y
  simp [bare]

theorem bare_derive {x y : Number} {other other' : Bool} {v v' : Closed} (same : y.bare = x.bare)
    (marks : other' = other) (values : v' = v) :
    (y.derive other' v').bare = (x.derive other v).bare := by
  rw [marks, values]
  exact congrArg (fun z => z.derive other v) same

theorem delivers_render (x : Number) : Delivers (fun _ => True) x.render := by
  unfold render
  split
  · trivial
  · exact ⟨_, rfl⟩

theorem delivers_applyNamed {x y z : Number} {f : NamedFunction} (same : y.bare = x.bare)
    (h : x.applyNamed f = .ok z) : Delivers (fun w => w.bare = z.bare) (y.applyNamed f) := by
  rw [applyNamed, applyNamedIn, bind_eq_ok_iff] at h
  obtain ⟨argument, -, h⟩ := h
  refine (delivers_render y).bind fun text _ => ?_
  rw [(bare_eq_iff.1 same).1]
  split at h
  · cases h
    exact bare_derive same rfl rfl
  · cases h

end Number

namespace Value

def bare : Value → Value
  | number x => .number x.bare
  | v => v

theorem bare_eq_number_iff {w : Value} {x : Number} :
    w.bare = (number x).bare ↔ ∃ y, w = number y ∧ y.bare = x.bare := by
  cases w <;> simp [bare]

theorem bare_eq_function_iff {w : Value} {name : String} :
    w.bare = (function name).bare ↔ w = function name := by
  cases w <;> simp [bare]

theorem bare_present (x : Number) (target : Value) : (present x target).bare = x.bare := by
  rw [Number.bare_eq_iff, present_value, present_approx]
  exact ⟨rfl, rfl⟩

end Value

theorem Arithmetic.delivers_run (op : Arithmetic) {x y z x' y' : Number}
    (left : x'.bare = x.bare) (right : y'.bare = y.bare) (h : op.run x y = .ok z) :
    Delivers (fun w => w.bare = z.bare) (op.run x' y') := by
  obtain ⟨value, -⟩ := Number.bare_eq_iff.1 left
  obtain ⟨value', approx'⟩ := Number.bare_eq_iff.1 right
  cases op with
  | div =>
    simp only [run, Number.div] at h ⊢
    rw [value, value', approx']
    split at h
    · cases h
    · next nonzero =>
      cases h
      rw [if_neg nonzero]
      exact Number.bare_derive left rfl rfl
  | pow =>
    simp only [run, Number.pow, Number.powIn] at h ⊢
    rw [value, value', approx']
    split at h
    · cases h
    · next regular =>
      rw [if_neg regular]
      split at h
      · cases h
        exact Number.bare_derive left rfl rfl
      · cases h
  | add =>
    cases h
    exact Number.bare_derive left approx' (congrArg₂ Closed.sum value value')
  | sub =>
    cases h
    exact Number.bare_derive left approx' (congrArg₂ Closed.difference value value')
  | mul =>
    cases h
    exact Number.bare_derive left approx' (congrArg₂ Closed.product value value')

theorem Unary.delivers_run {op : Unary} {x y z : Number} (same : y.bare = x.bare)
    (h : (op.run x).result = .ok z) : Delivers (fun w => w.bare = z.bare) (op.run y).result := by
  obtain ⟨value, approx⟩ := Number.bare_eq_iff.1 same
  cases op with
  | reciprocal => exact Arithmetic.delivers_run .div rfl same h
  | factorial =>
    have argument : y.factorialArgument = x.factorialArgument := by
      rw [Number.factorialArgument, Number.factorialArgument, value]
    simp only [run, Number.result_factorial, bind_eq_ok_iff] at h ⊢
    obtain ⟨n, natural, h⟩ := h
    cases h
    rw [argument, natural]
    exact Number.bare_derive same rfl rfl
  | negate =>
    cases h
    exact Number.bare_derive same rfl (congrArg Closed.negate value)
  | _ =>
    cases h
    exact same

theorem Implementation.delivers_run {i : Implementation} {x y : Number} {v : Value}
    (same : y.bare = x.bare) (h : i.run x = .ok v) :
    Delivers (fun w => w.bare = v.bare) (i.run y) := by
  cases i with
  | named f =>
    rw [run, bind_eq_ok_iff] at h
    obtain ⟨z, applied, h⟩ := h
    cases h
    exact (Number.delivers_applyNamed same applied).bind fun w hw => congrArg Value.number hw
  | approximately =>
    cases h
    exact congrArg Value.number (Number.bare_eq_iff.2 ⟨(Number.bare_eq_iff.1 same).1, rfl⟩)
  | base =>
    simp only [run, bind_eq_ok_iff] at h
    obtain ⟨n, integer, b, radix, h⟩ := h
    cases h
    have integer' : y.toInt = .ok n := by
      rwa [Number.toInt_eq_ok_iff, (Number.bare_eq_iff.1 same).1, ← Number.toInt_eq_ok_iff]
    rw [run, integer', ok_bind, radix]
    rfl

theorem Juxtaposition.delivers_apply {r : Registry} {form : Juxtaposition} {v w v' w' z : Value}
    (left : v'.bare = v.bare) (right : w'.bare = w.bare)
    (h : (v.apply r form.mayMultiply form.mustMultiply w).result = .ok z) :
    Delivers (fun u => u.bare = z.bare)
      (v'.apply r form.mayMultiply form.mustMultiply w').result := by
  obtain ⟨may, x, y, rfl, rfl, rfl⟩ | ⟨may, name, d, y, rfl, found, rfl, run⟩ :=
    result_eq_ok_iff.1 h
  · obtain ⟨x', rfl, first⟩ := Value.bare_eq_number_iff.1 left
    obtain ⟨y', rfl, second⟩ := Value.bare_eq_number_iff.1 right
    rw [result_eq_ok_iff.2 (.inl ⟨may, x', y', rfl, rfl, rfl⟩)]
    have product := Arithmetic.delivers_run .mul first second rfl
    exact congrArg Value.number product
  · obtain ⟨y', rfl, argument⟩ := Value.bare_eq_number_iff.1 right
    rw [Value.bare_eq_function_iff.1 left, apply_function may, Evaluation.result_answer,
      Value.call_number found]
    exact Implementation.delivers_run argument run

namespace Tree
open Evaluation

/-- The tree with the left operand of every conversion in its place. -/
def strip : Tree → Tree
  | literal t => literal t
  | identifier n => identifier n
  | unary op t => unary op t.strip
  | binary (.arithmetic op) l r => binary (.arithmetic op) l.strip r.strip
  | binary (.juxtaposition form) l r => binary (.juxtaposition form) l.strip r.strip
  | binary .conversion l _ => l.strip

variable {env : Environment}

theorem delivers_operand {t : Tree} {x : Number}
    (h : Delivers (fun w => w.bare = (Value.number x).bare) (t.evaluate env).result) :
    Delivers (fun y => y.bare = x.bare) (t.operand env) := by
  refine h.bind fun w alike => ?_
  obtain ⟨y, rfl, same⟩ := Value.bare_eq_number_iff.1 alike
  exact same

theorem delivers_strip {t : Tree} {v : Value} (h : (t.evaluate env).result = .ok v) :
    Delivers (fun w => w.bare = v.bare) (t.strip.evaluate env).result := by
  -- by induction over the tree: operands that differ in presentation only are taken alike
  induction t generalizing v with
  | literal t =>
    rw [strip, h]
    rfl
  | identifier n =>
    rw [strip, h]
    rfl
  | unary op t ih =>
    obtain ⟨x, y, operand, run, rfl⟩ := result_unary_eq_ok_iff.1 h
    rw [strip, result_unary]
    refine (delivers_operand (ih operand)).bind fun x' same => ?_
    exact (Unary.delivers_run same run).bind fun y' hy => congrArg Value.number hy
  | binary op l r ihl ihr =>
    cases op with
    | arithmetic op =>
      obtain ⟨x, y, z, left, right, run, rfl⟩ := result_arithmetic_eq_ok_iff.1 h
      rw [strip, result_arithmetic]
      refine (delivers_operand (ihl left)).bind fun x' first => ?_
      refine (delivers_operand (ihr right)).bind fun y' second => ?_
      exact (Arithmetic.delivers_run op first second run).bind fun z' hz => congrArg Value.number hz
    | juxtaposition form =>
      obtain ⟨v, w, left, right, applied⟩ := result_juxtaposition_eq_ok_iff.1 h
      rw [strip, result_juxtaposition]
      refine (ihl left).bind fun v' first => ?_
      refine (ihr right).bind fun w' second => ?_
      exact Juxtaposition.delivers_apply first second applied
    | conversion =>
      obtain ⟨target, x, -, -, left, rfl⟩ := result_conversion_eq_ok_iff.1 h
      have same : (Value.number (Value.present x target)).bare = (Value.number x).bare :=
        congrArg Value.number (Value.bare_present x target)
      rw [strip, same]
      exact ihl left

/-- Where a run answers a number, every run of the tree without its conversions that answers a
number answers the same one with the same mark, and one that fails wanted to write a number that
is too long. -/
theorem strip_of_run (env : Environment) (fires fires' : Nat → Bool) (t : Tree) (x : Number)
    (ran : ((t.evaluate env).computation.run fires).1 = some (.ok (.number x))) :
    (∀ y, ((t.strip.evaluate env).computation.run fires').1 = some (.ok (.number y)) →
      y.value = x.value ∧ y.approx = x.approx) ∧
    (∀ v, ((t.strip.evaluate env).computation.run fires').1 = some (.ok v) → v.kind = .number) ∧
    ∀ f, ((t.strip.evaluate env).computation.run fires').1 = some (.error f) →
      ∃ u, f = .unprintable u := by
  have delivered := delivers_strip ((run_eq_some_iff fires _ _).1 ran).1.symm
  have answers (answer : Except Failure Value)
      (h : ((t.strip.evaluate env).computation.run fires').1 = some answer) :
      Delivers (fun w => w.bare = (Value.number x).bare) answer := by
    rw [((run_eq_some_iff fires' _ _).1 h).1]
    exact delivered
  refine ⟨fun y h => ?_, fun v h => ?_, fun f h => answers _ h⟩
  · exact Number.bare_eq_iff.1 (Value.number.inj (answers _ h))
  · obtain ⟨y, rfl, -⟩ := Value.bare_eq_number_iff.1 (answers _ h)
    rfl

theorem strip_of_run_sqrt :
    let env : Environment := ⟨.standard, .builtin, .empty⟩
    let rounded := binary .conversion (literal "16") (identifier "dp")
    let root := binary (.juxtaposition .call) (identifier "sqrt") rounded
    let t := binary .conversion root (identifier "hex")
    let x := ((Number.ofInt 4).withStyle (.digits 10)).withBase .hexadecimal
    let y := Number.ofInt 4
    ((t.evaluate env).computation.run Polling.never).1 = some (.ok (.number x)) ∧
    ((t.strip.evaluate env).computation.run (Polling.after 3)).1 = some (.ok (.number y)) ∧
    y.value = x.value ∧ y.approx = x.approx ∧ y.style ≠ x.style ∧ y.base ≠ x.base := by
  intro env rounded root t x y
  have ran : ((t.evaluate env).computation.run Polling.never).1 = some (.ok (.number x)) := by
    decide +kernel
  have ran' : ((t.strip.evaluate env).computation.run (Polling.after 3)).1 =
      some (.ok (.number y)) := by decide +kernel
  obtain ⟨value, approx⟩ := (strip_of_run env _ (Polling.after 3) t x ran).1 y ran'
  exact ⟨ran, ran', value, approx, by decide, by decide⟩

/-- An argument of 4301 digits can be written rounded, but not exactly. -/
example :
    let env : Environment := ⟨.standard, .builtin, .empty⟩
    let power := binary (.arithmetic .pow) (literal "10") (literal "4300")
    let t := binary (.juxtaposition .call) (identifier "abs")
      (binary .conversion power (identifier "dp"))
    (t.evaluate env).result.isOk ∧
      (t.strip.evaluate env).result = .error (.unprintable .tooManyDigits) := by decide +kernel

end Tree
end Calculator
