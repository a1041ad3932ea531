import Calculator.Proofs.Naming
import Calculator.Proofs.Operation

/-! Where the presentation of a result comes from. Operations hand on the presentation of their
left operand and functions that of their argument, so that it can be followed down the tree to a
literal or a name, past the conversions that replaced a part of it. A right operand of arithmetic
and a number as the target of a conversion have no say in it. -/

namespace Calculator

namespace Number

def presentation (x : Number) : Style × Radix := (x.style, x.base)

def plain : Style × Radix := (.auto, .decimal)

theorem presentation_of_derive {x z : Number} {other : Bool} (h : ∃ v, z = x.derive other v) :
    z.presentation = x.presentation := by
  obtain ⟨v, rfl⟩ := h
  rfl

end Number

/-- What a conversion target replaces in a presentation. -/
def Value.override : Value → Style × Radix → Style × Radix
  | format s, (_, b) => (s, b)
  | precisionMarker, (_, b) => (.digits 10, b)
  | base b, (s, _) => (s, b)
  | _, p => p

namespace Environment

def presentation (env : Environment) (name : String) : Style × Radix :=
  if name ∈ Builtin.names env.mode then Number.plain
  else match env.scope.get? name with
    | some (.number x) => x.presentation
    | _ => Number.plain

end Environment

namespace Tree

/-- The presentation of the number that a tree evaluates to. -/
def presentation (env : Environment) : Tree → Style × Radix
  | literal _ => Number.plain
  | identifier n => env.presentation n
  | unary .reciprocal _ => Number.plain
  | unary _ t => t.presentation env
  | binary (.arithmetic _) l _ => l.presentation env
  | binary (.juxtaposition _) l r =>
    match (l.evaluate env).result with
    | .ok (.function _) => r.presentation env
    | _ => l.presentation env
  | binary .conversion l r =>
    match (r.evaluate env).result with
    | .ok target => target.override (l.presentation env)
    | .error _ => l.presentation env

end Tree

theorem Value.presentation_present (x : Number) (target : Value) :
    (present x target).presentation = target.override x.presentation := by
  cases target <;> rfl

theorem Arithmetic.presentation_of_run {op : Arithmetic} {x y z : Number}
    (h : op.run x y = .ok z) : z.presentation = x.presentation :=
  Number.presentation_of_derive (eq_derive_of_run h)

theorem Unary.presentation_of_run {op : Unary} {x z : Number} (h : (op.run x).result = .ok z) :
    z.presentation = if op = .reciprocal then Number.plain else x.presentation := by
  cases op with
  | reciprocal =>
    have divided : Arithmetic.div.run (Number.ofInt 1) x = .ok z := h
    exact Arithmetic.presentation_of_run divided
  | factorial => exact Number.presentation_of_derive (Number.eq_derive_of_factorial h)
  | negate => exact Number.presentation_of_derive ⟨_, (Except.ok.inj h).symm⟩
  | _ =>
    cases h
    rfl

theorem Implementation.presentation_of_run {i : Implementation} {x z : Number}
    (h : i.run x = .ok (.number z)) : z.presentation = x.presentation := by
  cases i with
  | named f =>
    simp only [run, bind_eq_ok_iff, pure_eq_ok, Except.ok.injEq, Value.number.injEq] at h
    obtain ⟨y, applied, rfl⟩ := h
    exact Number.presentation_of_derive (Number.eq_derive_of_applyNamed applied)
  | approximately =>
    cases h
    rfl
  | base => simp [run, bind_eq_ok_iff] at h

namespace Builtin

theorem presentation_of_meaning? {mode : Mode} {name : String} {b : Builtin} {x : Number}
    (h : find? mode name = some b) (number : b.meaning? = some (.number x)) :
    x.presentation = Number.plain := by
  cases b with
  | value v =>
    cases number
    have listed := Bindings.mem_of_find? h
    have only : x = .i := by
      cases mode with
      | standard =>
        have entry : name = "i" ∧ x = .i := by
          simpa [table, constants, functions, function, approximations, styles, bases] using listed
        exact entry.2
      | compatibility => simp [table, function, approximations] at listed
    rw [only]
    rfl
  | constant digits =>
    simp only [meaning?, Option.map_eq_some_iff, Value.number.injEq] at number
    obtain ⟨q, -, rfl⟩ := number
    rfl

end Builtin

theorem Environment.presentation_of_meaning? {env : Environment} {name : String} {x : Number}
    (h : env.meaning? name = some (.number x)) : x.presentation = env.presentation name := by
  unfold meaning? at h
  unfold presentation
  cases found : Builtin.find? env.mode name with
  | some b =>
    rw [found] at h
    rw [if_pos (Builtin.mem_names_of_find? found), Builtin.presentation_of_meaning? found h]
  | none =>
    rw [found] at h
    rw [if_neg (Builtin.find?_eq_none_iff.1 found), show env.scope.get? name = _ from h]

namespace Tree
open Evaluation

variable {env : Environment}

theorem presentation_of_result (marks : env.registry.MarksApproximate) {t : Tree} {x : Number}
    (h : (t.evaluate env).result = .ok (.number x)) : x.presentation = t.presentation env := by
  -- by induction over the tree: each node hands on what its operand on the spine has
  induction t generalizing x with
  | literal t =>
    obtain ⟨q, -, value⟩ := result_literal_eq_ok_iff.1 h
    cases value
    rfl
  | identifier n =>
    rw [result_identifier, Environment.result_resolve_eq_ok_iff marks] at h
    exact Environment.presentation_of_meaning? h
  | unary op t ih =>
    obtain ⟨y, z, operand, run, value⟩ := result_unary_eq_ok_iff.1 h
    cases value
    rw [Unary.presentation_of_run run, ih operand]
    cases op <;> rfl
  | binary op l r ihl ihr =>
    cases op with
    | arithmetic op =>
      obtain ⟨y, z, w, left, -, run, value⟩ := result_arithmetic_eq_ok_iff.1 h
      cases value
      rw [Arithmetic.presentation_of_run run, ihl left, presentation]
    | juxtaposition form =>
      obtain ⟨v, w, left, right, applied⟩ := result_juxtaposition_eq_ok_iff.1 h
      rw [presentation, left]
      obtain ⟨-, y, z, rfl, rfl, value⟩ | ⟨-, name, d, y, rfl, -, rfl, run⟩ :=
        Juxtaposition.result_eq_ok_iff.1 applied
      · cases value
        exact (Number.presentation_of_derive ⟨_, rfl⟩).trans (ihl left)
      · rw [Implementation.presentation_of_run run]
        exact ihr right
    | conversion =>
      obtain ⟨target, y, right, -, left, value⟩ := result_conversion_eq_ok_iff.1 h
      cases value
      rw [presentation, right, Value.presentation_present, ihl left]

theorem presentation_of_numbers {op : Binary} {l r : Tree} {x left right : Number}
    (h : ((binary op l r).evaluate env).result = .ok (.number x))
    (hl : (l.evaluate env).result = .ok (.number left))
    (hr : (r.evaluate env).result = .ok (.number right)) :
    x.presentation = left.presentation := by
  cases op with
  | arithmetic op =>
    obtain ⟨y, z, w, hy, -, run, value⟩ := result_arithmetic_eq_ok_iff.1 h
    cases value
    rw [hl] at hy
    cases hy
    exact Arithmetic.presentation_of_run run
  | juxtaposition form =>
    obtain ⟨v, w, hv, -, applied⟩ := result_juxtaposition_eq_ok_iff.1 h
    rw [hl] at hv
    cases hv
    obtain ⟨-, y, z, number, -, value⟩ | ⟨-, name, d, y, function, -⟩ :=
      Juxtaposition.result_eq_ok_iff.1 applied
    · cases number
      cases value
      exact Number.presentation_of_derive ⟨_, rfl⟩
    · cases function
  | conversion =>
    obtain ⟨target, y, ht, -, hy, value⟩ := result_conversion_eq_ok_iff.1 h
    rw [hr] at ht
    rw [hl] at hy
    cases ht
    cases hy
    cases value
    rfl

/-- The style and the base of every number that a run answers are those at the end of the left
spine, with what the conversions on the way replaced. The number on the right of another number
has none of its presentation in the result. -/
theorem run_presentation_eq_spine (mode : Mode) (scope : Scope) (fires : Nat → Bool) (t : Tree)
    (x : Number) :
    let env : Environment := ⟨mode, .builtin, scope⟩
    ((t.evaluate env).computation.run fires).1 = some (.ok (.number x)) →
      (x.style, x.base) = t.presentation env ∧
      ∀ (op : Binary) (l r : Tree) (left right : Number), t = binary op l r →
        (l.evaluate env).result = .ok (.number left) →
        (r.evaluate env).result = .ok (.number right) →
        (x.style, x.base) = (left.style, left.base) := by
  intro env ran
  have value := ((run_eq_some_iff fires _ _).1 ran).1.symm
  refine ⟨presentation_of_result Registry.builtin_marksApproximate value, ?_⟩
  rintro op l r left right rfl hl hr
  exact presentation_of_numbers value hl hr

theorem run_presentation_eq_spine_dp_plus_hex :
    let three := (Number.ofInt 3).withBase .binary
    let env : Environment := ⟨.standard, .builtin, ⟨[⟨[("x", .number three)]⟩]⟩⟩
    let l := binary .conversion (identifier "x") (identifier "dp")
    let r := binary .conversion (literal "5") (identifier "hex")
    let left := three.withStyle (.digits 10)
    let right := (Number.ofInt 5).withBase .hexadecimal
    let x := ((Number.ofInt 8).withBase .binary).withStyle (.digits 10)
    let t := binary (.arithmetic .add) l r
    ((t.evaluate env).computation.run (Polling.after 8)).1 = some (.ok (.number x)) ∧
    (l.evaluate env).result = .ok (.number left) ∧ (r.evaluate env).result = .ok (.number right) ∧
    (x.style, x.base) = t.presentation env ∧ (x.style, x.base) = (left.style, left.base) := by
  intro three env l r left right x t
  have ran : ((t.evaluate env).computation.run (Polling.after 8)).1 = some (.ok (.number x)) := by
    decide +kernel
  have hl : (l.evaluate env).result = .ok (.number left) := by decide +kernel
  have hr : (r.evaluate env).result = .ok (.number right) := by decide +kernel
  obtain ⟨spine, sides⟩ := run_presentation_eq_spine .standard env.scope (Polling.after 8) t x ran
  exact ⟨ran, hl, hr, spine, sides _ l r left right rfl hl hr⟩

end Tree
end Calculator
