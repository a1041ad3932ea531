import Calculator.Proofs.Tree
import Mathlib.Logic.Relation

/-! Operations on numbers and the mark of approximation. The mark of a result is determined: it is
there if an operand that counts has it, if the operation is to put it there, or if the value
is not exact. Hence a mark is carried along every sequence of operations, and a number without
it was computed from numbers without it. -/

namespace Calculator

theorem Arithmetic.eq_derive_of_run {op : Arithmetic} {x y z : Number} (h : op.run x y = .ok z) :
    ∃ v, z = x.derive y.approx v := by
  cases op with
  | div =>
    simp only [run, Number.div] at h
    split at h <;> cases h
    exact ⟨_, rfl⟩
  | pow =>
    simp only [run, Number.pow, Number.powIn] at h
    split at h
    · cases h
    · split at h <;> cases h
      exact ⟨_, rfl⟩
  | _ =>
    cases h
    exact ⟨_, rfl⟩

namespace Number

theorem eq_derive_of_factorial {x z : Number} (h : x.factorial.result = .ok z) :
    ∃ v, z = x.derive false v := by
  rw [result_factorial, bind_eq_ok_iff] at h
  obtain ⟨n, -, h⟩ := h
  cases h
  exact ⟨_, rfl⟩

theorem eq_derive_of_applyNamed {x z : Number} {f : NamedFunction} (h : x.applyNamed f = .ok z) :
    ∃ v, z = x.derive false v := by
  rw [applyNamed, applyNamedIn, bind_eq_ok_iff] at h
  obtain ⟨argument, -, h⟩ := h
  split at h
  · cases h
    exact ⟨_, rfl⟩
  · cases h

theorem eq_derive_of_applyFunction {x z : Number} {name : String}
    (h : x.applyFunction name = .ok z) : ∃ v, z = x.derive false v := by
  rw [applyFunction, applyFunctionIn] at h
  split at h
  · exact eq_derive_of_applyNamed h
  · cases h

theorem approx_of_kept {x z : Number} (value : z.value = x.value) (mark : z.approx = x.approx) :
    z.approx = (x.approx || !z.value.isExact) := by
  rw [value, mark]
  cases unmarked : x.approx with
  | false => rw [x.exact_of_not_approx unmarked]; rfl
  | true => rfl

theorem approx_of_derive {x z : Number} {other : Bool} (h : ∃ v, z = x.derive other v) :
    z.approx = (x.approx || other || !z.value.isExact) := by
  obtain ⟨v, rfl⟩ := h
  rfl

end Number

/-- An operation that makes a number, with the numbers that it is applied to. -/
inductive Operation
  | literal (text : String)
  | int (n : Int)
  | i
  | negate (x : Number)
  | arithmetic (op : Arithmetic) (x y : Number)
  | factorial (x : Number)
  | function (name : String) (x : Number)
  | approximately (x : Number)
  | convert (x target : Number)
  | restyle (s : Style) (x : Number)
  | rebase (radix : Int) (x : Number)

namespace Operation
open Evaluation

def evaluate : Operation → Evaluation Number
  | literal text => answer (Number.ofLiteral text)
  | int n => return Number.ofInt n
  | i => return Number.i
  | negate x => return x.negate
  | arithmetic op x y => Number.polled fun _ => op.run x y
  | factorial x => x.factorial
  | function name x => answer (x.applyFunction name)
  | approximately x => return x.approximately
  | convert x _ => Number.polled fun _ => .ok x
  | restyle s x => return x.withStyle s
  | rebase radix x => answer ((Radix.ofInt radix).map x.withBase)

def arguments : Operation → List Number
  | literal _ => []
  | int _ => []
  | i => []
  | negate x => [x]
  | arithmetic _ x y => [x, y]
  | factorial x => [x]
  | function _ x => [x]
  | approximately x => [x]
  | convert x target => [x, target]
  | restyle _ x => [x]
  | rebase _ x => [x]

/-- The arguments that the result is computed from. A conversion only looks at its target. -/
def operands : Operation → List Number
  | convert x _ => [x]
  | o => o.arguments

def marks : Operation → Bool
  | approximately _ => true
  | _ => false

theorem approx_of_result {o : Operation} {z : Number} (h : o.evaluate.result = .ok z) :
    z.approx = (o.marks || o.operands.any Number.approx || !z.value.isExact) := by
  cases o with
  | literal text =>
    simp only [evaluate, result_answer, Number.ofLiteral] at h
    split at h <;> cases h
    rfl
  | int n =>
    cases h
    rfl
  | i =>
    cases h
    rfl
  | negate x =>
    have derived := Number.approx_of_derive ⟨_, (Except.ok.inj h).symm⟩
    simpa [operands, arguments, marks] using derived
  | arithmetic op x y =>
    have run : op.run x y = .ok z := h
    have derived := Number.approx_of_derive (Arithmetic.eq_derive_of_run run)
    simpa [operands, arguments, marks, Bool.or_assoc] using derived
  | factorial x =>
    have derived := Number.approx_of_derive (Number.eq_derive_of_factorial h)
    simpa [operands, arguments, marks] using derived
  | function name x =>
    have derived := Number.approx_of_derive (Number.eq_derive_of_applyFunction h)
    simpa [operands, arguments, marks] using derived
  | approximately x =>
    cases h
    rfl
  | convert x target =>
    have same : x = z := Except.ok.inj h
    have kept := Number.approx_of_kept (congrArg Number.value same.symm)
      (congrArg Number.approx same.symm)
    simpa [operands, arguments, marks] using kept
  | restyle s x =>
    have styled : x.withStyle s = z := Except.ok.inj h
    have kept : z.approx = (x.approx || !z.value.isExact) := by
      rw [← styled]
      exact Number.approx_of_kept rfl rfl
    simpa [operands, arguments, marks] using kept
  | rebase radix x =>
    simp only [evaluate, result_answer] at h
    cases base : Radix.ofInt radix with
    | error f => simp [base, Except.map] at h
    | ok b =>
      simp only [base, Except.map, Except.ok.injEq] at h
      have kept : z.approx = (x.approx || !z.value.isExact) := by
        rw [← h]
        exact Number.approx_of_kept rfl rfl
      simpa [operands, arguments, marks] using kept

/-- An operation makes `z` of `y`, and of a second number if it takes two. -/
def Feeds (y z : Number) : Prop := ∃ o : Operation, o.evaluate.result = .ok z ∧ y ∈ o.operands

theorem approx_of_feeds {y z : Number} (h : Feeds y z) (marked : y.approx = true) :
    z.approx = true := by
  obtain ⟨o, made, listed⟩ := h
  have any : o.operands.any Number.approx = true := List.any_eq_true.2 ⟨y, listed, marked⟩
  rw [approx_of_result made, any, Bool.or_true, Bool.true_or]

theorem approx_of_reflTransGen {y z : Number} (h : Relation.ReflTransGen Feeds y z)
    (marked : y.approx = true) : z.approx = true := by
  induction h with
  | refl => exact marked
  | tail _ last ih => exact approx_of_feeds last ih

/-- Operations one after the other, each with the number that it makes under an interrupt of its
own. Arguments are numbers that were made before. -/
inductive Calculation : List (Operation × Number) → Prop
  | empty : Calculation []
  | next {made : List (Operation × Number)} {o : Operation} {x : Number} {fires : Nat → Bool} :
    Calculation made → (∀ y ∈ o.arguments, ∃ p, (p, y) ∈ made) →
      (o.evaluate.computation.run fires).1 = some (.ok x) → Calculation (made ++ [(o, x)])

/-- `y` is an operand of an operation of the calculation that makes `z`. -/
def Enters (made : List (Operation × Number)) (y z : Number) : Prop :=
  ∃ o, (o, z) ∈ made ∧ y ∈ o.operands

theorem Calculation.result_of_mem {made : List (Operation × Number)} (h : Calculation made)
    {o : Operation} {x : Number} (listed : (o, x) ∈ made) : o.evaluate.result = .ok x := by
  induction h with
  | empty => cases listed
  | next _ _ ran ih =>
    rcases List.mem_append.1 listed with before | last
    · exact ih before
    · cases List.mem_singleton.1 last
      exact ((run_eq_some_iff _ _ _).1 ran).1.symm

theorem Calculation.feeds_of_enters {made : List (Operation × Number)} (h : Calculation made)
    {y z : Number} (enters : Enters made y z) : Feeds y z := by
  obtain ⟨o, listed, operand⟩ := enters
  exact ⟨o, h.result_of_mem listed, operand⟩

end Operation
end Calculator
