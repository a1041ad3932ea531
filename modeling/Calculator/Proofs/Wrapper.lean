import Calculator.Proofs.Success
import Calculator.Registry.Builtin

/-! Parentheses and unary plus. They want a number and hand it on, so a tree that has a value has
the same one without them, in every position: an operand, an argument, a source or a target of a
conversion, or the left side of a juxtaposition. Each of them costs the poll of its own node and
nothing else. A function or a style in parentheses has no value, so that what is left of such a
tree may well have one. -/

namespace Calculator

/-- Parentheses and the plus sign. -/
def Unary.isWrapper : Unary → Bool
  | parens => true
  | plus => true
  | _ => false

theorem Unary.yields_wrapper_iff {op : Unary} (wrapper : op.isWrapper = true) {x y : Number}
    {n : Nat} : (op.run x).Yields y n ↔ x = y ∧ 0 = n := by
  cases op with
  | parens => exact and_congr_left' (by simp [run])
  | plus => exact and_congr_left' (by simp [run])
  | _ => cases wrapper

namespace Tree
open Evaluation

/-- The tree with the operand of every wrapper in its place. -/
def unwrap : Tree → Tree
  | literal t => literal t
  | identifier n => identifier n
  | unary op t => if op.isWrapper then t.unwrap else unary op t.unwrap
  | binary op l r => binary op l.unwrap r.unwrap

def wrappers : Tree → Nat
  | literal _ => 0
  | identifier _ => 0
  | unary op t => t.wrappers + if op.isWrapper then 1 else 0
  | binary _ l r => l.wrappers + r.wrappers

@[simp] theorem wrappers_unwrap (t : Tree) : t.unwrap.wrappers = 0 := by
  induction t with
  | literal t => rfl
  | identifier n => rfl
  | unary op t ih =>
    rw [unwrap]
    split
    · exact ih
    · next kept => rw [wrappers, ih, if_neg kept]
  | binary op l r ihl ihr => rw [unwrap, wrappers, ihl, ihr]

variable {env : Environment}

theorem yields_unwrap {t : Tree} {v : Value} {n : Nat} (h : (t.evaluate env).Yields v n) :
    ∃ m, (t.unwrap.evaluate env).Yields v m ∧ n = m + t.wrappers := by
  -- by induction over the tree: what a node does with values is the same, and so are its polls
  induction t generalizing v n with
  | literal t => exact ⟨n, h, rfl⟩
  | identifier name => exact ⟨n, h, rfl⟩
  | unary op t ih =>
    obtain ⟨x, k, y, j, operand, run, rfl, rfl⟩ := yields_unary_iff.1 h
    obtain ⟨m, inner, rfl⟩ := ih operand
    rw [unwrap, wrappers]
    by_cases wrapper : op.isWrapper = true
    · obtain ⟨rfl, rfl⟩ := (Unary.yields_wrapper_iff wrapper).1 run
      rw [if_pos wrapper, if_pos wrapper]
      exact ⟨m, inner, rfl⟩
    · rw [if_neg wrapper, if_neg wrapper]
      exact ⟨m + j + 1, yields_unary_iff.2 ⟨x, m, y, j, inner, run, rfl, rfl⟩, by omega⟩
  | binary op l r ihl ihr =>
    cases op with
    | arithmetic op =>
      obtain ⟨x, j, y, k, z, left, right, run, rfl, rfl⟩ := yields_arithmetic_iff.1 h
      obtain ⟨j, left', rfl⟩ := ihl left
      obtain ⟨k, right', rfl⟩ := ihr right
      refine ⟨j + k + 2, yields_arithmetic_iff.2 ⟨x, j, y, k, z, left', right', run, rfl, rfl⟩, ?_⟩
      rw [wrappers]
      omega
    | juxtaposition form =>
      obtain ⟨x, j, y, k, i, left, right, applied, rfl⟩ := yields_juxtaposition_iff.1 h
      obtain ⟨j, left', rfl⟩ := ihl left
      obtain ⟨k, right', rfl⟩ := ihr right
      refine ⟨j + k + i + 1,
        yields_juxtaposition_iff.2 ⟨x, j, y, k, i, left', right', applied, rfl⟩, ?_⟩
      rw [wrappers]
      omega
    | conversion =>
      obtain ⟨target, k, x, j, right, proper, left, rfl, rfl⟩ := yields_conversion_iff.1 h
      obtain ⟨k, right', rfl⟩ := ihr right
      obtain ⟨j, left', rfl⟩ := ihl left
      refine ⟨_, yields_conversion_iff.2 ⟨target, k, x, j, right', proper, left', rfl, rfl⟩, ?_⟩
      rw [wrappers]
      omega

/-- A run that answers a value answers the same value on the tree without any parentheses and plus
signs, and makes one poll less for each of them. -/
theorem run_unwrap_eq_ok (env : Environment) (fires : Nat → Bool) (t : Tree) (v : Value) (n : Nat)
    (ran : (t.evaluate env).computation.run fires = (some (.ok v), n)) :
    t.unwrap.wrappers = 0 ∧ t.wrappers ≤ n ∧
      (t.unwrap.evaluate env).computation.run fires = (some (.ok v), n - t.wrappers) := by
  obtain ⟨yields, silent⟩ := run_eq_ok_iff.1 ran
  obtain ⟨m, unwrapped, rfl⟩ := yields_unwrap yields
  refine ⟨t.wrappers_unwrap, Nat.le_add_left _ _, ?_⟩
  rw [Nat.add_sub_cancel, run_eq_ok_iff]
  exact ⟨unwrapped, fun i hi => silent i (Nat.lt_add_right _ hi)⟩

/-- A product stays one when the parentheses on its left are gone, and a wrapped target is read
alike. -/
theorem run_unwrap_eq_ok_product :
    let env : Environment := ⟨.standard, .builtin, .empty⟩
    let left := unary .parens (unary .plus (literal "2"))
    let root := binary (.juxtaposition .call) (identifier "sqrt") (unary .parens (literal "9"))
    let t := binary .conversion (binary (.juxtaposition .implicit) left (unary .parens root))
      (unary .plus (literal "1"))
    let v := Value.number (.ofInt 6)
    (t.evaluate env).computation.run (Polling.after 14) = (some (.ok v), 14) ∧ t.wrappers = 5 ∧
    (t.unwrap.evaluate env).computation.run (Polling.after 14) = (some (.ok v), 9) := by
  intro env left root t v
  have ran : (t.evaluate env).computation.run (Polling.after 14) = (some (.ok v), 14) := by
    decide +kernel
  exact ⟨ran, rfl, (run_unwrap_eq_ok env _ t v 14 ran).2.2⟩

end Tree
end Calculator
