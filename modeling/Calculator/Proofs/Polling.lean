import Calculator.Polling
import Mathlib.Data.Nat.Find

/-! Laws of cancellable computations. A computation has a result and a number of polls, both
counted where nothing is cancelled, and a run under an interrupt is determined by the two:
it goes through if the interrupt stays silent at every poll, and else breaks off at the
first poll at which it fires. -/

namespace Calculator.Polling

variable {α β : Type}

theorem lawfulMonad : LawfulMonad Polling := by
  refine LawfulMonad.mk' Polling (fun c => ?_) (fun _ _ => rfl) fun c f g => ?_
  · change c.bind (fun a => .done a) = c
    induction c with
    | done a => rfl
    | poll notice next ih => simp only [bind, ih]
  · change (c.bind f).bind g = c.bind fun a => (f a).bind g
    induction c with
    | done a => rfl
    | poll notice next ih => simp only [bind, ih]

@[simp] theorem result_pure (a : α) : (pure a : Polling α).result = a := rfl
@[simp] theorem polls_pure (a : α) : (pure a : Polling α).polls = 0 := rfl

@[simp] theorem result_bind (c : Polling α) (f : α → Polling β) :
    (c >>= f).result = (f c.result).result := by
  change (c.bind f).result = _
  induction c with
  | done a => rfl
  | poll notice next ih => exact ih ()

@[simp] theorem polls_bind (c : Polling α) (f : α → Polling β) :
    (c >>= f).polls = c.polls + (f c.result).polls := by
  change (c.bind f).polls = _
  induction c with
  | done a => simp [bind, polls, result]
  | poll notice next ih =>
    simp only [bind, polls, result, ih]
    omega

@[simp] theorem result_announce (name : String) (c : Polling α) :
    (c.announce name).result = c.result := by cases c <;> rfl

@[simp] theorem polls_announce (name : String) (c : Polling α) :
    (c.announce name).polls = c.polls := by cases c <;> rfl

theorem runFrom_announce (fires : Nat → Bool) (name : String) (c : Polling α) (n : Nat) :
    (c.announce name).runFrom fires n = c.runFrom fires n := by cases c <;> rfl

theorem runFrom_bind (fires : Nat → Bool) (c : Polling α) (f : α → Polling β) (n : Nat) :
    (c >>= f).runFrom fires n =
      match c.runFrom fires n with
      | (some a, m) => (f a).runFrom fires m
      | (none, m) => (none, m) := by
  change (c.bind f).runFrom fires n = _
  induction c generalizing n with
  | done a => rfl
  | poll notice next ih =>
    simp only [bind, runFrom]
    by_cases h : fires n
    · simp [h]
    · simp [h, ih]

theorem le_runFrom (fires : Nat → Bool) (c : Polling α) (n : Nat) : n ≤ (c.runFrom fires n).2 := by
  induction c generalizing n with
  | done a => exact le_rfl
  | poll notice next ih =>
    rw [runFrom]
    split
    · exact Nat.le_succ n
    · exact Nat.le_of_succ_le (ih () (n + 1))

theorem runFrom_of_silent (fires : Nat → Bool) (c : Polling α) (n : Nat)
    (silent : ∀ i < c.polls, fires (n + i) = false) :
    c.runFrom fires n = (some c.result, n + c.polls) := by
  induction c generalizing n with
  | done a => rfl
  | poll notice next ih =>
    have first : fires n = false := silent 0 (Nat.succ_pos _)
    have rest : ∀ i < (next ()).polls, fires (n + 1 + i) = false := by
      intro i hi
      have h := silent (i + 1) (Nat.succ_lt_succ hi)
      rwa [show n + 1 + i = n + (i + 1) by omega]
    simp only [runFrom, first, Bool.false_eq_true, if_false, ih () _ rest, result, polls]
    rw [Nat.add_right_comm, Nat.add_assoc]

theorem runFrom_of_fires (fires : Nat → Bool) (c : Polling α) (n i : Nat) (hi : i < c.polls)
    (silent : ∀ j < i, fires (n + j) = false) (fired : fires (n + i) = true) :
    c.runFrom fires n = (none, n + i + 1) := by
  induction c generalizing n i with
  | done a => simp [polls] at hi
  | poll notice next ih =>
    cases i with
    | zero => simp_all [runFrom]
    | succ i =>
      have first : fires n = false := silent 0 (Nat.succ_pos _)
      have here : i < (next ()).polls := Nat.lt_of_succ_lt_succ hi
      have before : ∀ j < i, fires (n + 1 + j) = false := by
        intro j hj
        have h := silent (j + 1) (Nat.succ_lt_succ hj)
        rwa [show n + 1 + j = n + (j + 1) by omega]
      have fired' : fires (n + 1 + i) = true := by
        rwa [show n + 1 + i = n + (i + 1) by omega]
      simp only [runFrom, first, Bool.false_eq_true, if_false, ih () _ _ here before fired']
      rw [Nat.add_right_comm n 1 i, Nat.add_assoc n i 1]

theorem run_eq_some_iff (fires : Nat → Bool) (c : Polling α) (a : α) :
    (c.run fires).1 = some a ↔ a = c.result ∧ ∀ i < c.polls, fires i = false := by
  by_cases silent : ∀ i < c.polls, fires i = false
  · rw [run, runFrom_of_silent fires c 0 (by simpa using silent), Option.some.injEq]
    exact ⟨fun h => ⟨h.symm, silent⟩, fun h => h.1.symm⟩
  · have hit : ∃ i, i < c.polls ∧ fires i = true := by simpa using silent
    obtain ⟨hi, fired⟩ := Nat.find_spec hit
    have before : ∀ j < Nat.find hit, fires (0 + j) = false := by
      intro j hj
      have h := Nat.find_min hit hj
      simpa [show j < c.polls by omega] using h
    rw [run, runFrom_of_fires fires c 0 _ hi before (by simpa using fired)]
    simp [silent]

theorem run_after (c : Polling α) (k : Nat) :
    c.run (after k) = if c.polls ≤ k then (some c.result, c.polls) else (none, k + 1) := by
  by_cases h : c.polls ≤ k
  · rw [if_pos h, run, runFrom_of_silent]
    · simp
    · intro i hi
      simp only [after, decide_eq_false_iff_not]
      omega
  · rw [if_neg h, run, runFrom_of_fires (after k) c 0 k (by omega)]
    · simp
    · intro j hj
      simp only [after, decide_eq_false_iff_not]
      omega
    · simp [after]

theorem run_never (c : Polling α) : c.run never = (some c.result, c.polls) := by
  rw [run, runFrom_of_silent never c 0 (fun _ _ => rfl), Nat.zero_add]

end Calculator.Polling
