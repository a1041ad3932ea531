import Calculator.Positional
import Mathlib.Algebra.Order.Group.Nat
import Mathlib.Tactic.Ring

/-! Positional numerals denote what they are written for. `value b` takes the digits of a number
in base `b` back to the number, and `digitOf` takes the characters of a numeral back to its
digits, so that a numeral is known by its base and its characters. -/

namespace Calculator.Positional

theorem value_digitsOnto (b n : Nat) (after : List Nat) :
    value b (digitsOnto b n after) = after.foldl (fun m d => b * m + d) n := by
  -- the loop invariant: the digits put in front of `after` denote `n`
  induction n, after using digitsOnto.induct b with
  | case1 n after large ih =>
    rw [digitsOnto, if_pos large, ih, List.foldl_cons, Nat.div_add_mod]
  | case2 n after small =>
    rw [digitsOnto, if_neg small, value, List.foldl_cons, Nat.mul_zero, Nat.zero_add]

@[simp] theorem value_digits (b n : Nat) : value b (digits b n) = n := value_digitsOnto b n []

theorem lt_of_mem_digits {b n d : Nat} (base : 2 ≤ b) (listed : d ∈ digits b n) : d < b := by
  have onto (n : Nat) (after : List Nat) (below : ∀ e ∈ after, e < b) :
      ∀ e ∈ digitsOnto b n after, e < b := by
    induction n, after using digitsOnto.induct b with
    | case1 n after large ih =>
      rw [digitsOnto, if_pos large]
      refine ih fun e he => ?_
      rcases List.mem_cons.1 he with rfl | he
      · exact Nat.mod_lt n (by omega)
      · exact below e he
    | case2 n after small =>
      rw [digitsOnto, if_neg small]
      intro e he
      rcases List.mem_cons.1 he with rfl | he
      · omega
      · exact below e he
  exact onto n [] nofun d listed

theorem digits_ne_nil (b n : Nat) : digits b n ≠ [] := by
  have onto (n : Nat) (after : List Nat) : digitsOnto b n after ≠ [] := by
    induction n, after using digitsOnto.induct b with
    | case1 n after large ih => rwa [digitsOnto, if_pos large]
    | case2 n after small =>
      rw [digitsOnto, if_neg small]
      exact List.cons_ne_nil n after
  exact onto n []

/-- No zero stands in front of another digit. -/
def Unpadded (ds : List Nat) : Prop := ds.head? = some 0 → ds = [0]

theorem unpadded_digits (b n : Nat) : Unpadded (digits b n) := by
  have onto (n : Nat) (after : List Nat) (zero : (digitsOnto b n after).head? = some 0) :
      n = 0 := by
    induction n, after using digitsOnto.induct b with
    | case1 n after large ih =>
      rw [digitsOnto, if_pos large] at zero
      have quotient : 0 < n / b := Nat.div_pos large.2 (by omega)
      have none := ih zero
      omega
    | case2 n after small =>
      rw [digitsOnto, if_neg small, List.head?_cons] at zero
      exact Option.some.inj zero
  intro zero
  have none := onto n [] zero
  rw [none, digits, digitsOnto, if_neg (by omega)]

theorem foldl_eq_add (b n : Nat) (ds : List Nat) :
    ds.foldl (fun m d => b * m + d) n = n * b ^ ds.length + value b ds := by
  induction ds generalizing n with
  | nil => simp [value]
  | cons d ds ih =>
    have tail : value b (d :: ds) = (b * 0 + d) * b ^ ds.length + value b ds := ih (b * 0 + d)
    rw [List.foldl_cons, ih, tail, List.length_cons]
    ring

theorem value_append (b : Nat) (xs ys : List Nat) :
    value b (xs ++ ys) = value b xs * b ^ ys.length + value b ys := by
  calc value b (xs ++ ys) = ys.foldl (fun m d => b * m + d) (value b xs) := List.foldl_append
    _ = value b xs * b ^ ys.length + value b ys := foldl_eq_add b (value b xs) ys

theorem value_replicate_zero (b k : Nat) (ds : List Nat) :
    value b (List.replicate k 0 ++ ds) = value b ds := by
  induction k with
  | zero => rfl
  | succ k ih =>
    rw [List.replicate_succ, List.cons_append, ← ih, value, List.foldl_cons, Nat.mul_zero]
    rfl

def digitOf (c : Char) : Nat :=
  if c.isDigit then c.toNat - '0'.toNat else c.toNat - 'a'.toNat + 10

theorem digitOf_digitChar {d : Nat} (small : d < 36) : digitOf (digitChar d) = d := by
  have all : ∀ d < 36, digitOf (digitChar d) = d := by decide
  exact all d small

theorem map_digitOf {ds : List Nat} (small : ∀ d ∈ ds, d < 36) :
    (ds.map digitChar).map digitOf = ds := by
  rw [List.map_map]
  calc ds.map (digitOf ∘ digitChar) = ds.map id :=
        List.map_congr_left fun d hd => digitOf_digitChar (small d hd)
    _ = ds := List.map_id ds

theorem isDigit_digitChar {d : Nat} (small : d < 10) : (digitChar d).isDigit = true := by
  have all : ∀ d < 10, (digitChar d).isDigit = true := by decide
  exact all d small

theorem notMem_of_digits {c : Char} (apart : c.isDigit = false) {ds : List Nat}
    (small : ∀ d ∈ ds, d < 10) : c ∉ ds.map digitChar := by
  intro listed
  obtain ⟨d, member, rfl⟩ := List.mem_map.1 listed
  rw [isDigit_digitChar (small d member)] at apart
  cases apart

end Calculator.Positional
