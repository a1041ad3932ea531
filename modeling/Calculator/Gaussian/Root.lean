import Calculator.Gaussian

/-! Exact roots. A root is answered only when it lies in the same set of numbers again:
`Root.nat? k n` finds the integer whose `k`-th power is `n`, `Root.rat? k q` the rational,
`Root.square? z` the principal square root inside the Gaussian rationals. -/

namespace Calculator.Root

/-- Newton's iteration for the floor of the `k`-th root, from an estimate that is not too
small. It stops at the first step that does not go down. -/
def descend (k n estimate : Nat) : Nat :=
  let next := ((k - 1) * estimate + n / Nat.pow estimate (k - 1)) / k
  if next < estimate then descend k n next else estimate
  termination_by estimate

def floor (k n : Nat) : Nat :=
  if n ≤ 1 then n
  else if k ≤ 1 then n
  else if n.log2 < k then 1
  else if k = 2 then n.sqrt
  else descend k n (Nat.pow 2 (n.log2 / k + 1))

def nat? (k n : Nat) : Option Nat :=
  let r := floor k n
  if n ≤ 1 then some n
  else if n.log2 < k then none
  else if Nat.pow r k = n then some r else none

def rat? (k : Nat) (q : Rat) : Option Rat :=
  if q.num < 0 then none
  else match nat? k q.num.natAbs, nat? k q.den with
    | some a, some b => some (mkRat a b)
    | _, _ => none

/-- The principal square root of a Gaussian rational, when it is one: a nonnegative real
part, and a nonnegative imaginary part if the real part is zero. -/
def square? (z : Gaussian) : Option Gaussian :=
  match rat? 2 z.normSq with
  | none => none
  | some modulus =>
    match rat? 2 ((modulus + z.re) / 2), rat? 2 ((modulus - z.re) / 2) with
    | some a, some b => some ⟨a, if z.im < 0 then -b else b⟩
    | _, _ => none

/-- The principal cube root of a number on the second or third diagonal, `s (-2 ± 2i)` with
`s` a cube: the angle of the root is then `± π / 4`. -/
def diagonalCube? (z : Gaussian) : Option Gaussian :=
  if z.re < 0 ∧ (z.im = z.re ∨ z.im = -z.re) then
    (rat? 3 (-z.re / 2)).map fun c => ⟨c, if z.im < 0 then -c else c⟩
  else none

def negativeFourth? (z : Gaussian) : Option Gaussian :=
  if z.re < 0 ∧ z.im = 0 then (square? z).bind square? else none

/-- The principal `k`-th root of a number off the positive real axis, where it is known to
be a Gaussian rational. -/
def principal? (k : Nat) (z : Gaussian) : Option Gaussian :=
  match k with
  | 2 => square? z
  | 3 => diagonalCube? z
  | 4 => negativeFourth? z
  | _ => none

end Calculator.Root
