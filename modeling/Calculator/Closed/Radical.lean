import Calculator.Gaussian.Root

/-! Roots of positive rationals. A radical is a product of powers of distinct integers whose
exponents lie between zero and one. Small prime factors are divided out of a number, and what is
left of it counts as one more factor, so that a number without large ones has its radicals in one
form. -/

namespace Calculator

def Closed.multiplicity (b n : Nat) : Nat :=
  if 2 ≤ b ∧ n ≠ 0 ∧ n % b = 0 then multiplicity b (n / b) + 1 else 0
  termination_by n
  decreasing_by exact Nat.div_lt_self (by omega) (by omega)

abbrev Radical := List (Nat × Rat)

namespace Radical

def trials : Nat := 32768

/-- A number without small divisors as a power with the largest exponent there is. -/
def asPower (n : Nat) : Nat × Nat :=
  let degrees := (List.range (n.log2 / 15 + 1)).reverse.filter (2 ≤ ·)
  (degrees.findSome? fun k => (Root.nat? k n).map fun r => (r, k)).getD (n, 1)

/-- The factors of `n` with their multiplicities, for an `n` without a divisor below `d`. -/
def factorsFrom : (fuel d n : Nat) → List (Nat × Nat)
  | 0, _, n => [asPower n]
  | fuel + 1, d, n =>
    if n < d * d then [(n, 1)]
    else
      let k := Closed.multiplicity d n
      if k = 0 then factorsFrom fuel (d + 1) n
      else (d, k) :: factorsFrom fuel (d + 1) (n / Nat.pow d k)

def factors (n : Nat) : List (Nat × Nat) := factorsFrom trials 2 n

/-- The power `a ^ q` by factors, in order. -/
def powers (a q : Rat) : List (Nat × Rat) :=
  let up := (factors a.num.natAbs).map fun (p, k) => (p, (k : Rat) * q)
  let down := (factors a.den).map fun (p, k) => (p, (k : Rat) * -q)
  (up ++ down).mergeSort fun x y => x.1 ≤ y.1

/-- Whole powers are taken out as a rational, and factors that are one dropped. -/
def collect : List (Nat × Rat) → Rat × Radical
  | [] => (1, [])
  | (p, e) :: rest =>
    let (c, roots) := collect rest
    let c := (p : Rat) ^ e.floor * c
    if p = 1 ∨ e.den = 1 then (c, roots) else (c, (p, e - e.floor) :: roots)

def merge : Radical → Radical → List (Nat × Rat)
  | [], s => s
  | r, [] => r
  | (p, e) :: r, (q, f) :: s =>
    if p < q then (p, e) :: merge r ((q, f) :: s)
    else if q < p then (q, f) :: merge ((p, e) :: r) s
    else (p, e + f) :: merge r s

def scale (k : Rat) (r : Radical) : List (Nat × Rat) := r.map fun (p, e) => (p, k * e)

end Radical
end Calculator
