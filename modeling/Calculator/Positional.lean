/-! Positional numerals. `digits b n` lists the digits of `n` in base `b`, most significant
first and at least one; `text` writes them with the ten digits and the small letters. -/

namespace Calculator.Positional

def digitsOnto (b n : Nat) (after : List Nat) : List Nat :=
  if 2 ≤ b ∧ b ≤ n then digitsOnto b (n / b) (n % b :: after) else n :: after
  termination_by n
  decreasing_by exact Nat.div_lt_self (by omega) (by omega)

def digits (b n : Nat) : List Nat := digitsOnto b n []

def value (b : Nat) (ds : List Nat) : Nat := ds.foldl (fun n d => b * n + d) 0

def digitChar (d : Nat) : Char :=
  if d < 10 then Char.ofNat ('0'.toNat + d) else Char.ofNat ('a'.toNat + (d - 10))

def chars (b n : Nat) : List Char := (digits b n).map digitChar

def text (b n : Nat) : String := String.ofList (chars b n)

def decimal (n : Int) : String :=
  if n < 0 then "-" ++ text 10 n.natAbs else text 10 n.natAbs

/-- The greatest `e` with `b ^ e ≤ n`, and `n / b ^ e`, by repeated squaring of the base. -/
def leading (b n : Nat) : Nat × Nat :=
  if 2 ≤ b ∧ b ≤ n then
    let (e, m) := leading (b * b) n
    if b ≤ m then (2 * e + 1, m / b) else (2 * e, m)
  else (0, n)
  termination_by n + 1 - b
  decreasing_by
    rename_i h
    have : 2 * b ≤ b * b := Nat.mul_le_mul_right b h.1
    omega

/-- The greatest `e` with `b ^ e ≤ n / d`, for positive `n` and `d`. -/
def exponent (b n d : Nat) : Int :=
  if d ≤ n then (leading b (n / d)).1
  else -(((leading b ((d + n - 1) / n - 1)).1 : Int) + 1)

def shifted (b n d : Nat) (k : Int) : Nat × Nat :=
  if 0 ≤ k then (n * Nat.pow b k.toNat, d) else (n, d * Nat.pow b (-k).toNat)

/-- The integer nearest to `n / d`; a half goes to the even neighbour. -/
def nearestEven (n d : Nat) : Nat :=
  let q := n / d
  let r := n % d
  if d < 2 * r ∨ (d = 2 * r ∧ q % 2 = 1) then q + 1 else q

/-- The integer nearest to `n / d`; a half goes up. -/
def nearestUp (n d : Nat) : Nat :=
  let q := n / d
  if d ≤ 2 * (n % d) then q + 1 else q

structure Scaled where
  coefficient : Nat
  exponent : Int
  deriving DecidableEq

/-- The nearest number with `k` digits in base `b`, under a rule for halves. It may come
out as `b ^ k` times a power, which is the next longer numeral's least number. -/
def round (nearest : Nat → Nat → Nat) (b k n d : Nat) : Scaled :=
  let e := exponent b n d
  let (n', d') := shifted b n d (k - 1 - e)
  ⟨nearest n' d', e - (k - 1)⟩

def Scaled.fraction (b : Nat) (x : Scaled) : Nat × Nat := shifted b x.coefficient 1 x.exponent

/-- A decimal coefficient without trailing zeros. Zero keeps its exponent. -/
def strip (coefficient : Nat) (exponent : Int) : Scaled :=
  if coefficient ≠ 0 ∧ coefficient % 10 = 0 then strip (coefficient / 10) (exponent + 1)
  else ⟨coefficient, exponent⟩
  termination_by coefficient
  decreasing_by omega

def zeros (n : Nat) : List Char := List.replicate n '0'

end Calculator.Positional
