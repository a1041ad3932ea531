import Calculator.Enclosure.Interval

/-! Power series with a tail bound, and the functions that come straight from one: `ln 2`,
`π`, the exponential, the logarithm, the arc tangent, sine and cosine. Arguments are first
brought near zero; there each further term is at most half the one before, so what is left
out of a sum is not larger than the last term added. -/

namespace Calculator.Enclosure.Interval

/-- `∑ weight k (uₖ)` where `uₖ₊₁ = next k uₖ`, up to the first term that is below `2 ^ -w` of
the sum. -/
def series (w : Nat) (next weight : Nat → Interval → Interval) :
    (fuel k : Nat) → (u sum : Interval) → Interval
  | 0, k, u, sum => add w sum (symmetric (weight k u))
  | fuel + 1, k, u, sum =>
    let term := weight k u
    let total := add w sum term
    if term.isWithin (total.top - w - 2) then add w total (symmetric term)
    else series w next weight fuel (k + 1) (next k u) total

/-- `∑ (sign t²)ᵏ t / (2k + 1)`: the arc tangent for the sign `-1`, its hyperbolic
counterpart for `1`. -/
def oddSeries (w : Nat) (alternating : Bool) (t : Interval) : Interval :=
  let s := square w t
  let s := if alternating then -s else s
  series w (fun _ u => mul w u s) (fun k u => divNat w u (2 * k + 1)) (w + 16) 0 t zero

/-- `oddSeries` at `1 / n`, where every term comes from the one before by a short division. -/
def oddSeriesAt (w : Nat) (alternating : Bool) (n : Nat) : Interval :=
  let next := fun u => divNat w u (n * n)
  series w (fun _ u => if alternating then -(next u) else next u)
    (fun k u => divNat w u (2 * k + 1)) (w + 16) 0 (divNat w one n) zero

def ln2 (w : Nat) : Interval := (oddSeriesAt w false 3).scale 1

def pi (w : Nat) : Interval :=
  sub w ((oddSeriesAt w true 5).scale 4) ((oddSeriesAt w true 239).scale 2)

def squareTimes (w : Nat) : Nat → Interval → Interval
  | 0, x => x
  | n + 1, x => squareTimes w n (square w x)

/-- Arguments above `2 ^ farthest` need too many bits of `ln 2` and `π`. -/
def farthest : Int := 20000

def expFar (p : Nat) (x : Binary) : Interval :=
  let k := div? (p + 24) (point x) (ln2 (p + 24))
  match k with
  | some k => ⟨⟨1, k.lo.toIntFloor⟩, ⟨1, k.hi.toIntFloor + 1⟩⟩
  | none => one

/-- `exp x = 2 ^ k * (exp (r / 2 ^ 8)) ^ (2 ^ 8)` with `r = x - k ln 2`. -/
def expPoint (p : Nat) (x : Binary) : Interval :=
  if x.isZero then one
  else if farthest < x.top then expFar p x
  else
    let w := p + 24 + x.top.toNat
    let (k, r) :=
      if x.top < 0 then (0, point x)
      else
        let l := ln2 w
        let k := (Binary.divFloor w x l.hi).toIntFloor
        (k, sub w (point x) (mul w l (ofInt k)))
    let r := r.scale (-8)
    let e := series w (fun k u => divNat w (mul w u r) (k + 1)) (fun _ u => u) (w + 16) 0 one zero
    (squareTimes w 8 e).scale k

def exp (p : Nat) (x : Interval) : Interval := increasing (expPoint p) x

/-- `ln x = k ln 2 + 2 artanh ((m - 1) / (m + 1))` with `x = m 2 ^ k` and `m` near one. -/
def lnPoint (p : Nat) (x : Binary) : Interval :=
  let w := p + 24
  let k := x.top
  let m := x.scale (-k)
  let (m, k) := if m.lt ⟨181, -8⟩ then (m.scale 1, k - 1) else (m, k)
  let t := divPositive w (point (Binary.addExact m (.ofInt (-1)))) (point (Binary.addExact m .one))
  let y := (oddSeries w false t).scale 1
  if k = 0 then y else add w y (mul w (ln2 w) (ofInt k))

def ln (p : Nat) (x : Interval) : Interval := increasing (lnPoint p) x

/-- `tan (a / 2)` from `tan a`. -/
def halveTangent (w : Nat) (t : Interval) : Interval :=
  divPositive w t (add w one (sqrt w (add w one (square w t))))

def atanUnit (w : Nat) (t : Interval) : Interval :=
  (oddSeries w true (halveTangent w (halveTangent w (halveTangent w t)))).scale 3

def atanPositive (p : Nat) (x : Binary) : Interval :=
  let w := p + 24
  if Binary.one.lt x then
    sub w (pi w).half (atanUnit w (divPositive w one (point x)))
  else atanUnit w (point x)

def atanPoint (p : Nat) (x : Binary) : Interval :=
  if x.isZero then zero
  else if x.isNegative then -(atanPositive p (-x))
  else atanPositive p x

def atan (p : Nat) (x : Interval) : Interval := increasing (atanPoint p) x

/-- `∑ sᵏ r / (2k + 1)!`: the sine of `r` for `s = -r²`, and the hyperbolic one for `s = r²`. -/
def sineSeries (w : Nat) (s r : Interval) : Interval :=
  series w (fun k u => divNat w (mul w u s) ((2 * k + 2) * (2 * k + 3))) (fun _ u => u)
    (w + 16) 0 r zero

def sinCosNear (w : Nat) (r : Interval) : Interval × Interval :=
  let s := -(square w r)
  (sineSeries w s r,
    series w (fun k u => divNat w (mul w u s) ((2 * k + 1) * (2 * k + 2))) (fun _ u => u)
      (w + 16) 0 one zero)

/-- Sine and cosine through `x = k π / 2 + r`, with `π` to as many bits as `x` needs. -/
def sinCosPoint (p : Nat) (x : Binary) : Interval × Interval :=
  if x.isZero then (zero, one)
  else if x.top < 0 then sinCosNear (p + 24) (point x)
  else
    let w := p + 24 + x.top.toNat
    let quarter := (pi w).half
    let k := (Binary.addFloor w (Binary.divFloor w x quarter.hi) ⟨1, -1⟩).toIntFloor
    let r := sub w (point x) (mul w quarter (ofInt k))
    let (s, c) := sinCosNear w r
    match (k % 4).toNat with
    | 0 => (s, c)
    | 1 => (c, -s)
    | 2 => (-s, -c)
    | _ => (-c, s)

/-- Neither function moves by more than its argument does. -/
def sinCos (p : Nat) (x : Interval) : Interval × Interval :=
  let (s, c) := sinCosPoint p x.lo
  if x.lo = x.hi then (clampUnit s, clampUnit c)
  else
    let spread := symmetric (sub p (point x.hi) (point x.lo))
    (clampUnit (add p s spread), clampUnit (add p c spread))

def sin (p : Nat) (x : Interval) : Interval := (sinCos p x).1
def cos (p : Nat) (x : Interval) : Interval := (sinCos p x).2

end Calculator.Enclosure.Interval
