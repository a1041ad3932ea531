import Calculator.Closed.Monomial

/-! Arithmetic on closed forms. Two Gaussian rationals meet in exact arithmetic. Other products
are brought into one form and like terms of a sum collected, so that `√2 * √8` and
`(√8 + √2) / √2` are integers again. Whatever is not a multiple of a radical is settled. -/

namespace Calculator.Closed
open Monomial

/-- The sum of monomials, with vanishing parts removed. -/
def normal (ms : List Monomial) : Closed :=
  match total ms with
  | .exact z => .exact z
  | .surd c roots => .surd c roots
  | e => settle e

/-- `a ^ q` for a positive rational `a`: exact when numerator and denominator of `a` are
perfect powers for the denominator of `q`, a multiple of a radical otherwise. -/
def ratPower (a q : Rat) : Closed :=
  if a = 1 then one
  else if q.den = 1 then ofRat (a ^ q.num)
  else match Root.rat? q.den a with
    | some s => ofRat (s ^ q.num)
    | none =>
      let (c, roots) := Radical.collect (Radical.powers a q)
      .surd (.ofRat c) roots

def scale (c : Gaussian) (e : Closed) : Closed :=
  if c = .zero then zero
  else if c = .one then e
  else match e with
    | .exact z => .exact (c * z)
    | .surd d roots => .surd (c * d) roots
    | e => normal ((terms e).map (Monomial.scale c))

def negate (e : Closed) : Closed := scale (.ofInt (-1)) e

def sum (a b : Closed) : Closed :=
  match a, b with
  | .exact z, .exact w => .exact (z + w)
  | a, b =>
    if a = zero then b else if b = zero then a else normal (terms a ++ terms b)

def difference (a b : Closed) : Closed :=
  match a, b with
  | .exact z, .exact w => .exact (z - w)
  | a, b => sum a (negate b)

def isPositive (e : Closed) : Bool :=
  match e with
  | .exact z => z.im = 0 ∧ 0 < z.re
  | e => axis e = .real true

def isNegative (e : Closed) : Bool :=
  match e with
  | .exact z => z.im = 0 ∧ z.re < 0
  | e => axis e = .real false

def isReal (e : Closed) : Bool :=
  match e with
  | .exact z => z.isReal
  | e => match axis e with
    | .real _ => true
    | _ => false

/-- The exponential function at a number other than zero. At a multiple of a logarithm it is a
power. -/
def exponential (t : Closed) : Closed :=
  match ofClosed t with
  | ⟨c, [], [(.apply .ln x, q)]⟩ =>
    if c.im = 0 ∧ q = 1 then normal [ofPowers .one [] [(x, c.re)]] else settle (.apply .exp t)
  | _ => settle (.apply .exp t)

/-- The exponent that a power of the exponential function contributes to a product. -/
def exponent? : Closed × Rat → Option Closed
  | (.apply .exp t, q) => if q.den = 1 || isReal t then some (scale (.ofRat q) t) else none
  | _ => none

/-- Several exponentials in a product are one of the sum. -/
def joinExponentials (m : Monomial) : Monomial :=
  match m.factors.filterMap exponent? with
  | [] => m
  | t :: rest =>
    let others : Monomial := { m with factors := m.factors.filter fun f => (exponent? f).isNone }
    let t := rest.foldl sum t
    if t = zero then others else others.mul (ofClosed (exponential t))

def times (m n : Monomial) : Monomial := joinExponentials (m.mul n)

/-- Whether the imaginary unit occurs. Products and powers of sums are then multiplied out. -/
def hasUnit : Closed → Bool
  | .exact z => z.im ≠ 0
  | .surd c _ => c.im ≠ 0
  | .add a b => hasUnit a || hasUnit b
  | .mul a b => hasUnit a || hasUnit b
  | .div a b => hasUnit a || hasUnit b
  | .pow a b => hasUnit a || hasUnit b
  | .apply _ a => hasUnit a
  | .realPart a => hasUnit a
  | .imagPart _ => true

def product (a b : Closed) : Closed :=
  match a, b with
  | .exact z, .exact w => .exact (z * w)
  | .exact z, b => scale z b
  | a, .exact w => scale w a
  | a, b =>
    if hasUnit a || hasUnit b then normal ((terms a).flatMap fun m => (terms b).map (times m))
    else normal [times (ofClosed a) (ofClosed b)]

def quotient (a b : Closed) : Closed :=
  match a, b with
  | .exact z, .exact w => .exact (z / w)
  | a, .exact w => scale w.inv a
  | a, b =>
    let divisor := (ofClosed b).inv
    if hasUnit a || hasUnit b then normal ((terms a).map (times · divisor))
    else normal [times (ofClosed a) divisor]

/-- Rational powers of a number other than zero. Off the positive real axis the principal
value is taken. -/
def gaussianPower (z : Gaussian) (q : Rat) : Closed :=
  if q.den = 1 then .exact (z.zpow q.num)
  else if z.im = 0 ∧ 0 < z.re then ratPower z.re q
  else if z.im = 0 ∧ q.den = 2 then scale (Gaussian.i.zpow q.num) (ratPower (-z.re) q)
  else match Root.principal? q.den z with
    | some s => .exact (s.zpow q.num)
    | none =>
      if z.im = 0 then product (.pow (.ofInt (-1)) (ofRat q)) (ratPower (-z.re) q)
      else settle (.pow (.exact z) (ofRat q))

/-- Powers of a sum with natural exponents, multiplied out. -/
def expand (a : Closed) : Nat → Closed
  | 0 => one
  | n + 1 => product (expand a n) a

def Monomial.isPositive (m : Monomial) : Bool :=
  m.coefficient.im = 0 && 0 < m.coefficient.re && m.factors.all fun (e, _) => Closed.isPositive e

/-- Rational powers of a number that is not a Gaussian rational. -/
def rationalPower (a : Closed) (q : Rat) : Closed :=
  let m := ofClosed a
  if q.den = 1 ∧ 0 < q.num ∧ hasUnit a then expand a q.num.natAbs
  else if q.den = 1 then normal [joinExponentials (m.zpow q.num)]
  else if Monomial.isPositive m then normal [joinExponentials (m.rpow q)]
  else settle (.pow a (ofRat q))

/-- The exponent `t` with `a ^ b = exp t`, if `b` is a quotient by the logarithm of `a`. -/
def naturalExponent? (a b : Closed) : Option Closed :=
  let m := ofClosed b
  let divisor := (apply .ln a, (-1 : Rat))
  if divisor ∈ m.factors then some { m with factors := m.factors.erase divisor }.toClosed
  else match a with
    | .apply .exp t => if isReal t then some (product t b) else none
    | _ => none

/-- Powers. The empty product comes first, so `0 ^ 0` is one; zero has no power with an
exponent that is not a positive real. -/
def power? (a b : Closed) : Option Closed :=
  if b = zero then some one
  else if a = zero then
    (if isPositive b then some zero else none)
  else if a = one then some one
  else some <| match a, b with
    | .exact z, .exact w => if w.im = 0 then gaussianPower z w.re else settle (.pow a b)
    | a, .exact w => if w.im = 0 then rationalPower a w.re else settle (.pow a b)
    | a, b => ((naturalExponent? a b).map exponential).getD (settle (.pow a b))

end Calculator.Closed
