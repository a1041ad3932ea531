import Calculator.Closed.Enclosed

/-! Products in one form. A monomial is a Gaussian rational times a radical times powers of other
closed forms with rational exponents, no two of them of the same one. Sums are taken apart into
monomials, and those that differ in their coefficients only are collected. -/

namespace Calculator

structure Monomial where
  coefficient : Gaussian
  radical : Radical
  factors : List (Closed × Rat)

namespace Monomial

/-- The product by a power. Roots of positive rationals belong to the radical, and whole powers
of other Gaussian rationals to the coefficient. -/
def absorb (m : Monomial) (e : Closed) (q : Rat) : Monomial :=
  match e with
  | .exact z =>
    if z.im = 0 ∧ 0 < z.re then
      let (c, roots) := Radical.collect (Radical.merge m.radical (Radical.powers z.re q))
      { m with coefficient := .ofRat c * m.coefficient, radical := roots }
    else
      let m := { m with coefficient := z.zpow q.floor * m.coefficient }
      if q.den = 1 then m else { m with factors := m.factors ++ [(e, q - q.floor)] }
  | e => if q = 0 then m else { m with factors := m.factors ++ [(e, q)] }

def ofPowers (z : Gaussian) (roots : List (Nat × Rat)) (factors : List (Closed × Rat)) : Monomial :=
  let (c, roots) := Radical.collect roots
  factors.foldl (fun m (e, q) => m.absorb e q) ⟨.ofRat c * z, roots, []⟩

def insert (e : Closed) (q : Rat) : List (Closed × Rat) → List (Closed × Rat)
  | [] => [(e, q)]
  | (f, r) :: rest => if f = e then (f, r + q) :: rest else (f, r) :: insert e q rest

def mul (m n : Monomial) : Monomial :=
  ofPowers (m.coefficient * n.coefficient) (Radical.merge m.radical n.radical)
    (n.factors.foldl (fun fs (e, q) => insert e q fs) m.factors)

def zpow (m : Monomial) (n : Int) : Monomial :=
  ofPowers (m.coefficient.zpow n) (Radical.scale n m.radical)
    (m.factors.map fun (e, q) => (e, q * n))

def inv (m : Monomial) : Monomial := m.zpow (-1)

def rpow (m : Monomial) (q : Rat) : Monomial :=
  ofPowers .one (Radical.merge (Radical.powers m.coefficient.re q) (Radical.scale q m.radical))
    (m.factors.map fun (e, r) => (e, r * q))

/-- Products and quotients are taken apart, sums and applications are factors. -/
def ofClosed : Closed → Monomial
  | .exact z => ⟨z, [], []⟩
  | .surd c roots => ⟨c, roots, []⟩
  | .mul a b => (ofClosed a).mul (ofClosed b)
  | .div a b => (ofClosed a).mul (ofClosed b).inv
  | .pow a (.exact w) =>
    if w.im = 0 then ofPowers .one [] [(a, w.re)] else ⟨.one, [], [(.pow a (.exact w), 1)]⟩
  | e => ⟨.one, [], [(e, 1)]⟩

/-- One more factor behind a product, a divisor if its exponent is minus one. -/
def extend (product : Closed) : Closed × Rat → Closed
  | (e, q) =>
    if q = -1 then .div product e
    else
      let power := if q = 1 then e else .pow e (.ofRat q)
      if product = .one then power else .mul product power

def toClosed (m : Monomial) : Closed :=
  if m.coefficient = .zero then .zero
  else
    let start := if m.radical = [] then .exact m.coefficient else .surd m.coefficient m.radical
    m.factors.foldl extend start

def scale (c : Gaussian) (m : Monomial) : Monomial := { m with coefficient := c * m.coefficient }

def isLike (m n : Monomial) : Bool := m.radical = n.radical && m.factors.isPerm n.factors

def collect : List Monomial → List Monomial
  | [] => []
  | m :: rest =>
    let (like, others) := (collect rest).partition m.isLike
    let c := like.foldl (fun c n => c + n.coefficient) m.coefficient
    if c = .zero then others else { m with coefficient := c } :: others

def terms : Closed → List Monomial
  | .add a b => terms a ++ terms b
  | e => [ofClosed e]

def total (ms : List Monomial) : Closed :=
  match collect ms with
  | [] => .zero
  | m :: rest => rest.foldl (fun sum n => .add sum n.toClosed) m.toClosed

end Monomial
end Calculator
