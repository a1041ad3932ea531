import Calculator.Evaluation.Outcome
import Calculator.Proofs.ExactNumber
import Calculator.Proofs.Naming

/-! Exact evaluation is arithmetic on Gaussian rationals. For the trees that are built from
literals, `i` and the constants with the operations of arithmetic, a meaning in the complex
numbers and the conditions for it to exist are given by recursion on the tree, with no look at
how trees are evaluated. A tree that meets the conditions evaluates to its meaning, and any
other one fails as numbers do. -/

namespace Calculator.Tree

noncomputable def meaning : Tree → ℂ
  | literal t => ((Literal.value? t).getD 0 : ℚ)
  | identifier n =>
    if n = "i" then Complex.I
    else if n = "pi" then 3141592653589793238 / 1000000000000000000
    else if n = "e" then 2718281828459045235 / 1000000000000000000
    else 0
  | unary op t => op.meaning t.meaning
  | binary (.arithmetic op) l r => op.meaning l.meaning r.meaning
  | binary (.juxtaposition _) l r => l.meaning * r.meaning
  | binary .conversion l _ => l.meaning

/-- Every operation in the tree is defined at what its operands denote. Conversion targets
do not count. -/
def Regular : Tree → Prop
  | literal _ => True
  | identifier _ => True
  | unary op t => t.Regular ∧ op.Regular t.meaning
  | binary (.arithmetic op) l r =>
    l.Regular ∧ r.Regular ∧ op.Regular l.meaning r.meaning
  | binary (.juxtaposition _) l r => l.Regular ∧ r.Regular
  | binary .conversion l _ => l.Regular

/-- Whether `pi` or `e` occurs outside conversion targets. -/
def mentionsConstant : Tree → Bool
  | literal _ => false
  | identifier n => n = "pi" ∨ n = "e"
  | unary _ t => t.mentionsConstant
  | binary (.arithmetic _) l r => l.mentionsConstant || r.mentionsConstant
  | binary (.juxtaposition _) l r => l.mentionsConstant || r.mentionsConstant
  | binary .conversion l _ => l.mentionsConstant

/-- The trees of exact arithmetic: exponents denote integers if they denote anything, and
conversion targets are arbitrary trees with a value that is no function. -/
def Arithmetical (env : Environment) : Tree → Prop
  | literal t => ∃ q, Literal.value? t = some q
  | identifier n => n = "i" ∨ n = "pi" ∨ n = "e"
  | unary _ t => t.Arithmetical env
  | binary (.arithmetic op) l r => l.Arithmetical env ∧ r.Arithmetical env ∧
    (op = .pow → r.Regular → ∃ n : Int, r.meaning = n)
  | binary (.juxtaposition form) l r => l.Arithmetical env ∧ r.Arithmetical env ∧ form ≠ .call
  | binary .conversion l r => l.Arithmetical env ∧
    ∃ target, (r.evaluate env).result = .ok target ∧ target.kind ≠ .function

variable {env : Environment}

theorem answers_literal {t : String} {q : Rat} (h : Literal.value? t = some q) :
    Answers ((literal t).evaluate env).result True (literal t).meaning false := by
  rw [result_literal, Number.ofLiteral, meaning, h]
  exact Answers.of_value trivial ⟨.ofRat q, rfl, Gaussian.toComplex_ofRat q⟩ rfl

theorem answers_constant {name : String} {q : Rat} (marks : env.registry.MarksApproximate)
    (meant : env.meaning? name = some (.number (Number.ofRat q).approximately)) :
    Answers ((identifier name).evaluate env).result True q true := by
  rw [result_identifier, Environment.result_resolve marks, meant]
  exact Answers.of_value trivial ⟨.ofRat q, rfl, Gaussian.toComplex_ofRat q⟩ rfl

theorem answers_identifier {n : String} (standard : env.mode = .standard)
    (marks : env.registry.MarksApproximate) (known : n = "i" ∨ n = "pi" ∨ n = "e") :
    Answers ((identifier n).evaluate env).result True (identifier n).meaning
      (identifier n).mentionsConstant := by
  have table (n : String) (b : Builtin) (found : Builtin.find? .standard n = some b) :
      env.meaning? n = b.meaning? := by rw [Environment.meaning?, standard, found]
  rcases known with rfl | rfl | rfl
  · rw [result_identifier, Environment.result_resolve marks, table "i" (.value (.number .i)) rfl]
    exact Answers.of_value trivial ⟨.i, rfl, Gaussian.toComplex_i⟩ rfl
  · have meant := table "pi" (.constant "3.141592653589793238") rfl
    rw [Builtin.meaning?, Builtin.value?_pi] at meant
    have answered := answers_constant marks meant
    push_cast at answered
    exact answered
  · have meant := table "e" (.constant "2.718281828459045235") rfl
    rw [Builtin.meaning?, Builtin.value?_e] at meant
    have answered := answers_constant marks meant
    push_cast at answered
    exact answered

theorem answers_operand {t : Tree} {regular regular' : Prop} {z z' : ℂ} {marked marked' : Bool}
    {next : Number → Except Failure Value}
    (h : Answers (t.evaluate env).result regular z marked)
    (rest : ∀ x, regular → x.Denotes z → x.approx = marked →
      Answers (next x) regular' z' marked') :
    Answers (t.operand env >>= next) (regular ∧ regular') z' marked' := by
  rw [operand, bind_assoc]
  exact h.bind rest

theorem answers_product {form : Juxtaposition} {x y : Number} {z w : ℂ} (r : Registry)
    (may : form ≠ .call) (hx : x.Denotes z) (hy : y.Denotes w) :
    Answers ((Value.number x).apply r form.mayMultiply form.mustMultiply (.number y)).result
      True (z * w) (x.approx || y.approx) := by
  have answered : Answers (do return .number (← Arithmetic.mul.run x y)) True (z * w)
      (x.approx || y.approx) := Arithmetic.answers_run hx hy nofun
  rw [Juxtaposition.result_eq_ok_iff.2 (.inl ⟨may, x, y, rfl, rfl, rfl⟩)]
  exact answered

theorem answers_of_arithmetical (standard : env.mode = .standard)
    (marks : env.registry.MarksApproximate) (t : Tree) (h : t.Arithmetical env) :
    Answers (t.evaluate env).result t.Regular t.meaning t.mentionsConstant := by
  -- one step for each kind of node; the order in which operands are evaluated does not matter,
  -- since all failures are of the same kind
  induction t with
  | literal t =>
    obtain ⟨q, valid⟩ := h
    exact answers_literal valid
  | identifier n => exact answers_identifier standard marks h
  | unary op t ih =>
    rw [result_unary]
    exact answers_operand (ih h) fun x _ hx approx => approx ▸ Unary.answers_run hx
  | binary op l r ihl ihr =>
    cases op with
    | arithmetic op =>
      obtain ⟨left, right, integral⟩ := h
      rw [result_arithmetic]
      refine answers_operand (ihl left) fun x _ hx xapprox => ?_
      refine answers_operand (ihr right) fun y regular hy yapprox => ?_
      have answered := Arithmetic.answers_run hx hy fun pow => integral pow regular
      rwa [xapprox, yapprox] at answered
    | juxtaposition form =>
      obtain ⟨left, right, may⟩ := h
      have answered : Answers ((binary (.juxtaposition form) l r).evaluate env).result
          (l.Regular ∧ r.Regular ∧ True) (l.meaning * r.meaning)
          (l.mentionsConstant || r.mentionsConstant) := by
        rw [result_juxtaposition]
        refine (ihl left).bind fun x _ hx xapprox => ?_
        refine (ihr right).bind fun y _ hy yapprox => ?_
        rw [← xapprox, ← yapprox]
        exact answers_product env.registry may hx hy
      rwa [and_true] at answered
    | conversion =>
      obtain ⟨left, target, evaluated, converts⟩ := h
      have answered : Answers ((binary .conversion l r).evaluate env).result
          (l.Regular ∧ True) l.meaning l.mentionsConstant := by
        rw [result_conversion, evaluated, ok_bind, if_neg converts]
        refine (ihl left).bind fun x _ hx approx => ?_
        refine Answers.of_value trivial ?_ ((Value.present_approx x target).trans approx)
        rwa [Number.Denotes, Value.present_value]
      rwa [and_true] at answered

/-- Without an interrupt, a tree of exact arithmetic has its meaning for a value where it has
one, and fails as numbers do where it has none. Its value is approximate exactly if a constant
occurs in it. -/
theorem run_arithmetical (scope : Scope) (t : Tree)
    (h : t.Arithmetical ⟨.standard, .builtin, scope⟩) :
    (t.Regular → ∃ x g,
      t.run ⟨.standard, .builtin, scope⟩ Polling.never = .ok (.value (.number x)) ∧
      x.value = .exact g ∧ g.toComplex = t.meaning ∧ x.approx = t.mentionsConstant) ∧
    (¬ t.Regular → ∃ f,
      t.run ⟨.standard, .builtin, scope⟩ Polling.never = .ok (.failed f) ∧
      f.family = .number) := by
  have answered := answers_of_arithmetical rfl Registry.builtin_marksApproximate t h
  have ran : t.run ⟨.standard, .builtin, scope⟩ Polling.never =
      Outcome.ofRun (some (t.evaluate ⟨.standard, .builtin, scope⟩).result) := by
    rw [Tree.run, Polling.run_never]
    rfl
  constructor
  · intro regular
    obtain ⟨x, value, ⟨g, exact, meant⟩, approx⟩ := answered.value regular
    refine ⟨x, g, ?_, exact, meant, approx⟩
    rw [ran, value, Outcome.ofRun]
  · intro irregular
    obtain ⟨f, failed, family⟩ := answered.failure irregular
    refine ⟨f, ?_, family⟩
    rw [ran, failed, Outcome.ofRun, if_pos (Failure.isDomain_of_family (.inl family))]

theorem run_arithmetical_inverse_square : ∃ x g,
    (binary .conversion
      (binary (.juxtaposition .multiply) (identifier "pi")
        (binary (.arithmetic .pow) (binary (.arithmetic .add) (literal "1") (identifier "i"))
          (unary .negate (literal "2"))))
      (identifier "hex")).run ⟨.standard, .builtin, .empty⟩ Polling.never =
        .ok (.value (.number x)) ∧
    x.value = .exact g ∧
    g.toComplex = 3141592653589793238 / 1000000000000000000 * (-Complex.I / 2) ∧
    x.approx = true := by
  have one : Literal.value? "1" = some 1 := by decide +kernel
  have two : Literal.value? "2" = some 2 := by decide +kernel
  have exponent : (unary .negate (literal "2")).meaning = ((-2 : Int) : ℂ) := by
    simp [meaning, Unary.meaning, two]
  have base : (binary (.arithmetic .add) (literal "1") (identifier "i")).meaning =
      1 + Complex.I := by
    simp [meaning, Arithmetic.meaning, one]
  have base_ne_zero : 1 + Complex.I ≠ 0 := by simp [Complex.ext_iff]
  have target : ((identifier "hex").evaluate ⟨.standard, .builtin, .empty⟩).result =
      .ok (.base .hexadecimal) := rfl
  have arithmetical : (binary .conversion
      (binary (.juxtaposition .multiply) (identifier "pi")
        (binary (.arithmetic .pow) (binary (.arithmetic .add) (literal "1") (identifier "i"))
          (unary .negate (literal "2"))))
      (identifier "hex")).Arithmetical ⟨.standard, .builtin, .empty⟩ :=
    ⟨⟨.inr (.inl rfl),
      ⟨⟨⟨1, one⟩, .inl rfl, fun power => absurd power (by decide)⟩, ⟨2, two⟩,
        fun _ _ => ⟨-2, exponent⟩⟩,
      by decide⟩,
      _, target, by decide⟩
  obtain ⟨x, g, ran, exact, meant, approx⟩ := (run_arithmetical .empty _ arithmetical).1
    ⟨trivial, ⟨trivial, trivial, trivial⟩, ⟨trivial, trivial⟩, fun zero =>
      base_ne_zero (base ▸ zero.1)⟩
  refine ⟨x, g, ran, exact, meant.trans ?_, approx⟩
  change 3141592653589793238 / 1000000000000000000 *
    ((binary (.arithmetic .add) (literal "1") (identifier "i")).meaning ^
      (unary .negate (literal "2")).meaning) = _
  have power : (1 + Complex.I) ^ (-2 : Int) = -Complex.I / 2 := by
    have square : (1 + Complex.I) ^ 2 = 2 * Complex.I := by
      rw [add_sq, Complex.I_sq]
      ring
    rw [zpow_neg, show (1 + Complex.I) ^ (2 : Int) = (1 + Complex.I) ^ 2 from rfl, square,
      mul_inv, Complex.inv_I]
    ring
  rw [base, exponent, Complex.cpow_intCast, power]

end Calculator.Tree
