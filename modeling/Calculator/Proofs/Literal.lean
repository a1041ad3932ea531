import Calculator.Proofs.Rendering

/-! Reading a literal undoes writing a rational in base ten. The three forms of `Written` meet
the two forms of a literal: an integer is a decimal without places and without an exponent. No
run of digits in a text is longer than the text, so texts within the limit are read in full. -/

namespace Calculator

namespace Literal
open Text Positional Number

theorem digitValue?_digitChar {d : Nat} (small : d < 10) : digitValue? (digitChar d) = some d := by
  have all : ∀ d < 10, digitValue? (digitChar d) = some d := by decide
  exact all d small

theorem takeDigits_cons {c : Char} (other : digitValue? c = none) (rest : List Char) :
    takeDigits (c :: rest) = ([], c :: rest) := by
  simp only [takeDigits, other]

theorem takeDigits_append {ds : List Nat} {rest : List Char} (small : ∀ d ∈ ds, d < 10)
    (stop : takeDigits rest = ([], rest)) :
    takeDigits (ds.map digitChar ++ rest) = (ds, rest) := by
  induction ds with
  | nil => exact stop
  | cons d ds ih =>
    have tail := ih fun e member => small e (List.mem_cons_of_mem d member)
    have digit := digitValue?_digitChar (small d List.mem_cons_self)
    simp only [List.map_cons, List.cons_append, takeDigits, digit, tail]

theorem takeDigits_digits {ds : List Nat} (small : ∀ d ∈ ds, d < 10) :
    takeDigits (ds.map digitChar) = (ds, []) := by
  have stop : takeDigits [] = ([], []) := rfl
  simpa only [List.append_nil] using takeDigits_append small stop

theorem runValue?_of_le {ds : List Nat} (short : ds.length ≤ longestRun) :
    runValue? ds = some (Positional.value 10 ds) :=
  if_pos short

theorem unsigned?_of_takeFractional {whole places : List Nat} {rest : List Char}
    (small : ∀ d ∈ whole, d < 10) (nonempty : whole ≠ []) (stop : takeDigits rest = ([], rest))
    (fractional : takeFractional rest = (places, [])) (short₁ : whole.length ≤ longestRun)
    (short₂ : places.length ≤ longestRun) :
    unsigned? (whole.map digitChar ++ rest) =
      some (mkRat (Positional.value 10 (whole ++ places)) (10 ^ places.length)) := by
  have unslashed (below : List Char) : rest ≠ '/' :: below := by
    rintro rfl
    simp [takeFractional] at fractional
  have exponent : takeExponent? [] = some (0, []) := rfl
  have blank : onlyBlanks [] = true := rfl
  have zero (n k : Nat) : decimalValue n k 0 = mkRat n (Nat.pow 10 k) := by
    simp [decimalValue]
  rw [unsigned?, takeDigits_append small stop]
  simp [fractional, exponent, blank, unslashed, nonempty, runValue?_of_le short₁,
    runValue?_of_le short₂, zero, value_append]

theorem unsigned?_fraction {above below : List Nat} (small₁ : ∀ d ∈ above, d < 10)
    (small₂ : ∀ d ∈ below, d < 10) (nonempty₁ : above ≠ [])
    (nonzero : Positional.value 10 below ≠ 0) (short₁ : above.length ≤ longestRun)
    (short₂ : below.length ≤ longestRun) :
    unsigned? (above.map digitChar ++ '/' :: below.map digitChar) =
      some (mkRat (Positional.value 10 above) (Positional.value 10 below)) := by
  have stop := takeDigits_cons (show digitValue? '/' = none by decide) (below.map digitChar)
  have nonempty₂ : below ≠ [] := by
    rintro rfl
    exact nonzero rfl
  have blank : onlyBlanks [] = true := rfl
  rw [unsigned?, takeDigits_append small₁ stop]
  obtain ⟨d, ds, rfl⟩ := List.exists_cons_of_ne_nil nonempty₁
  simp [takeDigits_digits small₂, runValue?_of_le short₁, runValue?_of_le short₂, nonempty₂,
    nonzero, blank]

theorem takeSign_of_ne {c : Char} (minus : c ≠ '-') (plus : c ≠ '+') (rest : List Char) :
    takeSign (c :: rest) = (false, c :: rest) := by
  unfold takeSign
  split
  · next first => exact absurd (List.cons.inj first).1 minus
  · next first => exact absurd (List.cons.inj first).1 plus
  · rfl

theorem ofChars?_sign (n : Int) {ds : List Nat} {rest : List Char} (small : ∀ d ∈ ds, d < 10)
    (nonempty : ds ≠ []) (joined : '_' ∉ rest) :
    ofChars? (sign n ++ (ds.map digitChar ++ rest)) =
      (unsigned? (ds.map digitChar ++ rest)).map fun q => if n < 0 then -q else q := by
  have all : ∀ d < 10, isBlank (digitChar d) = false ∧ digitChar d ≠ '-' ∧
      digitChar d ≠ '+' := by decide
  have scoreless : '_' ∉ sign n ++ (ds.map digitChar ++ rest) := by
    rw [List.mem_append, List.mem_append, not_or, not_or]
    exact ⟨notMem_sign (by decide) n, notMem_of_digits (by decide) small, joined⟩
  have kept : (sign n ++ (ds.map digitChar ++ rest)).filter (· ≠ '_') =
      sign n ++ (ds.map digitChar ++ rest) := by
    rw [List.filter_eq_self]
    intro c listed
    simpa using ne_of_mem_of_not_mem listed scoreless
  obtain ⟨d, es, rfl⟩ := List.exists_cons_of_ne_nil nonempty
  obtain ⟨blank, minus, plus⟩ := all d (small d List.mem_cons_self)
  rw [ofChars?, kept, sign]
  by_cases negative : n < 0
  · have blank : isBlank '-' = false := by decide
    simp only [negative, if_true, List.singleton_append, List.dropWhile_cons, blank,
      Bool.false_eq_true, if_false, takeSign]
  · simp only [negative, if_false, List.nil_append, List.map_cons, List.cons_append,
      List.dropWhile_cons, blank, Bool.false_eq_true, takeSign_of_ne minus plus]

theorem ofChars?_of_unsigned? {q m : Rat} {ds : List Nat} {rest : List Char}
    (small : ∀ d ∈ ds, d < 10) (nonempty : ds ≠ []) (joined : '_' ∉ rest)
    (read : unsigned? (ds.map digitChar ++ rest) = some m)
    (magnitude : (q.num.natAbs : ℚ) / q.den = m) :
    ofChars? (sign q.num ++ (ds.map digitChar ++ rest)) = some q := by
  rw [ofChars?_sign q.num small nonempty joined, read, Option.map_some,
    eq_of_magnitude magnitude]

theorem ofChars?_of_written {q : Rat} {cs : List Char} (h : Written .decimal q cs)
    (short : cs.length ≤ longestRun) : ofChars? cs = some q := by
  have tens (n d : Nat) (h : d ∈ digits 10 n) : d < 10 := lt_of_mem_digits (by omega) h
  have nonempty (n : Nat) : digits 10 n ≠ [] := digits_ne_nil 10 n
  have numeral (n : Nat) : numeral .decimal n = (digits 10 n).map digitChar := rfl
  cases h with
  | integer whole =>
    rw [numeral, List.length_append, List.length_map] at short
    have stop : takeDigits [] = ([], []) := rfl
    have fractional : takeFractional [] = ([], []) := rfl
    have read := unsigned?_of_takeFractional (tens q.num.natAbs) (nonempty q.num.natAbs) stop
      fractional (by omega) (Nat.zero_le longestRun)
    rw [numeral, ← List.append_nil (List.map _ _)]
    refine ofChars?_of_unsigned? (tens _) (nonempty _) List.not_mem_nil read ?_
    rw [List.append_nil, value_digits, Rat.mkRat_eq_div, whole]
    simp
  | fraction =>
    rw [numeral, numeral, List.append_assoc] at short ⊢
    simp only [List.length_append, List.length_cons, List.length_map] at short
    have nonzero : Positional.value 10 (digits 10 q.den) ≠ 0 := by
      rw [value_digits]
      exact q.den_ne_zero
    have joined : '_' ∉ '/' :: (digits 10 q.den).map digitChar := by
      rw [List.mem_cons, not_or]
      exact ⟨by decide, notMem_of_digits (by decide) (tens q.den)⟩
    have read := unsigned?_fraction (tens q.num.natAbs) (tens q.den) (nonempty q.num.natAbs)
      nonzero (by omega) (by omega)
    refine ofChars?_of_unsigned? (tens _) (nonempty _) joined read ?_
    rw [value_digits, value_digits, Rat.mkRat_eq_div]
    simp
  | @decimal whole places ten digits nonempty denotes =>
    rw [List.append_assoc] at short ⊢
    simp only [List.length_append, List.length_cons, List.length_map] at short
    have before : ∀ d ∈ whole, d < 10 := fun d member => digits d (List.mem_append_left _ member)
    have behind : ∀ d ∈ places, d < 10 := fun d member => digits d (List.mem_append_right _ member)
    have joined : '_' ∉ '.' :: places.map digitChar := by
      rw [List.mem_cons, not_or]
      exact ⟨by decide, notMem_of_digits (by decide) behind⟩
    have stop := takeDigits_cons (show digitValue? '.' = none by decide) (places.map digitChar)
    have fractional : takeFractional ('.' :: places.map digitChar) = (places, []) :=
      takeDigits_digits behind
    have read := unsigned?_of_takeFractional before nonempty stop fractional (by omega) (by omega)
    refine ofChars?_of_unsigned? before nonempty joined read ?_
    rw [denotes, Rat.mkRat_eq_div]
    simp

end Literal

namespace Number

/-- Reading the text of a rational in base ten gives the rational back. -/
theorem ofLiteral_text {x : Number} {s : String} (exact : x.approx = false)
    (real : (Component.both x.value).2.isZero = true) (ten : x.base = .decimal)
    (style : x.style.Exact) (text : x.text = .ok s) (short : s.length ≤ 4300) :
    ofLiteral s = .ok (ofClosed x.value) := by
  obtain ⟨g, value⟩ := exists_gaussian exact
  have im : g.im = 0 := by simpa [value, Component.both, Component.isZero] using real
  have whole : g = ⟨g.re, 0⟩ := congrArg (Gaussian.mk g.re) im
  have part : x.partText false (.rational g.re) = .ok s := by
    simpa [Number.text, value, Component.both, Component.isZero, im] using text
  have written : Written .decimal g.re s.toList := by
    rw [partText_rational exact style, ten] at part
    simpa using written_of_exactText style part
  have read : Literal.ofChars? s.toList = some g.re :=
    Literal.ofChars?_of_written written (String.length_toList ▸ short)
  rw [ofLiteral, Literal.value?, read, value, whole]
  rfl

theorem ofLiteral_text_minus_three_fortieths :
    let x := ofRat (-3 / 40)
    x.approx = false ∧ x.text = .ok "-0.075" ∧ ofLiteral "-0.075" = .ok (ofClosed x.value) :=
  ⟨rfl, by decide +kernel, ofLiteral_text rfl (by decide +kernel) rfl (.inl rfl)
    (by decide +kernel) (by decide)⟩

end Number
end Calculator
