import Calculator.Proofs.Rendering
import Mathlib.Tactic.Linarith

/-! How exact real numbers are spelled. An integer in a base other than ten is a numeral without
superfluous zeros, with the mark or the name of its base. In base ten a rational that is no
integer is a decimal exactly when its denominator has no prime factor but two and five; the
decimal has no more places than it needs. Other rationals are fractions, or are rounded in the
style that asks for decimals. -/

namespace Calculator

namespace Positional

/-- A numeral of `n` in base `b`. Zero stands at its front only if it is all there is. -/
structure IsNumeral (b n : ℕ) (cs : List Char) : Prop where
  nonempty : cs ≠ []
  digits : ∀ c ∈ cs, (c.isDigit = true ∨ c.isLower = true) ∧ digitOf c < b
  unpadded : cs.head? = some '0' → cs = ['0']
  denotes : value b (cs.map digitOf) = n

theorem digitChar_eq_zero_iff {d : ℕ} (small : d < 36) : digitChar d = '0' ↔ d = 0 := by
  have all : ∀ d < 36, digitChar d = '0' ↔ d = 0 := by decide
  exact all d small

theorem isNumeral_chars {b : ℕ} (n : ℕ) (two_le : 2 ≤ b) (le : b ≤ 36) :
    IsNumeral b n (chars b n) := by
  have small (d : ℕ) (digit : d ∈ digits b n) : d < 36 :=
    (lt_of_mem_digits two_le digit).trans_le le
  constructor
  case nonempty => simpa [chars] using digits_ne_nil b n
  case digits =>
    have all : ∀ d < 36, (digitChar d).isDigit = true ∨ (digitChar d).isLower = true := by decide
    intro c listed
    obtain ⟨d, digit, rfl⟩ := List.mem_map.1 listed
    rw [digitOf_digitChar (small d digit)]
    exact ⟨all d (small d digit), lt_of_mem_digits two_le digit⟩
  case unpadded =>
    intro zero
    rw [chars, List.head?_map] at zero
    obtain ⟨d, first, same⟩ := Option.map_eq_some_iff.1 zero
    have none := (digitChar_eq_zero_iff (small d (List.mem_of_head? first))).1 same
    rw [chars, unpadded_digits b n (none ▸ first)]
    rfl
  case denotes => rw [chars, map_digitOf small, value_digits]

end Positional

namespace Number
open Positional

def baseName (b : Radix) : String :=
  if b.marker = "" then " (base " ++ Positional.text 10 b.value ++ ")" else ""

/-- In every base but ten, all integers are written, by sign, mark, digits and name. -/
theorem integerText_spelling {b : Radix} (other : b.value ≠ 10) (n : ℤ) :
    ∃ s cs, integerText b n = .ok s ∧ IsNumeral b.value n.natAbs cs ∧
      s.toList = sign n ++ b.marker.toList ++ cs ++ (baseName b).toList := by
  have numeral := isNumeral_chars n.natAbs b.two_le b.le_maximum
  have spelled : ∃ s, integerText b n = .ok s := by
    rw [integerText, if_neg other]
    by_cases mark : b.marker = "" <;> simp [mark]
  obtain ⟨s, text⟩ := spelled
  refine ⟨s, _, text, numeral, ?_⟩
  rw [toList_integerText text, Number.numeral, if_neg other, baseName]
  by_cases mark : b.marker = ""
  · simp [mark, Positional.text]
  · simp [mark]

theorem integerText_spelling_base_36 :
    let b : Radix := ⟨36, by decide, by decide⟩
    b.value ≠ 10 ∧ integerText b (-1295) = .ok "-zz (base 36)" ∧
      ∃ s cs, integerText b (-1295) = .ok s ∧ IsNumeral 36 1295 cs ∧
        s.toList = sign (-1295) ++ b.marker.toList ++ cs ++ (baseName b).toList :=
  ⟨by decide, by decide +kernel, integerText_spelling (by decide) (-1295)⟩

/-- Not too long to be written in base ten. -/
structure Fits (n : ℕ) : Prop where
  lt_limit : n < Nat.pow 10 4300

theorem integerText_of_fits {n : ℤ} (fits : Fits n.natAbs) :
    integerText .decimal n = .ok (decimal n) := by
  rw [integerText, if_pos (show Radix.decimal.value = 10 from rfl),
    if_neg (Nat.not_le.2 fits.lt_limit)]

theorem integerText_of_not_fits {n : ℤ} (long : ¬Fits n.natAbs) :
    integerText .decimal n = .error .tooManyDigits := by
  rw [integerText, if_pos (show Radix.decimal.value = 10 from rfl),
    if_pos (Nat.not_lt.1 fun small => long ⟨small⟩)]

theorem fractionText_of_fits {q : ℚ} (above : Fits q.num.natAbs) (below : Fits q.den) :
    fractionText .decimal q = .ok (decimal q.num ++ "/" ++ Positional.text 10 q.den) := by
  have unsigned : decimal (q.den : ℤ) = Positional.text 10 q.den := by
    rw [decimal, if_neg (by omega), Int.natAbs_natCast]
  rw [fractionText, integerText_of_fits above, integerText_of_fits (n := q.den) below, unsigned]
  rfl

theorem fractionText_of_not_fits {q : ℚ} (long : ¬(Fits q.num.natAbs ∧ Fits q.den)) :
    fractionText .decimal q = .error .tooManyDigits := by
  rw [fractionText]
  by_cases above : Fits q.num.natAbs
  · rw [integerText_of_fits above,
      integerText_of_not_fits (n := q.den) fun below => long ⟨above, below⟩]
    rfl
  · rw [integerText_of_not_fits above]
    rfl

/-- The digits of `q` before and behind the point, when it is written with `k` places. -/
structure Expansion (q : ℚ) (k : ℕ) (whole places : List ℕ) : Prop where
  digits : ∀ d ∈ whole ++ places, d < 10
  nonempty : whole ≠ []
  unpadded : Unpadded whole
  length : places.length = k
  last : ∃ d, places.getLast? = some d ∧ d ≠ 0
  denotes : |q| = Positional.value 10 (whole ++ places) / 10 ^ k

def decimalText (negative : Bool) (whole places : List ℕ) : List Char :=
  (if negative then ['-'] else []) ++ whole.map digitChar ++ '.' :: places.map digitChar

/-- Digits before a point and behind it, possibly with a minus sign in front. -/
def IsDecimal (cs : List Char) : Prop :=
  ∃ negative whole places, (∀ d ∈ whole ++ places, d < 10) ∧ whole ≠ [] ∧ places ≠ [] ∧
    cs = decimalText negative whole places

theorem scaled_mod_ten_ne_zero {q : ℚ} {twos fives : ℕ} (proper : q.den ≠ 1)
    (factors : q.den = 2 ^ twos * 5 ^ fives) :
    q.num.natAbs * 10 ^ max twos fives / q.den % 10 ≠ 0 := by
  have divides : q.den ∣ 10 ^ max twos fives := factors ▸ two_pow_mul_five_pow_dvd_iff.2 le_rfl
  obtain ⟨k, places⟩ : ∃ k, max twos fives = k + 1 := by
    refine Nat.exists_eq_succ_of_ne_zero fun none => proper ?_
    rw [none] at divides
    exact Nat.dvd_one.1 divides
  have scaling := Nat.div_mul_cancel (divides.mul_left q.num.natAbs)
  rw [places] at scaling ⊢
  intro zero
  obtain ⟨m, tenfold⟩ := Nat.dvd_of_mod_eq_zero zero
  have fewer : m * q.den = q.num.natAbs * 10 ^ k := by
    rw [tenfold, pow_succ] at scaling
    linarith
  have less : q.den ∣ 10 ^ k :=
    q.reduced.symm.dvd_of_dvd_mul_left (Dvd.intro_left m fewer)
  rw [factors] at less
  have enough := two_pow_mul_five_pow_dvd_iff.1 less
  omega

theorem expansion_of_placesText {q : ℚ} {twos fives : ℕ} {s : String} (proper : q.den ≠ 1)
    (factors : q.den = 2 ^ twos * 5 ^ fives) (text : placesText q (max twos fives) = .ok s) :
    ∃ whole places, Expansion q (max twos fives) whole places ∧
      s.toList = decimalText (decide (q < 0)) whole places := by
  obtain ⟨whole, places, digits, nonempty, unpadded, length, value, text⟩ :=
    toList_placesText text
  have divides : q.den ∣ 10 ^ max twos fives := factors ▸ two_pow_mul_five_pow_dvd_iff.2 le_rfl
  have last := scaled_mod_ten_ne_zero proper factors
  rw [← value] at last
  refine ⟨whole, places, ⟨digits, nonempty, unpadded, length, ?_, ?_⟩, ?_⟩
  · have nonempty : places ≠ [] := by
      rintro rfl
      rw [← length] at divides
      exact proper (Nat.dvd_one.1 divides)
    refine ⟨_, List.getLast?_eq_some_getLast nonempty, fun zero => last ?_⟩
    rw [← List.dropLast_concat_getLast nonempty, zero, ← List.append_assoc, value_append]
    simp [Positional.value]
  · rw [← natAbs_num_div_den, value]
    exact natAbs_num_div_den_eq_scaled divides
  · rw [text, sign, decimalText]
    simp

theorem isDigit_or_of_mem_decimal {cs : List Char} {c : Char} (decimal : IsDecimal cs)
    (listed : c ∈ cs) : c.isDigit = true ∨ c = '-' ∨ c = '.' := by
  obtain ⟨negative, whole, places, digits, -, -, rfl⟩ := decimal
  have digit {ds : List ℕ} (small : ∀ d ∈ ds, d < 10) (listed : c ∈ ds.map digitChar) :
      c.isDigit = true := by
    obtain ⟨d, member, rfl⟩ := List.mem_map.1 listed
    exact isDigit_digitChar (small d member)
  rw [decimalText, List.mem_append, List.mem_append, List.mem_cons] at listed
  rcases listed with (minus | before) | point | behind
  · cases negative <;> simp_all
  · exact .inl (digit (fun d member => digits d (List.mem_append_left _ member)) before)
  · exact .inr (.inr point)
  · exact .inl (digit (fun d member => digits d (List.mem_append_right _ member)) behind)

theorem Expansion.isDecimal {q : ℚ} {k : ℕ} {whole places : List ℕ}
    (h : Expansion q k whole places) (negative : Bool) :
    IsDecimal (decimalText negative whole places) := by
  refine ⟨negative, whole, places, h.digits, h.nonempty, ?_, rfl⟩
  rintro rfl
  obtain ⟨d, last, -⟩ := h.last
  cases last

theorem text_of_real {x : Number} {q : ℚ} (exact : x.approx = false) (value : x.value = .ofRat q)
    (style : ∀ n, x.style ≠ .digits n) : x.text = exactText x.style x.base q := by
  have part := partText_of_ne_digits exact style false q
  simp only [Bool.false_eq_true, false_and, if_false] at part
  rw [← part]
  simp [Number.text, value, Closed.ofRat, Gaussian.ofRat, Component.both, Component.isZero]

theorem placesText_of_fits {q : ℚ} {k : ℕ} (fits : Fits (q.num.natAbs * 10 ^ k / q.den)) :
    ∃ s, placesText q k = .ok s := by
  have below : ¬Nat.pow 10 4300 ≤ q.num.natAbs * Nat.pow 10 k / q.den :=
    Nat.not_le.2 fits.lt_limit
  rw [placesText, if_neg below]
  exact ⟨_, rfl⟩

theorem placesText_of_not_fits {q : ℚ} {k : ℕ}
    (long : ¬Fits (q.num.natAbs * 10 ^ k / q.den)) :
    placesText q k = .error .tooManyDigits := by
  have above : Nat.pow 10 4300 ≤ q.num.natAbs * Nat.pow 10 k / q.den :=
    Nat.not_lt.1 fun small => long ⟨small⟩
  rw [placesText, if_pos above]

section
variable {style : Style} {q : ℚ}

theorem exactText_of_factors {twos fives : ℕ} (proper : q.den ≠ 1) (other : style ≠ .fraction)
    (factors : q.den = 2 ^ twos * 5 ^ fives) :
    exactText style .decimal q = placesText q (max twos fives) := by
  have found := places?_eq_some_iff.2 ⟨twos, fives, factors, rfl⟩
  rw [exactText, if_neg proper, if_neg other, if_pos (show Radix.decimal.value = 10 from rfl),
    found]

theorem exactText_of_other_factors (proper : q.den ≠ 1) (other : style ≠ .fraction)
    (factors : ∀ twos fives, q.den ≠ 2 ^ twos * 5 ^ fives) :
    exactText style .decimal q =
      if style = .float then (Rounded.ratText 10 q).map ("approx. " ++ ·)
      else fractionText .decimal q := by
  have none : places? q.den = none := by
    refine Option.eq_none_iff_forall_ne_some.2 fun k found => ?_
    obtain ⟨twos, fives, same, -⟩ := places?_eq_some_iff.1 found
    exact factors twos fives same
  rw [exactText, if_neg proper, if_neg other, if_pos (show Radix.decimal.value = 10 from rfl),
    none]
  rfl

theorem not_isDecimal_exactText {s : String} (proper : q.den ≠ 1) (other : style ≠ .fraction)
    (factors : ∀ twos fives, q.den ≠ 2 ^ twos * 5 ^ fives)
    (text : exactText style .decimal q = .ok s) : ¬IsDecimal s.toList := by
  intro decimal
  rw [exactText_of_other_factors proper other factors] at text
  by_cases float : style = .float
  · rw [if_pos float] at text
    have letter : 'a' ∈ s.toList := by
      cases rounded : Rounded.ratText 10 q with
      | error u => simp [rounded, Except.map] at text
      | ok t =>
        rw [rounded, Except.map, Except.ok.injEq] at text
        simp [← text]
    exact absurd (isDigit_or_of_mem_decimal decimal letter) (by decide)
  · rw [if_neg float] at text
    by_cases fits : Fits q.num.natAbs ∧ Fits q.den
    · rw [fractionText_of_fits fits.1 fits.2] at text
      have slash : '/' ∈ s.toList := by
        rw [← Except.ok.inj text]
        simp
      exact absurd (isDigit_or_of_mem_decimal decimal slash) (by decide)
    · rw [fractionText_of_not_fits fits] at text
      cases text

end

/-- In base ten a rational that is no integer is a decimal, with as many places as it needs,
exactly when its denominator is made of twos and fives. -/
theorem text_of_denominator {x : Number} {q : ℚ} (exact : x.approx = false)
    (value : x.value = .ofRat q) (proper : q.den ≠ 1) (ten : x.base = .decimal)
    (style : x.style = .auto ∨ x.style = .exact ∨ x.style = .float) :
    (∀ twos fives, q.den = 2 ^ twos * 5 ^ fives →
      (Fits (q.num.natAbs * 10 ^ max twos fives / q.den) →
        ∃ s whole places, x.text = .ok s ∧ Expansion q (max twos fives) whole places ∧
          s.toList = decimalText (decide (q < 0)) whole places) ∧
      (¬Fits (q.num.natAbs * 10 ^ max twos fives / q.den) → x.text = .error .tooManyDigits)) ∧
    ((∀ twos fives, q.den ≠ 2 ^ twos * 5 ^ fives) →
      (x.style = .float → x.text = (Rounded.ratText 10 q).map ("approx. " ++ ·)) ∧
      (x.style ≠ .float →
        (Fits q.num.natAbs → Fits q.den →
          x.text = .ok (decimal q.num ++ "/" ++ Positional.text 10 q.den)) ∧
        (¬(Fits q.num.natAbs ∧ Fits q.den) → x.text = .error .tooManyDigits))) ∧
    ∀ s, x.text = .ok s →
      (IsDecimal s.toList ↔ ∃ twos fives, q.den = 2 ^ twos * 5 ^ fives) := by
  have plain : x.style ≠ .fraction := by rcases style with h | h | h <;> simp [h]
  have silent (n : ℤ) : x.style ≠ .digits n := by rcases style with h | h | h <;> simp [h]
  rw [text_of_real exact value silent, ten]
  refine ⟨fun twos fives factors => ⟨fun fits => ?_, fun long => ?_⟩,
    fun factors => ⟨fun float => ?_, fun other => ?_⟩, fun s text => ⟨fun decimal => ?_, ?_⟩⟩
  · obtain ⟨s, text⟩ := placesText_of_fits fits
    obtain ⟨whole, places, expansion, spelled⟩ := expansion_of_placesText proper factors text
    rw [exactText_of_factors proper plain factors]
    exact ⟨s, whole, places, text, expansion, spelled⟩
  · rw [exactText_of_factors proper plain factors]
    exact placesText_of_not_fits long
  · rw [exactText_of_other_factors proper plain factors, if_pos float]
  · rw [exactText_of_other_factors proper plain factors, if_neg other]
    exact ⟨fractionText_of_fits, fractionText_of_not_fits⟩
  · by_contra factors
    push Not at factors
    exact not_isDecimal_exactText proper plain factors text decimal
  · rintro ⟨twos, fives, factors⟩
    rw [exactText_of_factors proper plain factors] at text
    obtain ⟨whole, places, expansion, spelled⟩ := expansion_of_placesText proper factors text
    rw [spelled]
    exact expansion.isDecimal _

/-- Three places are as many as the three twos of forty need. -/
theorem text_of_denominator_forty :
    let x := (ofRat (-3 / 40)).withStyle .float
    x.approx = false ∧ (-3 / 40 : ℚ).den = 2 ^ 3 * 5 ^ 1 ∧ x.text = .ok "-0.075" ∧
      ∃ whole places, Expansion (-3 / 40) 3 whole places ∧
        "-0.075".toList = decimalText true whole places := by
  intro x
  have text : x.text = .ok "-0.075" := by decide +kernel
  have fits : Fits ((-3 / 40 : ℚ).num.natAbs * 10 ^ max 3 1 / (-3 / 40 : ℚ).den) :=
    ⟨by decide +kernel⟩
  have factors : (-3 / 40 : ℚ).den = 2 ^ 3 * 5 ^ 1 := by decide +kernel
  obtain ⟨s, whole, places, same, expansion, spelled⟩ := ((text_of_denominator (x := x) rfl rfl
    (by decide +kernel) rfl (.inr (.inr rfl))).1 3 1 factors).1 fits
  have negative : decide ((-3 / 40 : ℚ) < 0) = true := by decide +kernel
  rw [text, Except.ok.injEq] at same
  rw [← same, negative] at spelled
  exact ⟨rfl, factors, text, whole, places, expansion, spelled⟩

end Number
end Calculator
