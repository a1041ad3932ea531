import Calculator.Number.Text
import Calculator.Proofs.Positional
import Mathlib.Algebra.Order.Field.Basic
import Mathlib.Data.Rat.Cast.Order

/-! How exact numbers are written. In a style that does not round, a rational is written as an
integer, as a fraction of integers or, in base ten, as a decimal with as many places as its
denominator needs. `Written` lists these forms with what their digits denote, so that whoever
reads such a text need not know how the digits were found. -/

namespace Calculator

/-- The styles that show an exact part exactly. -/
def Style.Exact (s : Style) : Prop := s = .auto ∨ s = .exact ∨ s = .fraction

namespace Closed

theorem multiplicity_pow_mul {b m : Nat} (base : 2 ≤ b) (apart : b.Coprime m) (k : Nat) :
    multiplicity b (b ^ k * m) = k := by
  have positive : 0 < b := by omega
  have rest : m % b ≠ 0 := by
    intro divides
    have one := apart.eq_one_of_dvd (Nat.dvd_of_mod_eq_zero divides)
    omega
  have nonzero : m ≠ 0 := by
    rintro rfl
    exact rest (Nat.zero_mod b)
  induction k with
  | zero => rw [multiplicity, pow_zero, Nat.one_mul, if_neg fun h => rest h.2.2]
  | succ k ih =>
    have factor : b ^ (k + 1) * m = b * (b ^ k * m) := by ring
    have large : b * (b ^ k * m) ≠ 0 :=
      Nat.mul_ne_zero positive.ne' (Nat.mul_ne_zero (Nat.pow_pos positive).ne' nonzero)
    rw [factor, multiplicity, if_pos ⟨base, large, Nat.mul_mod_right b _⟩,
      Nat.mul_div_cancel_left _ positive, ih]

end Closed

namespace Number
open Positional

theorem exists_gaussian {x : Number} (exact : x.approx = false) : ∃ g, x.value = .exact g := by
  have known := x.exact_of_not_approx exact
  cases value : x.value with
  | exact g => exact ⟨g, rfl⟩
  | _ => simp [value, Closed.isExact, Closed.gaussian?] at known

theorem exists_of_bind_eq_ok {α β : Type} {x : Except Unprintable α}
    {f : α → Except Unprintable β} {b : β} (h : (x >>= f) = .ok b) :
    ∃ a, x = .ok a ∧ f a = .ok b := by
  cases x with
  | error u => cases h
  | ok a => exact ⟨a, rfl, h⟩

def sign (n : Int) : List Char := if n < 0 then ['-'] else []

theorem notMem_sign {c : Char} (apart : c ≠ '-') (n : Int) : c ∉ sign n := by
  unfold sign
  split <;> simp [apart]

theorem eq_of_magnitude {q m : ℚ} (magnitude : (q.num.natAbs : ℚ) / q.den = m) :
    (if q.num < 0 then -m else m) = q := by
  have quotient := Rat.num_div_den q
  rw [← magnitude]
  by_cases negative : q.num < 0
  · have cast : (q.num.natAbs : ℚ) = ((-q.num : Int) : ℚ) :=
      congrArg Int.cast (show (q.num.natAbs : Int) = -q.num by omega)
    rw [if_pos negative, cast, Int.cast_neg, neg_div, neg_neg, quotient]
  · have cast : (q.num.natAbs : ℚ) = (q.num : ℚ) :=
      congrArg Int.cast (show (q.num.natAbs : Int) = q.num by omega)
    rw [if_neg negative, cast, quotient]

theorem natAbs_num_div_den (q : ℚ) : (q.num.natAbs : ℚ) / q.den = |q| := by
  have quotient := congrArg abs (Rat.num_div_den q)
  rwa [abs_div, Nat.abs_cast, ← Int.cast_abs, ← Nat.cast_natAbs] at quotient

/-- The digits of a natural number in a display base, marked in front or named behind. -/
def numeral (b : Radix) (n : Nat) : List Char :=
  if b.value = 10 then chars 10 n
  else if b.marker = "" then
    chars b.value n ++ (" (base ".toList ++ (chars 10 b.value ++ [')']))
  else b.marker.toList ++ chars b.value n

inductive Written (b : Radix) (q : Rat) : List Char → Prop
  | integer (whole : q.den = 1) : Written b q (sign q.num ++ numeral b q.num.natAbs)
  | fraction : Written b q (sign q.num ++ numeral b q.num.natAbs ++ '/' :: numeral b q.den)
  | decimal {whole places : List Nat} (ten : b.value = 10)
    (digits : ∀ d ∈ whole ++ places, d < 10) (nonempty : whole ≠ [])
    (denotes : (q.num.natAbs : ℚ) / q.den =
      Positional.value 10 (whole ++ places) / 10 ^ places.length) :
    Written b q (sign q.num ++ whole.map digitChar ++ '.' :: places.map digitChar)

theorem toList_integerText {b : Radix} {n : Int} {s : String} (h : integerText b n = .ok s) :
    s.toList = sign n ++ numeral b n.natAbs := by
  have signed : (if n < 0 then "-" else "").toList = sign n := by
    unfold sign
    split <;> rfl
  unfold integerText at h
  unfold numeral
  by_cases ten : b.value = 10
  · rw [if_pos ten] at h
    generalize Nat.pow 10 4300 = limit at h
    by_cases long : limit ≤ n.natAbs
    · simp [long] at h
    · simp only [long, if_false, Except.ok.injEq] at h
      rw [← h, if_pos ten, decimal, sign, Positional.text]
      split <;> simp
  · rw [if_neg ten] at h
    rw [if_neg ten]
    by_cases mark : b.marker = ""
    · simp only [mark, if_true, Except.ok.injEq] at h
      simp [← h, mark, signed, Positional.text]
    · simp only [mark, if_false, Except.ok.injEq] at h
      simp [← h, mark, signed, Positional.text]

theorem toList_fractionText {b : Radix} {q : Rat} {s : String} (h : fractionText b q = .ok s) :
    s.toList = sign q.num ++ numeral b q.num.natAbs ++ '/' :: numeral b q.den := by
  have unsigned : sign (q.den : Int) = [] := if_neg (by omega)
  unfold fractionText at h
  obtain ⟨n, above, h⟩ := exists_of_bind_eq_ok h
  obtain ⟨d, below, h⟩ := exists_of_bind_eq_ok h
  have text : n ++ "/" ++ d = s := Except.ok.inj h
  simp [← text, toList_integerText above, toList_integerText below, unsigned]

theorem coprime_two_pow_five_pow (i j : Nat) : Nat.Coprime (2 ^ i) (5 ^ j) :=
  Nat.Coprime.pow i j (by decide)

theorem two_pow_mul_five_pow_dvd_iff {twos fives k : Nat} :
    2 ^ twos * 5 ^ fives ∣ 10 ^ k ↔ max twos fives ≤ k := by
  have ten : 10 ^ k = 2 ^ k * 5 ^ k := by rw [← Nat.mul_pow]
  rw [ten]
  constructor
  · intro divides
    have two := (coprime_two_pow_five_pow twos k).dvd_of_dvd_mul_right
      ((Nat.dvd_mul_right _ _).trans divides)
    have five := (coprime_two_pow_five_pow k fives).symm.dvd_of_dvd_mul_left
      ((Nat.dvd_mul_left _ _).trans divides)
    exact max_le ((Nat.pow_dvd_pow_iff_le_right (by omega)).1 two)
      ((Nat.pow_dvd_pow_iff_le_right (by omega)).1 five)
  · intro enough
    exact Nat.mul_dvd_mul (Nat.pow_dvd_pow 2 (by omega)) (Nat.pow_dvd_pow 5 (by omega))

theorem places?_eq_some_iff {d k : Nat} :
    places? d = some k ↔ ∃ twos fives, d = 2 ^ twos * 5 ^ fives ∧ k = max twos fives := by
  unfold places?
  constructor
  · intro h
    generalize Closed.multiplicity 2 d = twos at h
    generalize Closed.multiplicity 5 d = fives at h
    obtain ⟨factors, most⟩ := Option.ite_none_right_eq_some.1 h
    exact ⟨twos, fives, factors, (Option.some.inj most).symm⟩
  · rintro ⟨twos, fives, rfl, rfl⟩
    have two : Closed.multiplicity 2 (2 ^ twos * 5 ^ fives) = twos :=
      Closed.multiplicity_pow_mul (by omega) (coprime_two_pow_five_pow 1 fives) twos
    have five : Closed.multiplicity 5 (2 ^ twos * 5 ^ fives) = fives := by
      rw [Nat.mul_comm]
      exact Closed.multiplicity_pow_mul (by omega) (coprime_two_pow_five_pow twos 1).symm fives
    rw [two, five]
    exact if_pos rfl

theorem natAbs_num_div_den_eq_scaled {q : Rat} {k : Nat} (enough : q.den ∣ 10 ^ k) :
    (q.num.natAbs : ℚ) / q.den = (q.num.natAbs * 10 ^ k / q.den : Nat) / 10 ^ k := by
  have exact : q.num.natAbs * 10 ^ k / q.den * q.den = q.num.natAbs * 10 ^ k :=
    Nat.div_mul_cancel (enough.mul_left _)
  rw [div_eq_div_iff (by exact_mod_cast q.den_ne_zero) (by simp)]
  exact_mod_cast exact.symm

theorem dvd_of_places? {d k : Nat} (h : places? d = some k) : d ∣ 10 ^ k := by
  obtain ⟨twos, fives, rfl, rfl⟩ := places?_eq_some_iff.1 h
  exact two_pow_mul_five_pow_dvd_iff.2 le_rfl

theorem unpadded_take {k n : Nat} {ds : List Nat}
    (padded : ds = List.replicate (k + 1 - (digits 10 n).length) 0 ++ digits 10 n) :
    Unpadded (ds.take (ds.length - k)) := by
  by_cases short : (digits 10 n).length ≤ k
  · have length : ds.length = k + 1 := by
      rw [padded, List.length_append, List.length_replicate]
      omega
    obtain ⟨d, rest, rfl⟩ := List.exists_cons_of_length_eq_add_one length
    intro zero
    rw [length, Nat.add_sub_cancel_left] at zero ⊢
    simpa using zero
  · have unpadded : ds = digits 10 n := by
      rw [padded, Nat.sub_eq_zero_of_le (by omega), List.replicate_zero, List.nil_append]
    intro zero
    rw [unpadded] at zero ⊢
    rw [List.head?_take, if_neg (by omega)] at zero
    have single := unpadded_digits 10 n zero
    rw [single] at short ⊢
    have none : k = 0 := by simpa using short
    rw [none]
    rfl

theorem toList_placesText {q : Rat} {k : Nat} {s : String} (h : placesText q k = .ok s) :
    ∃ whole places : List Nat, (∀ d ∈ whole ++ places, d < 10) ∧ whole ≠ [] ∧
      Unpadded whole ∧ places.length = k ∧
      Positional.value 10 (whole ++ places) = q.num.natAbs * 10 ^ k / q.den ∧
      s.toList = sign q.num ++ whole.map digitChar ++ '.' :: places.map digitChar := by
  unfold placesText at h
  generalize Nat.pow 10 4300 = limit at h
  have scaling : q.num.natAbs * Nat.pow 10 k / q.den = q.num.natAbs * 10 ^ k / q.den := rfl
  rw [scaling] at h
  generalize q.num.natAbs * 10 ^ k / q.den = scaled at h ⊢
  by_cases long : limit ≤ scaled
  · simp [long] at h
  · simp only [long, if_false, Except.ok.injEq] at h
    let ds := List.replicate (k + 1 - (digits 10 scaled).length) 0 ++ digits 10 scaled
    have enough : k + 1 ≤ ds.length := by simp [ds]; omega
    have padded : List.replicate (k + 1 - (chars 10 scaled).length) '0' ++ chars 10 scaled =
        ds.map digitChar := by
      have zero : digitChar 0 = '0' := by decide
      simp [ds, chars, zero]
    rw [padded] at h
    refine ⟨ds.take (ds.length - k), ds.drop (ds.length - k), ?_, ?_, unpadded_take rfl, ?_, ?_, ?_⟩
    · rw [List.take_append_drop]
      intro d hd
      rcases List.mem_append.1 hd with zero | digit
      · rw [List.eq_of_mem_replicate zero]
        omega
      · exact lt_of_mem_digits (by omega) digit
    · intro none
      have length := congrArg List.length none
      rw [List.length_take, List.length_nil] at length
      omega
    · rw [List.length_drop]
      omega
    · rw [List.take_append_drop]
      exact (value_replicate_zero 10 _ _).trans (value_digits 10 scaled)
    · rw [← h, sign]
      split <;> simp

theorem written_of_exactText {s : Style} {b : Radix} {q : Rat} {t : String} (style : s.Exact)
    (h : exactText s b q = .ok t) : Written b q t.toList := by
  have fraction (h : fractionText b q = .ok t) : Written b q t.toList :=
    toList_fractionText h ▸ .fraction
  unfold exactText at h
  by_cases whole : q.den = 1
  · rw [if_pos whole] at h
    exact toList_integerText h ▸ .integer whole
  · rw [if_neg whole] at h
    by_cases asked : s = .fraction
    · rw [if_pos asked] at h
      exact fraction h
    · have rounds : s ≠ .float := by rcases style with rfl | rfl | rfl <;> decide
      rw [if_neg asked] at h
      split at h
      · next k found =>
        obtain ⟨ten, finite⟩ := Option.ite_none_right_eq_some.1 found
        obtain ⟨whole, places, below, nonempty, -, length, value, text⟩ := toList_placesText h
        rw [text]
        refine .decimal ten below nonempty ?_
        rw [length, value]
        exact natAbs_num_div_den_eq_scaled (dvd_of_places? finite)
      · rw [if_neg rounds] at h
        exact fraction h

theorem partText_of_ne_digits {x : Number} (exact : x.approx = false)
    (style : ∀ n, x.style ≠ .digits n) (magnitude : Bool) (q : Rat) :
    x.partText magnitude (.rational q) =
      exactText x.style x.base (if magnitude ∧ q < 0 then -q else q) := by
  unfold partText
  cases shown : x.style with
  | digits n => exact absurd shown (style n)
  | _ => simp [exact]

theorem partText_rational {x : Number} (exact : x.approx = false) (style : x.style.Exact)
    (magnitude : Bool) (q : Rat) :
    x.partText magnitude (.rational q) =
      exactText x.style x.base (if magnitude ∧ q < 0 then -q else q) := by
  refine partText_of_ne_digits exact (fun n => ?_) magnitude q
  rcases style with style | style | style <;> simp [style]

end Number
end Calculator
