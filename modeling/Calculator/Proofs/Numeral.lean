import Calculator.Number.Rounded
import Calculator.Proofs.Literal
import Calculator.Proofs.Rounding

/-! Decimal numerals, plain or with an exponent, and the numbers that they denote. A numeral
denotes only one number, and the numeral of a coefficient denotes what the coefficient and its
power stand for, in either notation. -/

namespace Calculator

open Positional

/-- Digits, with places behind a point or without. -/
inductive PlainNumeral : List Char → ℚ → Prop
  | whole {ds : List ℕ} (digits : ∀ d ∈ ds, d < 10) (nonempty : ds ≠ []) :
    PlainNumeral (ds.map digitChar) (value 10 ds)
  | pointed {whole places : List ℕ} (digits : ∀ d ∈ whole ++ places, d < 10)
    (nonempty : whole ≠ []) (nonempty' : places ≠ []) :
    PlainNumeral (whole.map digitChar ++ '.' :: places.map digitChar)
      (value 10 (whole ++ places) / 10 ^ places.length)

inductive UnsignedNumeral : List Char → ℚ → Prop
  | plain {cs : List Char} {v : ℚ} (mantissa : PlainNumeral cs v) : UnsignedNumeral cs v
  | raised {cs : List Char} {v : ℚ} {es : List ℕ} (mantissa : PlainNumeral cs v)
    (digits : ∀ d ∈ es, d < 10) (nonempty : es ≠ []) :
    UnsignedNumeral (cs ++ 'e' :: '+' :: es.map digitChar) (v * 10 ^ value 10 es)
  | lowered {cs : List Char} {v : ℚ} {es : List ℕ} (mantissa : PlainNumeral cs v)
    (digits : ∀ d ∈ es, d < 10) (nonempty : es ≠ []) :
    UnsignedNumeral (cs ++ 'e' :: '-' :: es.map digitChar) (v / 10 ^ value 10 es)

inductive Numeral : List Char → ℚ → Prop
  | unsigned {cs : List Char} {v : ℚ} (numeral : UnsignedNumeral cs v) : Numeral cs v
  | negative {cs : List Char} {v : ℚ} (numeral : UnsignedNumeral cs v) : Numeral ('-' :: cs) (-v)

namespace Numeral
open Literal

def mantissa (cs : List Char) : ℚ × List Char :=
  let (whole, rest) := takeDigits cs
  let (places, rest) := takeFractional rest
  (value 10 (whole ++ places) / 10 ^ places.length, rest)

def magnitude (cs : List Char) : ℚ :=
  match mantissa cs with
  | (v, _ :: '+' :: rest) => v * 10 ^ value 10 (takeDigits rest).1
  | (v, _ :: '-' :: rest) => v / 10 ^ value 10 (takeDigits rest).1
  | (v, _) => v

def denoted (cs : List Char) : ℚ :=
  let (signed, rest) := takeSign cs
  if signed then -magnitude rest else magnitude rest

theorem mantissa_append {cs rest : List Char} {v : ℚ} (numeral : PlainNumeral cs v)
    (stop : takeDigits rest = ([], rest)) (unpointed : rest.head? ≠ some '.') :
    mantissa (cs ++ rest) = (v, rest) := by
  cases numeral with
  | @whole ds digits nonempty =>
    have fractional : takeFractional rest = ([], rest) := by
      unfold takeFractional
      split
      · next after => exact absurd rfl unpointed
      · rfl
    simp [mantissa, takeDigits_append digits stop, fractional]
  | @pointed whole places digits nonempty nonempty' =>
    have before : ∀ d ∈ whole, d < 10 := fun d hd => digits d (List.mem_append_left _ hd)
    have behind : ∀ d ∈ places, d < 10 := fun d hd => digits d (List.mem_append_right _ hd)
    have point : takeDigits ('.' :: (places.map digitChar ++ rest)) =
        ([], '.' :: (places.map digitChar ++ rest)) := takeDigits_cons (by decide) _
    rw [List.append_assoc, List.cons_append]
    simp [mantissa, takeDigits_append before point, takeFractional, takeDigits_append behind stop]

theorem magnitude_eq {cs : List Char} {v : ℚ} (numeral : UnsignedNumeral cs v) :
    magnitude cs = v := by
  have stop (rest : List Char) : takeDigits ('e' :: rest) = ([], 'e' :: rest) :=
    takeDigits_cons (by decide) rest
  cases numeral with
  | plain plain =>
    have read := @mantissa_append cs [] _ plain rfl nofun
    rw [List.append_nil] at read
    rw [magnitude, read]
  | @raised cs v es plain digits nonempty =>
    rw [magnitude, mantissa_append plain (stop _) (by simp)]
    simp only [takeDigits_digits digits]
  | @lowered cs v es plain digits nonempty =>
    rw [magnitude, mantissa_append plain (stop _) (by simp)]
    simp only [takeDigits_digits digits]

theorem exists_digit_of_plain {cs : List Char} {v : ℚ} (numeral : PlainNumeral cs v) :
    ∃ d < 10, ∃ rest, cs = digitChar d :: rest := by
  cases numeral with
  | @whole ds digits nonempty =>
    obtain ⟨d, ds, rfl⟩ := List.exists_cons_of_ne_nil nonempty
    exact ⟨d, digits d List.mem_cons_self, _, rfl⟩
  | @pointed whole places digits nonempty _ =>
    obtain ⟨d, ds, rfl⟩ := List.exists_cons_of_ne_nil nonempty
    exact ⟨d, digits d List.mem_cons_self, _, rfl⟩

theorem exists_digit_of_unsigned {cs : List Char} {v : ℚ} (numeral : UnsignedNumeral cs v) :
    ∃ d < 10, ∃ rest, cs = digitChar d :: rest := by
  cases numeral with
  | plain plain => exact exists_digit_of_plain plain
  | raised plain _ _ | lowered plain _ _ =>
    obtain ⟨d, small, rest, rfl⟩ := exists_digit_of_plain plain
    exact ⟨d, small, _, rfl⟩

theorem denoted_eq {cs : List Char} {v : ℚ} (numeral : Numeral cs v) : denoted cs = v := by
  cases numeral with
  | negative unsigned => simp only [denoted, takeSign, magnitude_eq unsigned, if_true]
  | unsigned unsigned =>
    have apart : ∀ d < 10, digitChar d ≠ '-' ∧ digitChar d ≠ '+' := by decide
    obtain ⟨d, small, rest, rfl⟩ := exists_digit_of_unsigned unsigned
    obtain ⟨minus, plus⟩ := apart d small
    simp only [denoted, takeSign_of_ne minus plus, magnitude_eq unsigned, Bool.false_eq_true,
      if_false]

theorem unique {cs : List Char} {v w : ℚ} (left : Numeral cs v) (right : Numeral cs w) :
    v = w := by
  rw [← denoted_eq left, denoted_eq right]

end Numeral

/-- A text is a numeral of this number, and of no other. -/
structure Denotes (s : String) (v : ℚ) : Prop where
  numeral : Numeral s.toList v
  unique (w : ℚ) (other : Numeral s.toList w) : w = v

theorem Numeral.denotes {s : String} {v : ℚ} (numeral : Numeral s.toList v) : Denotes s v where
  numeral := numeral
  unique _ other := other.unique numeral

namespace Rounded

section
variable {ds : List ℕ}

theorem value_div_eq (ds : List ℕ) (k : ℕ) :
    (value 10 ds : ℚ) / 10 ^ k = value 10 ds * 10 ^ (-(k : ℤ)) := by
  rw [zpow_neg, zpow_natCast, div_eq_mul_inv]

theorem plainNumeral_of_zeros (digits : ∀ d ∈ ds, d < 10) (nonempty : ds ≠ []) (j : ℕ) :
    PlainNumeral ('0' :: '.' :: (zeros j ++ ds.map digitChar))
      (value 10 ds * 10 ^ (-((j + ds.length : ℕ) : ℤ))) := by
  have below : ∀ d ∈ [0] ++ (List.replicate j 0 ++ ds), d < 10 := by
    intro d hd
    rcases List.mem_append.1 hd with zero | hd
    · rw [List.mem_singleton.1 zero]
      omega
    · rcases List.mem_append.1 hd with zero | hd
      · rw [List.eq_of_mem_replicate zero]
        omega
      · exact digits d hd
  have numeral := PlainNumeral.pointed below (by simp) (by simp [nonempty])
  have same : value 10 ([0] ++ (List.replicate j 0 ++ ds)) = value 10 ds :=
    value_replicate_zero 10 (j + 1) ds
  rw [same, value_div_eq, List.length_append, List.length_replicate, List.map_append,
    List.map_replicate] at numeral
  exact numeral

theorem plainNumeral_of_point (digits : ∀ d ∈ ds, d < 10) {k : ℕ} (positive : 0 < k)
    (inside : k < ds.length) :
    PlainNumeral ((ds.map digitChar).take k ++ '.' :: (ds.map digitChar).drop k)
      (value 10 ds * 10 ^ (-((ds.length - k : ℕ) : ℤ))) := by
  have whole : ds.take k ≠ [] := by
    rw [← List.length_pos_iff, List.length_take]
    omega
  have places : ds.drop k ≠ [] := by
    rw [← List.length_pos_iff, List.length_drop]
    omega
  have numeral := PlainNumeral.pointed (by rwa [List.take_append_drop]) whole places
  rw [List.take_append_drop, value_div_eq, List.length_drop, List.map_take,
    List.map_drop] at numeral
  exact numeral

theorem plainNumeral_mantissa (digits : ∀ d ∈ ds, d < 10) (nonempty : ds ≠ []) :
    PlainNumeral (match ds.map digitChar with
      | [d] => [d]
      | d :: rest => d :: '.' :: rest
      | [] => []) (value 10 ds * 10 ^ (-((ds.length - 1 : ℕ) : ℤ))) := by
  match ds with
  | [d] => simpa using PlainNumeral.whole digits nonempty
  | d :: e :: rest => exact plainNumeral_of_point digits one_pos (by simp)

theorem unsignedNumeral_of_mantissa {cs : List Char} {v : ℚ} (mantissa : PlainNumeral cs v)
    (k : ℤ) : UnsignedNumeral (cs ++ 'e' :: (if k < 0 then '-' else '+') :: chars 10 k.natAbs)
      (v * 10 ^ k) := by
  have below : ∀ d ∈ digits 10 k.natAbs, d < 10 := fun d => lt_of_mem_digits (by omega)
  have nonempty := digits_ne_nil 10 k.natAbs
  by_cases negative : k < 0
  · have numeral := UnsignedNumeral.lowered mantissa below nonempty
    rw [value_digits, div_eq_mul_inv, ← zpow_natCast, ← zpow_neg,
      show -(k.natAbs : ℤ) = k by omega] at numeral
    rw [if_pos negative]
    exact numeral
  · have numeral := UnsignedNumeral.raised mantissa below nonempty
    rw [value_digits, ← zpow_natCast, show (k.natAbs : ℤ) = k by omega] at numeral
    rw [if_neg negative]
    exact numeral

end

theorem unsignedNumeral_layout {x : Scaled} (nonzero : x.coefficient ≠ 0) :
    UnsignedNumeral (layout x) (x.value 10) := by
  have denotes := value_digits 10 x.coefficient
  have small : ∀ d ∈ digits 10 x.coefficient, d < 10 := fun d => lt_of_mem_digits (by omega)
  have nonempty := digits_ne_nil 10 x.coefficient
  have long : 0 < (digits 10 x.coefficient).length := List.length_pos_iff.2 nonempty
  unfold layout Scaled.value
  rw [if_neg nonzero]
  unfold chars
  generalize digits 10 x.coefficient = ds at *
  generalize x.exponent = e
  rw [← denotes]
  simp only [List.length_map]
  split
  · next near =>
    refine .plain ?_
    split
    · next left =>
      have numeral := plainNumeral_of_zeros small nonempty (-(e + ds.length)).toNat
      rwa [show -(((-(e + ds.length)).toNat + ds.length : ℕ) : ℤ) = e by omega] at numeral
    · split
      · next whole =>
        have numeral := PlainNumeral.whole small nonempty
        simpa [whole] using numeral
      · have numeral := plainNumeral_of_point small (k := (e + ds.length).toNat) (by omega)
          (by omega)
        rwa [show -((ds.length - (e + ds.length).toNat : ℕ) : ℤ) = e by omega] at numeral
  · have exponent : e = -((ds.length - 1 : ℕ) : ℤ) + (e + ds.length - 1) := by omega
    have numeral := unsignedNumeral_of_mantissa (plainNumeral_mantissa small nonempty)
      (e + ds.length - 1)
    rw [mul_assoc, ← zpow_add₀ (by norm_num), ← exponent] at numeral
    exact numeral

theorem value_strip (c : ℕ) (e : ℤ) : (strip c e).value 10 = Scaled.value 10 ⟨c, e⟩ := by
  induction c, e using strip.induct with
  | case1 c e trailing ih =>
    obtain ⟨tenth, rfl⟩ := Nat.dvd_of_mod_eq_zero trailing.2
    rw [strip, if_pos trailing, ih, Nat.mul_div_cancel_left _ (by omega), Scaled.value,
      Scaled.value, zpow_add_one₀ (by norm_num)]
    push_cast
    ring
  | case2 c e kept =>
    rw [strip, if_neg kept]

theorem le_exponent_strip (c : ℕ) (e : ℤ) : e ≤ (strip c e).exponent := by
  induction c, e using strip.induct with
  | case1 c e trailing ih =>
    rw [strip, if_pos trailing]
    omega
  | case2 c e kept => rw [strip, if_neg kept]

theorem coefficient_strip_ne_zero {c : ℕ} (nonzero : c ≠ 0) (e : ℤ) :
    (strip c e).coefficient ≠ 0 := by
  induction c, e using strip.induct with
  | case1 c e trailing ih =>
    rw [strip, if_pos trailing]
    exact ih (by omega)
  | case2 c e kept => rwa [strip, if_neg kept]

theorem length_digits {b : ℕ} (base : 2 ≤ b) (n : ℕ) : (digits b n).length = Nat.log b n + 1 := by
  have onto (n : ℕ) (after : List ℕ) :
      (digitsOnto b n after).length = Nat.log b n + 1 + after.length := by
    induction n, after using digitsOnto.induct b with
    | case1 n after large ih =>
      rw [digitsOnto, if_pos large, ih, List.length_cons,
        Nat.log_of_one_lt_of_le (by omega) large.2]
      omega
    | case2 n after small =>
      rw [digitsOnto, if_neg small, List.length_cons, Nat.log_of_lt (by omega)]
      omega
  exact onto n []

theorem leading_place_le {y : Scaled} (nonzero : y.coefficient ≠ 0) {k : ℤ}
    (high : y.value 10 < 10 ^ (k + 1)) : y.exponent + (chars 10 y.coefficient).length - 1 ≤ k := by
  have power : ((10 ^ Nat.log 10 y.coefficient : ℕ) : ℚ) ≤ y.coefficient := by
    exact_mod_cast Nat.pow_log_le_self 10 nonzero
  have bound := calc
    (10 : ℚ) ^ (y.exponent + Nat.log 10 y.coefficient)
        = (10 ^ Nat.log 10 y.coefficient : ℕ) * 10 ^ y.exponent := by
      rw [add_comm, zpow_add₀ (by norm_num), zpow_natCast, Nat.cast_pow, Nat.cast_ofNat]
    _ ≤ y.coefficient * 10 ^ y.exponent := by gcongr
    _ < 10 ^ (k + 1) := high
  have less := (zpow_lt_zpow_iff_right₀ (by norm_num)).1 bound
  rw [chars, List.length_map, length_digits (by omega)]
  omega

theorem text_eq_ok {d : ℕ} {x : Scaled} (negative : Bool) (nonzero : x.coefficient ≠ 0)
    (low : -largestExponent - (d - 1) ≤ x.exponent)
    (high : x.value 10 < 10 ^ (largestExponent + 1)) :
    ∃ cs, text d negative x = .ok (String.ofList (if negative then '-' :: cs else cs)) ∧
      UnsignedNumeral cs (x.value 10) := by
  have value := value_strip x.coefficient x.exponent
  have kept := le_exponent_strip x.coefficient x.exponent
  have nonzero' := coefficient_strip_ne_zero nonzero x.exponent
  generalize strips : strip x.coefficient x.exponent = y at *
  have place := leading_place_le nonzero' (value.trans_lt high)
  have unlimited : limitBelow d y = y := if_pos (by omega)
  have value' := value_strip y.coefficient y.exponent
  have numeral := unsignedNumeral_layout (coefficient_strip_ne_zero nonzero' y.exponent)
  rw [value', value] at numeral
  refine ⟨_, ?_, numeral⟩
  unfold text
  simp only [strips, if_neg (not_lt.2 place), unlimited]

end Rounded
end Calculator
