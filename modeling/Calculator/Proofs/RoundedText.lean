import Calculator.Proofs.Accuracy
import Mathlib.Data.Sign.Basic

/-! Rounded texts. The text of a rational denotes a number of the same sign, with no more digits
than asked for and less than a unit of the last of them away; larger numbers have texts that
denote no smaller numbers. The texts of opposite numbers differ in a minus sign. -/

namespace Calculator.Rounded

open Positional

/-- The magnitudes that every rounded numeral can show. -/
def InRange (v : ℚ) : Prop := (10 : ℚ) ^ (-999990 : ℤ) ≤ |v| ∧ |v| < (10 : ℚ) ^ (999990 : ℤ)

/-- At most `d` significant decimal digits. -/
def HasDigits (d : ℕ) (v : ℚ) : Prop := ∃ c k : ℤ, |c| < 10 ^ d ∧ v = c * 10 ^ k

/-- The magnitude that the rounded text of a rational shows. -/
def magnitude (d : ℕ) (v : ℚ) : ℚ := (ofFraction d v.num.natAbs v.den).value 10

/-- The number that the rounded text of a rational denotes. -/
def rounded (d : ℕ) (v : ℚ) : ℚ :=
  if v < 0 then -magnitude d v else if v = 0 then 0 else magnitude d v

section
variable {d : ℕ} {v w : ℚ}

theorem InRange.num_ne_zero (range : InRange v) : v.num ≠ 0 := by
  intro zero
  have positive : (0 : ℚ) < 10 ^ (-999990 : ℤ) := by positivity
  rw [Rat.num_eq_zero.1 zero, InRange, abs_zero] at range
  exact absurd range.1 (not_le.2 positive)

theorem isAccurate_abs (digits : 1 ≤ d) (range : InRange v) {e : ℤ} (least : 10 ^ e ≤ |v|)
    (most : |v| < 10 ^ (e + 1)) : IsAccurate d |v| e (ofFraction d v.num.natAbs v.den) := by
  have above := Int.natAbs_pos.2 range.num_ne_zero
  rw [← Number.natAbs_num_div_den] at least most ⊢
  exact ofFraction_isAccurate digits above v.den_pos least most

theorem exists_place (nonzero : v.num ≠ 0) : ∃ e : ℤ, 10 ^ e ≤ |v| ∧ |v| < 10 ^ (e + 1) := by
  rw [← Number.natAbs_num_div_den]
  exact ⟨_, exponent_spec (b := 10) (by omega) (Int.natAbs_pos.2 nonzero) v.den_pos⟩

theorem exists_text (digits : 1 ≤ d) (negative : Bool) (range : InRange v) :
    ∃ cs, text d negative (ofFraction d v.num.natAbs v.den) =
        .ok (String.ofList (if negative then '-' :: cs else cs)) ∧
      UnsignedNumeral cs ((ofFraction d v.num.natAbs v.den).value 10) := by
  obtain ⟨e, least, most⟩ := exists_place range.num_ne_zero
  have accurate := isAccurate_abs digits range least most
  have low := (zpow_lt_zpow_iff_right₀ (by norm_num)).1 (range.1.trans_lt most)
  have high := (zpow_lt_zpow_iff_right₀ (by norm_num)).1 (least.trans_lt range.2)
  refine text_eq_ok negative (by have := accurate.long; omega) ?_ ?_
  · have := accurate.place
    rw [largestExponent]
    omega
  · have close := (abs_lt.1 accurate.close).2
    have unit : (10 : ℚ) ^ (e - d + 1) ≤ 10 ^ e := zpow_le_zpow_right₀ (by norm_num) (by omega)
    have power : (0 : ℚ) < 10 ^ (e + 1) := by positivity
    calc (ofFraction d v.num.natAbs v.den).value 10 < 10 ^ (e + 1) * 10 := by linarith
      _ = 10 ^ (e + 1 + 1) := (zpow_add_one₀ (by norm_num) _).symm
      _ ≤ 10 ^ (largestExponent + 1) :=
          zpow_le_zpow_right₀ (by norm_num) (by rw [largestExponent]; omega)

theorem ratText_denotes (digits : 1 ≤ d) (range : v = 0 ∨ InRange v) :
    ∃ s, ratText d v = .ok s ∧ Denotes s (rounded d v) := by
  obtain rfl | range := range
  · have zero : PlainNumeral ['0'] (0 : ℕ) := @PlainNumeral.whole [0] (by decide) (by decide)
    have numeral : Numeral "0".toList (rounded d 0) :=
      .unsigned (.plain (by simpa [rounded] using zero))
    exact ⟨"0", rfl, numeral.denotes⟩
  · have nonzero := range.num_ne_zero
    obtain ⟨cs, text, numeral⟩ := exists_text digits (decide (v.num < 0)) range
    refine ⟨_, by rw [ratText, if_neg nonzero, text], Numeral.denotes ?_⟩
    rw [String.toList_ofList, rounded]
    by_cases negative : v < 0
    · simp only [negative, Rat.num_neg.2 negative, decide_true, if_true]
      exact .negative numeral
    · simp only [negative, mt Rat.num_neg.1 negative, mt Rat.num_eq_zero.2 nonzero, decide_false,
        Bool.false_eq_true, if_false]
      exact .unsigned numeral

theorem rounded_of_pos (positive : 0 < v) : rounded d v = magnitude d v := by
  rw [rounded, if_neg positive.le.not_gt, if_neg positive.ne']

theorem rounded_of_neg (negative : v < 0) : rounded d v = -magnitude d v := if_pos negative

theorem magnitude_pos (digits : 1 ≤ d) (range : InRange v) : 0 < magnitude d v := by
  obtain ⟨e, least, most⟩ := exists_place range.num_ne_zero
  have long : 0 < (ofFraction d v.num.natAbs v.den).coefficient :=
    (isAccurate_abs digits range least most).long
  unfold magnitude Scaled.value
  positivity

theorem sign_rounded (digits : 1 ≤ d) (range : InRange v) :
    SignType.sign (rounded d v) = SignType.sign v := by
  have positive := magnitude_pos digits range
  obtain below | above := lt_or_gt_of_ne (Rat.num_ne_zero.1 range.num_ne_zero)
  · rw [rounded_of_neg below, sign_neg below, sign_neg (neg_lt_zero.2 positive)]
  · rw [rounded_of_pos above, sign_pos above, sign_pos positive]

theorem abs_rounded_sub (nonzero : v ≠ 0) : |rounded d v - v| = |magnitude d v - abs v| := by
  obtain below | above := lt_or_gt_of_ne nonzero
  · rw [rounded_of_neg below, abs_of_neg below, ← abs_neg]
    congr 1
    ring
  · rw [rounded_of_pos above, abs_of_pos above]

theorem HasDigits.neg (h : HasDigits d v) : HasDigits d (-v) := by
  obtain ⟨c, k, short, rfl⟩ := h
  exact ⟨-c, k, by rwa [abs_neg], by push_cast; ring⟩

theorem hasDigits_magnitude (digits : 1 ≤ d) (range : InRange v) : HasDigits d (magnitude d v) := by
  obtain ⟨e, least, most⟩ := exists_place range.num_ne_zero
  have short := (isAccurate_abs digits range least most).short
  unfold magnitude Scaled.value
  generalize (ofFraction d v.num.natAbs v.den).exponent = k
  obtain full | short := short.eq_or_lt
  · refine ⟨1, d + k, ?_, ?_⟩
    · rw [abs_one]
      exact one_lt_pow₀ (by norm_num) (by omega)
    · rw [full, zpow_add₀ (by norm_num), zpow_natCast]
      push_cast
      ring
  · refine ⟨(ofFraction d v.num.natAbs v.den).coefficient, k, ?_, ?_⟩
    · rw [abs_of_nonneg (by positivity)]
      exact_mod_cast short
    · push_cast
      rfl

theorem hasDigits_rounded (digits : 1 ≤ d) (range : InRange v) : HasDigits d (rounded d v) := by
  have short := hasDigits_magnitude digits range
  obtain below | above := lt_or_gt_of_ne (Rat.num_ne_zero.1 range.num_ne_zero)
  · rw [rounded_of_neg below]
    exact short.neg
  · rwa [rounded_of_pos above]

theorem HasDigits.exists_unit {e : ℤ} (h : HasDigits d v) (least : 10 ^ e ≤ |v|) :
    ∃ c : ℤ, |v| = c * 10 ^ (e - d + 1) := by
  obtain ⟨c, k, short, rfl⟩ := h
  have power : (0 : ℚ) < 10 ^ k := by positivity
  rw [abs_mul, abs_of_pos power] at least ⊢
  have coefficient : |(c : ℚ)| < 10 ^ d := by exact_mod_cast short
  have reach : (10 : ℚ) ^ e < 10 ^ (d + k) := by
    calc (10 : ℚ) ^ e ≤ |(c : ℚ)| * 10 ^ k := least
      _ < 10 ^ d * 10 ^ k := by gcongr
      _ = 10 ^ (d + k) := by rw [zpow_add₀ (by norm_num), zpow_natCast]
  have reach := (zpow_lt_zpow_iff_right₀ (by norm_num)).1 reach
  obtain ⟨j, unit⟩ := Int.eq_ofNat_of_zero_le (by omega : 0 ≤ k - (e - d + 1))
  refine ⟨|c| * 10 ^ j, ?_⟩
  rw [show k = j + (e - d + 1) by omega, zpow_add₀ (by norm_num), zpow_natCast]
  push_cast
  ring

/-- The rounded text of a number denotes a number of the same sign with no more digits than asked
for, less than a unit of the last of them away, and the number itself if it has no more digits. -/
theorem ratText_accurate (digits : 1 ≤ d) : ratText d 0 = .ok "0" ∧
    ∀ v : ℚ, InRange v → ∃ s w, ratText d v = .ok s ∧ Denotes s w ∧
      SignType.sign w = SignType.sign v ∧ HasDigits d w ∧
      (∀ e : ℤ, 10 ^ e ≤ |v| → |v| < 10 ^ (e + 1) → |w - v| < 10 ^ (e - d + 1)) ∧
      (HasDigits d v → w = v) := by
  refine ⟨rfl, fun v range => ?_⟩
  have nonzero := Rat.num_ne_zero.1 range.num_ne_zero
  obtain ⟨s, text, denotes⟩ := ratText_denotes digits (.inr range)
  refine ⟨s, _, text, denotes, sign_rounded digits range, hasDigits_rounded digits range, ?_, ?_⟩
  · intro e least most
    rw [abs_rounded_sub nonzero]
    exact (isAccurate_abs digits range least most).close
  · intro short
    obtain ⟨e, least, most⟩ := exists_place range.num_ne_zero
    obtain ⟨c, unit⟩ := short.exists_unit least
    have kept : magnitude d v = |v| := (isAccurate_abs digits range least most).exact c unit
    rw [← sub_eq_zero, ← abs_eq_zero, abs_rounded_sub nonzero, kept, sub_self, abs_zero]

theorem inRange_of_le (low : 10 ^ (-2 : ℤ) ≤ |v|) (high : |v| < 10 ^ (2 : ℤ)) : InRange v :=
  ⟨(zpow_le_zpow_right₀ (by norm_num) (by norm_num)).trans low,
    high.trans_le (zpow_le_zpow_right₀ (by norm_num) (by norm_num))⟩

theorem ratText_accurate_carry :
    InRange (-2499 / 2500) ∧ ratText 3 (-2499 / 2500) = .ok "-1" ∧
      ∃ w, Denotes "-1" w ∧ HasDigits 3 w ∧ |w - -2499 / 2500| < 1 / 1000 := by
  have low : (10 : ℚ) ^ (-1 : ℤ) ≤ |-2499 / 2500| := by norm_num
  have high : |-2499 / 2500| < (10 : ℚ) ^ (-1 + 1 : ℤ) := by norm_num
  have range : InRange (-2499 / 2500) := inRange_of_le (by norm_num) (by norm_num)
  obtain ⟨-, accurate⟩ := ratText_accurate (show 1 ≤ 3 by decide)
  obtain ⟨s, w, text, denotes, -, short, close, -⟩ := accurate (-2499 / 2500) range
  have shown : ratText 3 (-2499 / 2500) = .ok "-1" := by decide +kernel
  obtain rfl : "-1" = s := Except.ok.inj (shown.symm.trans text)
  exact ⟨range, shown, w, denotes, short, (close (-1) low high).trans_eq (by norm_num)⟩

theorem magnitude_mono (digits : 1 ≤ d) (nonzero : v.num ≠ 0) (nonzero' : w.num ≠ 0)
    (le : |v| ≤ |w|) : magnitude d v ≤ magnitude d w := by
  rw [← Number.natAbs_num_div_den, ← Number.natAbs_num_div_den] at le
  exact ofFraction_mono digits (Int.natAbs_pos.2 nonzero) v.den_pos (Int.natAbs_pos.2 nonzero')
    w.den_pos le

theorem magnitude_nonneg (d : ℕ) (v : ℚ) : 0 ≤ magnitude d v := by
  unfold magnitude Scaled.value
  positivity

theorem rounded_mono (digits : 1 ≤ d) (le : v ≤ w) : rounded d v ≤ rounded d w := by
  have left := magnitude_nonneg d v
  have right := magnitude_nonneg d w
  obtain negative | rfl | positive := lt_trichotomy w 0
  · have negative' := le.trans_lt negative
    rw [rounded_of_neg negative', rounded_of_neg negative, neg_le_neg_iff]
    refine magnitude_mono digits (Rat.num_ne_zero.2 negative.ne) (Rat.num_ne_zero.2 negative'.ne) ?_
    rw [abs_of_neg negative, abs_of_neg negative']
    exact neg_le_neg le
  · obtain negative | rfl := le.lt_or_eq
    · rw [rounded_of_neg negative]
      simpa [rounded] using left
    · exact le_rfl
  · rw [rounded_of_pos positive]
    obtain negative | rfl | positive' := lt_trichotomy v 0
    · rw [rounded_of_neg negative]
      linarith
    · simpa [rounded] using right
    · rw [rounded_of_pos positive']
      refine magnitude_mono digits (Rat.num_ne_zero.2 positive'.ne')
        (Rat.num_ne_zero.2 positive.ne') ?_
      rwa [abs_of_pos positive', abs_of_pos positive]

theorem text_true (d : ℕ) (x : Scaled) : text d true x = (text d false x).map ("-" ++ ·) := by
  have minus (cs : List Char) : String.ofList ('-' :: cs) = "-" ++ String.ofList cs := by
    rw [← String.toList_inj]
    simp
  unfold text
  dsimp only
  split
  · rfl
  · exact congrArg Except.ok (minus _)

theorem ratText_neg (d : ℕ) (positive : 0 < v) :
    ratText d (-v) = (ratText d v).map ("-" ++ ·) := by
  have above := Rat.num_pos.2 positive
  rw [ratText, ratText, Rat.neg_num, Rat.neg_den, Int.natAbs_neg, if_neg (by omega),
    if_neg (by omega), decide_eq_true (by omega), decide_eq_false (by omega), text_true]

/-- Rounded texts respect order, and the text of a negative number has a minus sign in front of
the text of its opposite. -/
theorem ratText_mono (digits : 1 ≤ d) :
    (∀ v w : ℚ, (v = 0 ∨ InRange v) → (w = 0 ∨ InRange w) → v ≤ w →
      ∃ s t x y, ratText d v = .ok s ∧ ratText d w = .ok t ∧ Denotes s x ∧ Denotes t y ∧
        x ≤ y) ∧
    ∀ v : ℚ, 0 < v → ratText d (-v) = (ratText d v).map ("-" ++ ·) := by
  refine ⟨fun v w range range' le => ?_, fun v positive => ratText_neg d positive⟩
  obtain ⟨s, text, denotes⟩ := ratText_denotes digits range
  obtain ⟨t, text', denotes'⟩ := ratText_denotes digits range'
  exact ⟨s, t, _, _, text, text', denotes, denotes', rounded_mono digits le⟩

theorem ratText_mono_carry :
    InRange (93 / 2) ∧ InRange 99 ∧ ratText 1 (93 / 2) = .ok "5e+1" ∧ ratText 1 99 = .ok "1e+2" ∧
      (∃ x y, Denotes "5e+1" x ∧ Denotes "1e+2" y ∧ x ≤ y) ∧
      ratText 1 (-99) = .ok "-1e+2" := by
  have range : InRange (93 / 2) := inRange_of_le (by norm_num) (by norm_num)
  have range' : InRange 99 := inRange_of_le (by norm_num) (by norm_num)
  have shown : ratText 1 (93 / 2) = .ok "5e+1" := by decide +kernel
  have shown' : ratText 1 99 = .ok "1e+2" := by decide +kernel
  obtain ⟨order, negative⟩ := ratText_mono (show 1 ≤ 1 by decide)
  obtain ⟨s, t, x, y, text, text', denotes, denotes', le⟩ :=
    order (93 / 2) 99 (.inr range) (.inr range') (by norm_num)
  obtain rfl : "5e+1" = s := Except.ok.inj (shown.symm.trans text)
  obtain rfl : "1e+2" = t := Except.ok.inj (shown'.symm.trans text')
  refine ⟨range, range', shown, shown', ⟨x, y, denotes, denotes', le⟩, ?_⟩
  rw [negative 99 (by norm_num), shown']
  rfl

end

end Calculator.Rounded

namespace Calculator.Number

theorem text_eq_ratText {x : Number} {n : ℤ} {d : ℕ} {q : ℚ} (style : x.style = .digits n)
    (digits : Style.count? n = some d) (value : x.value = .ofRat q) :
    x.text = Rounded.ratText d q := by
  have imaginary : (Component.both x.value).2 = .rational 0 := by rw [value]; rfl
  have real : (Component.both x.value).1 = .rational q := by rw [value]; rfl
  unfold text
  simp only [imaginary, real]
  simp [Component.isZero, partText, style, Component.styledText, digits, Component.roundedText]

end Calculator.Number
