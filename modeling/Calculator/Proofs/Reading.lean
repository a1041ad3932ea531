import Calculator.Proofs.Rendering
import Mathlib.Data.List.TakeWhile

/-! Reading exact texts. `number` finds the real and the imaginary part that a text of an exact
number stands for, whatever base and style it was written in, and so no two exact numbers have
the same text. A base is known by its mark in front or its name behind the digits; a trailing
`i` makes a part imaginary, and no real part ends in one, since the bases that have a digit `i`
are named behind; the sign between two parts stands after a blank, and the only blanks inside a
part stand before a bracket. -/

namespace Calculator

namespace Reading
open Positional Number

/-- Digits with a mark in front; no mark means base ten. -/
def marked : List Char → Nat
  | '0' :: 'b' :: ds => value 2 (ds.map digitOf)
  | '0' :: 'o' :: ds => value 8 (ds.map digitOf)
  | '0' :: 'x' :: ds => value 16 (ds.map digitOf)
  | ds => value 10 (ds.map digitOf)

def natural (cs : List Char) : Nat :=
  match cs.dropWhile (· ≠ ' ') with
  | [] => marked cs
  | name => value (value 10 ((name.filter Char.isDigit).map digitOf))
    ((cs.takeWhile (· ≠ ' ')).map digitOf)

def integer : List Char → Int
  | '-' :: cs => -natural cs
  | cs => natural cs

def part (cs : List Char) : ℚ :=
  match cs.dropWhile (· ≠ '/') with
  | _ :: below => integer (cs.takeWhile (· ≠ '/')) / natural below
  | [] =>
    match cs.dropWhile (· ≠ '.') with
    | _ :: places => integer (cs.takeWhile (· ≠ '.') ++ places) / 10 ^ places.length
    | [] => integer cs

def factor : List Char → ℚ
  | [] => 1
  | ['-'] => -1
  | cs => part cs

/-- What stands before the sign between two parts, whether it is a minus, and what follows. -/
def terms? : List Char → Option (List Char × Bool × List Char)
  | [] => none
  | ' ' :: '+' :: ' ' :: rest => some ([], false, rest)
  | ' ' :: '-' :: ' ' :: rest => some ([], true, rest)
  | c :: rest => (terms? rest).map fun (re, minus, im) => (c :: re, minus, im)

def number (cs : List Char) : Gaussian :=
  if cs.getLast? = some 'i' then
    match terms? cs.dropLast with
    | some (re, minus, im) => ⟨part re, if minus then -factor im else factor im⟩
    | none => ⟨0, factor cs.dropLast⟩
  else ⟨part cs, 0⟩

theorem isAlphanum_of_mem_chars {b n : Nat} {c : Char} (two_le : 2 ≤ b) (le : b ≤ 36)
    (listed : c ∈ chars b n) : c.isAlphanum = true := by
  have all : ∀ d < 36, (digitChar d).isAlphanum = true := by decide
  obtain ⟨d, digit, rfl⟩ := List.mem_map.1 listed
  exact all d (Nat.lt_of_lt_of_le (lt_of_mem_digits two_le digit) le)

theorem isDigit_of_mem_chars {n : Nat} {c : Char} (listed : c ∈ chars 10 n) :
    c.isDigit = true := by
  obtain ⟨d, digit, rfl⟩ := List.mem_map.1 listed
  exact isDigit_digitChar (lt_of_mem_digits (by omega) digit)

theorem value_map_chars {b : Nat} (n : Nat) (two_le : 2 ≤ b) (le : b ≤ 36) :
    value b ((chars b n).map digitOf) = n := by
  have small : ∀ d ∈ digits b n, d < 36 := fun d digit =>
    Nat.lt_of_lt_of_le (lt_of_mem_digits two_le digit) le
  rw [chars, map_digitOf small, value_digits]

theorem marked_of_digits {ds : List Nat} (small : ∀ d ∈ ds, d < 10) :
    marked (ds.map digitChar) = value 10 ds := by
  have back : (ds.map digitChar).map digitOf = ds :=
    map_digitOf fun d digit => Nat.lt_trans (small d digit) (by omega)
  have digit : ∀ c ∈ ds.map digitChar, c.isDigit = true := by
    intro c listed
    obtain ⟨d, member, rfl⟩ := List.mem_map.1 listed
    exact isDigit_digitChar (small d member)
  generalize ds.map digitChar = cs at back digit
  unfold marked
  split
  · exact absurd (digit 'b' (by simp)) (by decide)
  · exact absurd (digit 'o' (by simp)) (by decide)
  · exact absurd (digit 'x' (by simp)) (by decide)
  · rw [back]

theorem dropWhile_of_notMem {c : Char} {cs : List Char} (free : c ∉ cs) :
    cs.dropWhile (· ≠ c) = [] := by
  rw [List.dropWhile_eq_nil_iff]
  intro d listed
  simpa using ne_of_mem_of_not_mem listed free

theorem dropWhile_append_cons {c : Char} {cs : List Char} (free : c ∉ cs) (rest : List Char) :
    (cs ++ c :: rest).dropWhile (· ≠ c) = c :: rest := by
  rw [List.dropWhile_append_of_pos]
  · simp
  · intro d listed
    simpa using ne_of_mem_of_not_mem listed free

theorem takeWhile_append_cons {c : Char} {cs : List Char} (free : c ∉ cs) (rest : List Char) :
    (cs ++ c :: rest).takeWhile (· ≠ c) = cs := by
  rw [List.takeWhile_append_of_pos]
  · simp
  · intro d listed
    simpa using ne_of_mem_of_not_mem listed free

theorem natural_of_digits {ds : List Nat} (small : ∀ d ∈ ds, d < 10) :
    natural (ds.map digitChar) = value 10 ds := by
  have unnamed : ' ' ∉ ds.map digitChar := notMem_of_digits (by decide) small
  rw [natural, dropWhile_of_notMem unnamed]
  exact marked_of_digits small

theorem marker_cases (b : Radix) :
    b.value = 2 ∧ b.marker = "0b" ∨ b.value = 8 ∧ b.marker = "0o" ∨
      b.value = 16 ∧ b.marker = "0x" ∨ b.marker = "" := by
  unfold Radix.marker
  split <;> simp_all

theorem isAlphanum_of_mem_marker {b : Radix} {c : Char} (listed : c ∈ b.marker.toList) :
    c.isAlphanum = true := by
  have all : (["0b", "0o", "0x", ""].all fun mark => mark.toList.all Char.isAlphanum) = true := by
    decide
  refine List.all_eq_true.1 (List.all_eq_true.1 all b.marker ?_) c listed
  obtain ⟨-, marker⟩ | ⟨-, marker⟩ | ⟨-, marker⟩ | marker := marker_cases b <;> simp [marker]

theorem marked_marker {b : Radix} (mark : b.marker ≠ "") (cs : List Char) :
    marked (b.marker.toList ++ cs) = value b.value (cs.map digitOf) := by
  obtain ⟨radix, marker⟩ | ⟨radix, marker⟩ | ⟨radix, marker⟩ | marker := marker_cases b
  · rw [radix, marker]
    rfl
  · rw [radix, marker]
    rfl
  · rw [radix, marker]
    rfl
  · exact absurd marker mark

theorem blank_notMem_chars {b : Nat} (n : Nat) (two_le : 2 ≤ b) (le : b ≤ 36) :
    ' ' ∉ chars b n := fun listed =>
  absurd (isAlphanum_of_mem_chars two_le le listed) (by decide)

theorem natural_numeral (b : Radix) (n : Nat) : natural (numeral b n) = n := by
  have unnamed := blank_notMem_chars n b.two_le b.le_maximum
  have back := value_map_chars n b.two_le b.le_maximum
  unfold numeral
  by_cases ten : b.value = 10
  · rw [if_pos ten]
    exact (natural_of_digits fun d => lt_of_mem_digits (by omega)).trans (value_digits 10 n)
  · rw [if_neg ten]
    by_cases mark : b.marker = ""
    · have name : " (base ".toList = ' ' :: ['(', 'b', 'a', 's', 'e', ' '] := by decide
      have digits : (chars 10 b.value).filter Char.isDigit = chars 10 b.value :=
        List.filter_eq_self.2 fun c => isDigit_of_mem_chars
      have named := value_map_chars b.value (b := 10) (by omega) (by omega)
      have closing : [')'].filter Char.isDigit = [] := by decide
      have opening : [' ', '(', 'b', 'a', 's', 'e', ' '].filter Char.isDigit = [] := by decide
      rw [if_pos mark, name, List.cons_append, natural, dropWhile_append_cons unnamed,
        takeWhile_append_cons unnamed]
      simp only [← List.cons_append]
      rw [List.filter_append, List.filter_append, opening, closing, digits, List.nil_append,
        List.append_nil, named, back]
    · have free : ' ' ∉ b.marker.toList ++ chars b.value n := by
        rw [List.mem_append, not_or]
        exact ⟨fun listed => absurd (isAlphanum_of_mem_marker listed) (by decide), unnamed⟩
      rw [if_neg mark, natural, dropWhile_of_notMem free]
      exact (marked_marker mark _).trans back

theorem mem_numeral {b : Radix} {n : Nat} {c : Char} (listed : c ∈ numeral b n) :
    c.isAlphanum = true ∨ c ∈ [' ', '(', ')'] := by
  have digit : c ∈ chars b.value n → c.isAlphanum = true :=
    isAlphanum_of_mem_chars b.two_le b.le_maximum
  have ten (m : Nat) : c ∈ chars 10 m → c.isAlphanum = true :=
    isAlphanum_of_mem_chars (by omega) (by omega)
  unfold numeral at listed
  by_cases decimal : b.value = 10
  · rw [if_pos decimal] at listed
    exact .inl (ten n listed)
  · rw [if_neg decimal] at listed
    by_cases mark : b.marker = ""
    · have word : (" (base ".toList.all fun c => c.isAlphanum || c ∈ [' ', '(', ')']) = true := by
        decide
      simp only [mark, if_true, List.mem_append, List.mem_singleton] at listed
      rcases listed with listed | listed | listed | rfl
      · exact .inl (digit listed)
      · simpa using List.all_eq_true.1 word c listed
      · exact .inl (ten b.value listed)
      · exact .inr (by simp)
    · rw [if_neg mark, List.mem_append] at listed
      exact .inl (listed.elim isAlphanum_of_mem_marker digit)

theorem notMem_numeral {c : Char} (apart : c.isAlphanum = false ∧ c ∉ [' ', '(', ')'])
    (b : Radix) (n : Nat) : c ∉ numeral b n := by
  intro listed
  rcases mem_numeral listed with alphanum | other
  · rw [apart.1] at alphanum
    cases alphanum
  · exact apart.2 other

theorem integer_sign (n : Int) {cs : List Char} (unsigned : '-' ∉ cs) :
    integer (sign n ++ cs) = if n < 0 then -(natural cs : Int) else natural cs := by
  unfold sign
  by_cases negative : n < 0
  · rw [if_pos negative, if_pos negative, List.singleton_append, integer]
  · rw [if_neg negative, if_neg negative, List.nil_append, integer]
    rintro rest rfl
    exact unsigned List.mem_cons_self

theorem integer_numeral (b : Radix) (n : Int) : integer (sign n ++ numeral b n.natAbs) = n := by
  rw [integer_sign n (notMem_numeral (by decide) b n.natAbs), natural_numeral]
  split <;> omega

theorem part_of_written {b : Radix} {q : Rat} {cs : List Char} (h : Written b q cs) :
    part cs = q := by
  have quotient : (q.num : ℚ) / q.den = q := Rat.num_div_den q
  have slash (n : Int) : '/' ∉ sign n ++ numeral b n.natAbs := by
    rw [List.mem_append, not_or]
    exact ⟨notMem_sign (by decide) n, notMem_numeral (by decide) b n.natAbs⟩
  cases h with
  | integer whole =>
    have point : '.' ∉ sign q.num ++ numeral b q.num.natAbs := by
      rw [List.mem_append, not_or]
      exact ⟨notMem_sign (by decide) q.num, notMem_numeral (by decide) b q.num.natAbs⟩
    rw [whole, Nat.cast_one, div_one] at quotient
    rw [part, dropWhile_of_notMem (slash q.num), dropWhile_of_notMem point]
    simp only [integer_numeral, quotient]
  | fraction =>
    rw [part, dropWhile_append_cons (slash q.num), takeWhile_append_cons (slash q.num)]
    simp only [integer_numeral, natural_numeral, quotient]
  | @decimal whole places ten digits nonempty denotes =>
    have before : ∀ d ∈ whole, d < 10 := fun d member => digits d (List.mem_append_left _ member)
    have behind : ∀ d ∈ places, d < 10 := fun d member => digits d (List.mem_append_right _ member)
    have slash : '/' ∉ sign q.num ++ whole.map digitChar ++ '.' :: places.map digitChar := by
      simp only [List.mem_append, List.mem_cons, not_or]
      exact ⟨⟨notMem_sign (by decide) q.num, notMem_of_digits (by decide) before⟩, by decide,
        notMem_of_digits (by decide) behind⟩
    have point : '.' ∉ sign q.num ++ whole.map digitChar := by
      rw [List.mem_append, not_or]
      exact ⟨notMem_sign (by decide) q.num, notMem_of_digits (by decide) before⟩
    rw [part, dropWhile_of_notMem slash, dropWhile_append_cons point,
      takeWhile_append_cons point]
    have unsigned : '-' ∉ (whole ++ places).map digitChar := notMem_of_digits (by decide) digits
    have joined : sign q.num ++ whole.map digitChar ++ places.map digitChar =
        sign q.num ++ (whole ++ places).map digitChar := by
      rw [List.map_append, List.append_assoc]
    have signed := eq_of_magnitude denotes
    simp only [joined, integer_sign q.num unsigned, natural_of_digits digits, List.length_map]
    by_cases negative : q.num < 0
    · rw [if_pos negative] at signed ⊢
      rw [Int.cast_neg, Int.cast_natCast, neg_div, signed]
    · rw [if_neg negative] at signed ⊢
      rw [Int.cast_natCast, signed]

/-- No blank stands at the end or before a sign. -/
inductive Unbroken : List Char → Prop
  | nil : Unbroken []
  | blank {c : Char} {cs : List Char} :
    c ≠ '+' → c ≠ '-' → Unbroken (c :: cs) → Unbroken (' ' :: c :: cs)
  | char {c : Char} {cs : List Char} : c ≠ ' ' → Unbroken cs → Unbroken (c :: cs)

theorem Unbroken.append {as bs : List Char} (first : Unbroken as) (second : Unbroken bs) :
    Unbroken (as ++ bs) := by
  induction first with
  | nil => exact second
  | blank plus minus _ ih => exact .blank plus minus ih
  | char apart _ ih => exact .char apart ih

theorem unbroken_of_notMem {cs : List Char} (free : ' ' ∉ cs) : Unbroken cs := by
  induction cs with
  | nil => exact .nil
  | cons c cs ih =>
    rw [List.mem_cons, not_or] at free
    exact .char (Ne.symm free.1) (ih free.2)

theorem terms?_of_unbroken {cs : List Char} (h : Unbroken cs) : terms? cs = none := by
  induction h with
  | nil => rfl
  | blank plus minus _ ih => simp [terms?, plus, minus, ih]
  | char apart _ ih => simp [terms?, apart, ih]

theorem terms?_append {re : List Char} (h : Unbroken re) (minus : Bool) (im : List Char) :
    terms? (re ++ ' ' :: (if minus then '-' else '+') :: ' ' :: im) = some (re, minus, im) := by
  induction h with
  | nil => cases minus <;> rfl
  | blank plus minus _ ih =>
    rw [List.cons_append] at ih ⊢
    simp [terms?, plus, minus, ih]
  | char apart _ ih => simp [terms?, apart, ih]

theorem unbroken_numeral (b : Radix) (n : Nat) : Unbroken (numeral b n) := by
  have digits : ' ' ∉ chars b.value n := blank_notMem_chars n b.two_le b.le_maximum
  unfold numeral
  by_cases ten : b.value = 10
  · rw [if_pos ten, ← ten]
    exact unbroken_of_notMem digits
  · rw [if_neg ten]
    by_cases mark : b.marker = ""
    · have word : " (base ".toList = ' ' :: '(' :: (['b', 'a', 's', 'e'] ++ [' ']) := by decide
      -- of the two blanks one stands before a bracket and one before a digit of the base
      have radix : ' ' ∉ chars 10 b.value ++ [')'] := by
        rw [List.mem_append, not_or]
        exact ⟨blank_notMem_chars b.value (by omega) (by omega), by decide⟩
      have name : Unbroken (' ' :: (chars 10 b.value ++ [')'])) := by
        have tail := unbroken_of_notMem radix
        have signless (c : Char) (listed : c ∈ chars 10 b.value) : c ≠ '+' ∧ c ≠ '-' := by
          have digit := isDigit_of_mem_chars listed
          constructor <;> rintro rfl <;> exact absurd digit (by decide)
        cases first : chars 10 b.value with
        | nil => exact absurd (List.map_eq_nil_iff.1 first) (digits_ne_nil 10 b.value)
        | cons c cs =>
          have apart := signless c (first ▸ List.mem_cons_self)
          rw [first] at tail
          exact .blank apart.1 apart.2 tail
      have base : Unbroken (['b', 'a', 's', 'e'] ++ ' ' :: (chars 10 b.value ++ [')'])) :=
        (unbroken_of_notMem (by decide)).append name
      rw [if_pos mark, word]
      refine (unbroken_of_notMem digits).append ?_
      simpa only [List.cons_append, List.append_assoc, List.nil_append] using
        Unbroken.blank (by decide) (by decide) (.char (by decide) base)
    · have front : ' ' ∉ b.marker.toList := fun listed =>
        absurd (isAlphanum_of_mem_marker listed) (by decide)
      rw [if_neg mark]
      exact (unbroken_of_notMem front).append (unbroken_of_notMem digits)

theorem unbroken_of_written {b : Radix} {q : Rat} {cs : List Char} (h : Written b q cs) :
    Unbroken cs := by
  have signed (cs : List Char) (rest : Unbroken cs) : Unbroken (sign q.num ++ cs) :=
    (unbroken_of_notMem (notMem_sign (by decide) q.num)).append rest
  have digits (ds : List Nat) (small : ∀ d ∈ ds, d < 10) : Unbroken (ds.map digitChar) :=
    unbroken_of_notMem (notMem_of_digits (by decide) small)
  cases h with
  | integer whole => exact signed _ (unbroken_numeral b _)
  | fraction =>
    rw [List.append_assoc]
    exact signed _ ((unbroken_numeral b _).append (.char (by decide) (unbroken_numeral b _)))
  | @decimal whole places ten small nonempty denotes =>
    rw [List.append_assoc]
    have before := digits whole fun d member => small d (List.mem_append_left _ member)
    have behind := digits places fun d member => small d (List.mem_append_right _ member)
    exact signed _ (before.append (.char (by decide) behind))

def Ends (cs : List Char) : Prop := ∃ before c, cs = before ++ [c] ∧ c ≠ 'i' ∧ c ≠ '-'

theorem Ends.append {bs : List Char} (h : Ends bs) (as : List Char) : Ends (as ++ bs) := by
  obtain ⟨before, c, rfl, apart⟩ := h
  exact ⟨as ++ before, c, (List.append_assoc as before [c]).symm, apart⟩

theorem ends_of_digits {ds : List Nat} (nonempty : ds ≠ []) (small : ∀ d ∈ ds, d < 17) :
    Ends (ds.map digitChar) := by
  have all : ∀ d < 17, digitChar d ≠ 'i' ∧ digitChar d ≠ '-' := by decide
  have last := all _ (small _ (List.getLast_mem nonempty))
  refine ⟨ds.dropLast.map digitChar, digitChar (ds.getLast nonempty), ?_, last⟩
  conv_lhs => rw [← List.dropLast_concat_getLast nonempty, List.map_append]
  rfl

theorem ends_numeral (b : Radix) (n : Nat) : Ends (numeral b n) := by
  -- `i` is the digit eighteen, and every base that has it is named behind the digits
  have digits (small : b.value ≤ 17) : Ends (chars b.value n) :=
    ends_of_digits (digits_ne_nil b.value n) fun d digit =>
      Nat.lt_of_lt_of_le (lt_of_mem_digits b.two_le digit) small
  unfold numeral
  by_cases ten : b.value = 10
  · rw [if_pos ten, ← ten]
    exact digits (by omega)
  · rw [if_neg ten]
    by_cases mark : b.marker = ""
    · have closing : Ends [')'] := ⟨[], ')', rfl, by decide⟩
      rw [if_pos mark]
      exact ((closing.append _).append _).append _
    · rw [if_neg mark]
      refine (digits ?_).append _
      obtain ⟨radix, -⟩ | ⟨radix, -⟩ | ⟨radix, -⟩ | marker := marker_cases b
      · omega
      · omega
      · omega
      · exact absurd marker mark

theorem ends_of_written {b : Radix} {q : Rat} {cs : List Char} (h : Written b q cs) :
    Ends cs := by
  cases h with
  | integer whole => exact (ends_numeral b _).append _
  | fraction => exact ((ends_numeral b _).append ['/']).append _
  | @decimal whole places ten small nonempty denotes =>
    refine Ends.append ?_ _
    by_cases none : places = []
    · exact none ▸ ⟨[], '.', rfl, by decide⟩
    · have behind : ∀ d ∈ places, d < 17 := fun d member =>
        Nat.lt_trans (small d (List.mem_append_right _ member)) (by omega)
      exact (ends_of_digits none behind).append ['.']

theorem factor_of_ends {cs : List Char} (h : Ends cs) : factor cs = part cs := by
  obtain ⟨before, c, rfl, -, minus⟩ := h
  unfold factor
  split
  · next none => simp at none
  · next alone =>
    have last := congrArg List.getLast? alone
    simp only [List.getLast?_append, List.getLast?_singleton, Option.some_or] at last
    exact absurd (Option.some.inj last) minus
  · rfl

theorem number_of_ends {cs : List Char} (h : Ends cs) : number cs = ⟨part cs, 0⟩ := by
  obtain ⟨before, c, rfl, i, -⟩ := h
  simp [number, i]

theorem number_imaginary {cs : List Char} (h : Unbroken cs) :
    number (cs ++ ['i']) = ⟨0, factor cs⟩ := by
  simp [number, terms?_of_unbroken h]

theorem number_complex {re : List Char} (h : Unbroken re) (minus : Bool) (im : List Char) :
    number (re ++ ' ' :: (if minus then '-' else '+') :: ' ' :: (im ++ ['i'])) =
      ⟨part re, if minus then -factor im else factor im⟩ := by
  have terms := terms?_append h minus im
  have text : re ++ ' ' :: (if minus then '-' else '+') :: ' ' :: (im ++ ['i']) =
      (re ++ ' ' :: (if minus then '-' else '+') :: ' ' :: im) ++ ['i'] := by simp
  rw [text]
  simp only [number, List.getLast?_append, List.getLast?_singleton, Option.some_or, if_true,
    List.dropLast_concat, terms]

variable {x : Number}

theorem toList_imaginaryText {q : Rat} {magnitude : Bool} {t : String} (exact : x.approx = false)
    (style : x.style.Exact) (h : x.imaginaryText magnitude (.rational q) = .ok t) :
    ∃ cs, t.toList = cs ++ ['i'] ∧ Unbroken cs ∧
      factor cs = if magnitude ∧ q < 0 then -q else q := by
  unfold imaginaryText at h
  by_cases unit : Component.isUnit (.rational q) = true
  · rw [if_pos unit, Except.ok.injEq] at h
    have either : q = 1 ∨ q = -1 := by simpa [Component.isUnit] using unit
    have negative : (-1 : ℚ) < 0 := by norm_num
    rcases either with rfl | rfl
    · have positive : ¬ (1 : ℚ) < 0 := by norm_num
      simp only [Component.belowZero, positive, decide_false, Bool.and_false, Bool.false_eq_true,
        if_false] at h
      exact ⟨[], h ▸ rfl, .nil, by simp [factor, positive]⟩
    · cases magnitude with
      | false =>
        simp only [Component.belowZero, negative, decide_true, Bool.not_false, Bool.and_self,
          if_true] at h
        exact ⟨['-'], h ▸ rfl, unbroken_of_notMem (by decide), by simp [factor]⟩
      | true =>
        simp only [Bool.not_true, Bool.false_and, Bool.false_eq_true, if_false] at h
        exact ⟨[], h ▸ rfl, .nil, by simp [factor, negative]⟩
  · rw [if_neg unit] at h
    obtain ⟨s, part, h⟩ := exists_of_bind_eq_ok h
    have text : s ++ "i" = t := Except.ok.inj h
    rw [partText_rational exact style] at part
    have written := written_of_exactText style part
    refine ⟨s.toList, by simp [← text], unbroken_of_written written, ?_⟩
    rw [factor_of_ends (ends_of_written written), part_of_written written]

/-- A text that does not round is read as the number it was written for. -/
theorem number_of_text {t : String} (exact : x.approx = false) (style : x.style.Exact)
    (h : x.text = .ok t) : x.value = .exact (number t.toList) := by
  obtain ⟨g, value⟩ := exists_gaussian exact
  rw [value, Closed.exact.injEq]
  have part {q : Rat} {s : String} (h : x.partText false (.rational q) = .ok s) :
      Written x.base q s.toList := by
    rw [partText_rational exact style] at h
    simpa using written_of_exactText style h
  unfold Number.text at h
  simp only [value, Component.both, Component.isZero, Component.isNegative, decide_eq_true_eq] at h
  by_cases real : g.im = 0
  · rw [if_pos real] at h
    have written := part h
    rw [number_of_ends (ends_of_written written), part_of_written written, ← real]
  · rw [if_neg real] at h
    by_cases imaginary : g.re = 0
    · rw [if_pos imaginary] at h
      obtain ⟨cs, text, unbroken, denotes⟩ := toList_imaginaryText exact style h
      simp only [Bool.false_eq_true, false_and, if_false] at denotes
      rw [text, number_imaginary unbroken, denotes, ← imaginary]
    · rw [if_neg imaginary] at h
      obtain ⟨s, re, h⟩ := exists_of_bind_eq_ok h
      obtain ⟨s', im, h⟩ := exists_of_bind_eq_ok h
      have written := part re
      obtain ⟨cs, text, unbroken, denotes⟩ := toList_imaginaryText exact style im
      have joined : s ++ (if g.im < 0 then " - " else " + ") ++ s' = t := Except.ok.inj h
      have whole : t.toList = s.toList ++
          ' ' :: (if decide (g.im < 0) then '-' else '+') :: ' ' :: (cs ++ ['i']) := by
        rw [← joined, String.toList_append, String.toList_append, text]
        by_cases negative : g.im < 0 <;> simp [negative]
      have signed : (if decide (g.im < 0) then -factor cs else factor cs) = g.im := by
        rw [denotes]
        by_cases negative : g.im < 0 <;> simp [negative]
      rw [whole, number_complex (unbroken_of_written written), part_of_written written, signed]

end Reading

namespace Number

/-- Exact numbers with the same text are equal, in whatever base and style each is written. -/
theorem text_unambiguous {x y : Number} {s : String} (exact₁ : x.approx = false)
    (exact₂ : y.approx = false) (style₁ : x.style.Exact) (style₂ : y.style.Exact)
    (text₁ : x.text = .ok s) (text₂ : y.text = .ok s) :
    ∃ g : Gaussian, x.value = .exact g ∧ y.value = .exact g :=
  ⟨Reading.number s.toList, Reading.number_of_text exact₁ style₁ text₁,
    Reading.number_of_text exact₂ style₂ text₂⟩

theorem text_unambiguous_i :
    let x := (i.withBase ⟨36, by decide, by decide⟩).withStyle .fraction
    x.approx = false ∧ x.text = .ok "i" ∧ i.text = .ok "i" ∧
      ∃ g : Gaussian, x.value = .exact g ∧ i.value = .exact g :=
  ⟨rfl, rfl, rfl, text_unambiguous rfl rfl (.inr (.inr rfl)) (.inl rfl) rfl rfl⟩

end Number
end Calculator
