import Mathlib.Data.List.TakeWhile
import Calculator.Proofs.Literal

/-! The grammar of literals. `Spells` says which texts without underscores stand for which
rational, without reading them. Each stage of the reader is sound for its part of the grammar and
complete for it where no run of digits is too long, so a literal of ASCII characters is read
exactly if it is spelled and its runs are short, as the rational that it spells. -/

namespace Calculator

namespace Literal
open Text Positional

/-- White space of ASCII: tab to carriage return, the four separators and the space. -/
def asciiBlanks : List Char :=
  ['\t', '\n', '\x0b', '\x0c', '\r', '\x1c', '\x1d', '\x1e', '\x1f', ' ']

/-- A sign or none, and whether it is a minus. -/
inductive Sign : List Char → Bool → Prop
  | none : Sign [] false
  | plus : Sign ['+'] false
  | minus : Sign ['-'] true

/-- Digits, or digits around a point, of which those on one side may be missing. -/
inductive Mantissa : List Char → ℚ → Prop
  | whole {ds : List ℕ} (digits : ∀ d ∈ ds, d < 10) (nonempty : ds ≠ []) :
    Mantissa (ds.map digitChar) (value 10 ds)
  | pointed {whole places : List ℕ} (digits : ∀ d ∈ whole ++ places, d < 10)
    (nonempty : whole ++ places ≠ []) :
    Mantissa (whole.map digitChar ++ '.' :: places.map digitChar)
      (value 10 (whole ++ places) / 10 ^ places.length)

/-- Nothing, or a letter and signed digits. -/
inductive Exponent : List Char → ℤ → Prop
  | absent : Exponent [] 0
  | present {letter : Char} {sign : List Char} {negative : Bool} {es : List ℕ}
    (power : letter = 'e' ∨ letter = 'E') (signed : Sign sign negative)
    (digits : ∀ d ∈ es, d < 10) (nonempty : es ≠ []) :
    Exponent (letter :: (sign ++ es.map digitChar))
      (if negative then -(value 10 es : ℤ) else value 10 es)

/-- What a sign may stand before. A fraction has neither point nor exponent. -/
inductive Magnitude : List Char → ℚ → Prop
  | fraction {above below : List ℕ} (digits : ∀ d ∈ above ++ below, d < 10)
    (nonempty : above ≠ []) (nonempty' : below ≠ []) (nonzero : value 10 below ≠ 0) :
    Magnitude (above.map digitChar ++ '/' :: below.map digitChar)
      (value 10 above / value 10 below)
  | decimal {cs es : List Char} {m : ℚ} {e : ℤ} (mantissa : Mantissa cs m)
    (exponent : Exponent es e) : Magnitude (cs ++ es) (m * 10 ^ e)

/-- A text without underscores is a literal of this rational. -/
inductive Spells : List Char → ℚ → Prop
  | signed {before sign cs after : List Char} {negative : Bool} {m : ℚ}
    (blank : ∀ c ∈ before ++ after, c ∈ asciiBlanks) (optional : Sign sign negative)
    (magnitude : Magnitude cs m) :
    Spells (before ++ (sign ++ (cs ++ after))) (if negative then -m else m)

/-- No run of digits is longer than what is read. -/
def ShortRuns (cs : List Char) : Prop :=
  ∀ ds, ds <:+: cs → (∀ c ∈ ds, c.isDigit = true) → ds.length ≤ longestRun

section
variable {xs ys : List Char}

theorem ShortRuns.of_infix (h : ShortRuns ys) (inside : xs <:+: ys) : ShortRuns xs :=
  fun ds run => h ds (run.trans inside)

theorem prefix_of_break {ds : List Char} (digits : ∀ c ∈ ds, c.isDigit = true)
    (broken : ∀ c ∈ ys.head?, c.isDigit = false) (h : ds <+: xs ++ ys) : ds <+: xs := by
  rcases List.prefix_or_prefix_of_prefix h (List.prefix_append xs ys) with h' | ⟨zs, rfl⟩
  · exact h'
  · have onwards : zs <+: ys := (List.prefix_append_right_inj xs).1 h
    cases zs with
    | nil => simp
    | cons c zs =>
      obtain ⟨rest, rfl⟩ := onwards
      have digit := digits c (by simp)
      rw [broken c (by simp)] at digit
      cases digit

theorem shortRuns_append (broken : ∀ c ∈ ys.head?, c.isDigit = false) :
    ShortRuns (xs ++ ys) ↔ ShortRuns xs ∧ ShortRuns ys := by
  constructor
  · intro h
    exact ⟨h.of_infix (List.prefix_append xs ys).isInfix,
      h.of_infix (List.suffix_append xs ys).isInfix⟩
  · rintro ⟨left, right⟩ ds run digits
    induction xs with
    | nil => exact right ds run digits
    | cons x xs ih =>
      rcases List.infix_cons_iff.1 run with first | later
      · -- A run that starts at `x` does not reach over the break.
        have onset : ds <+: x :: xs := prefix_of_break digits broken first
        exact left ds onset.isInfix digits
      · exact ih (left.of_infix (List.suffix_cons x xs).isInfix) later

theorem shortRuns_of_length (h : xs.length ≤ longestRun) : ShortRuns xs :=
  fun _ run _ => run.length_le.trans h

theorem shortRuns_digits {ds : List ℕ} (digits : ∀ d ∈ ds, d < 10) :
    ShortRuns (ds.map digitChar) ↔ ds.length ≤ longestRun := by
  constructor
  · intro h
    have whole := h _ List.infix_rfl fun c hc => by
      obtain ⟨d, member, rfl⟩ := List.mem_map.1 hc
      exact isDigit_digitChar (digits d member)
    rwa [List.length_map] at whole
  · intro h
    exact shortRuns_of_length (by rwa [List.length_map])

theorem shortRuns_append_left (others : ∀ c ∈ xs, c.isDigit = false) :
    ShortRuns (xs ++ ys) ↔ ShortRuns ys := by
  refine ⟨fun h => h.of_infix (List.suffix_append xs ys).isInfix, fun h ds run digits => ?_⟩
  induction xs with
  | nil => exact h ds run digits
  | cons x xs ih =>
    rcases List.infix_cons_iff.1 run with first | later
    · cases ds with
      | nil => exact Nat.zero_le _
      | cons c ds =>
        have digit := digits c List.mem_cons_self
        rw [(List.cons_prefix_cons.1 first).1, others x List.mem_cons_self] at digit
        cases digit
    · exact ih (fun c hc => others c (List.mem_cons_of_mem x hc)) later

theorem shortRuns_apart {before after : List ℕ} {c : Char} (other : c.isDigit = false)
    (digits : ∀ d ∈ before, d < 10) (digits' : ∀ d ∈ after, d < 10) :
    ShortRuns (before.map digitChar ++ c :: after.map digitChar) ↔
      before.length ≤ longestRun ∧ after.length ≤ longestRun := by
  have broken : ∀ c' ∈ (c :: after.map digitChar).head?, c'.isDigit = false := by
    rintro c' ⟨⟩
    exact other
  have others : ∀ c' ∈ [c], c'.isDigit = false := by simpa using other
  rw [shortRuns_append broken, shortRuns_digits digits, ← List.singleton_append,
    shortRuns_append_left others, shortRuns_digits digits']

theorem shortRuns_of_others (others : ∀ c ∈ xs, c.isDigit = false) : ShortRuns xs := by
  rw [← List.append_nil xs, shortRuns_append_left others]
  exact shortRuns_of_length (Nat.zero_le _)

end

theorem digitValue?_eq_some {c : Char} (ascii : c.toNat < 128) {d : ℕ}
    (h : digitValue? c = some d) : d < 10 ∧ c = digitChar d := by
  have all : ∀ n < 128, ∀ d ∈ digitValue? (Char.ofNat n), d < 10 ∧ Char.ofNat n = digitChar d := by
    decide
  rw [← Char.ofNat_toNat c] at h ⊢
  exact all c.toNat ascii d h

/-- No digit of any script comes next. -/
def Stops (rest : List Char) : Prop := ∀ c ∈ rest.head?, digitValue? c = none

theorem Stops.takeDigits_eq {rest : List Char} (stop : Stops rest) :
    takeDigits rest = ([], rest) := by
  cases rest with
  | nil => rfl
  | cons c rest => exact takeDigits_cons (stop c rfl) rest

theorem Stops.broken {rest : List Char} (stop : Stops rest) :
    ∀ c ∈ rest.head?, c.isDigit = false := by
  intro c first
  have none := stop c first
  unfold digitValue? at none
  split at none
  · cases none
  · next other => simpa using other

theorem takeDigits_eq {cs rest : List Char} {ds : List ℕ} (ascii : ∀ c ∈ cs, c.toNat < 128)
    (h : takeDigits cs = (ds, rest)) :
    cs = ds.map digitChar ++ rest ∧ (∀ d ∈ ds, d < 10) ∧ Stops rest := by
  induction cs generalizing ds with
  | nil =>
    cases h
    exact ⟨rfl, nofun, nofun⟩
  | cons c cs ih =>
    rw [takeDigits] at h
    cases digit : digitValue? c with
    | none =>
      rw [digit] at h
      cases h
      refine ⟨rfl, nofun, fun c' first => ?_⟩
      cases first
      exact digit
    | some d =>
      rw [digit] at h
      obtain ⟨small, rfl⟩ := digitValue?_eq_some (ascii c List.mem_cons_self) digit
      cases h
      obtain ⟨text, digits, stop⟩ := ih (fun c hc => ascii c (List.mem_cons_of_mem _ hc)) rfl
      refine ⟨congrArg (digitChar d :: ·) text, fun e he => ?_, stop⟩
      rcases List.mem_cons.1 he with rfl | he
      · exact small
      · exact digits e he

theorem runValue?_eq_some_iff {ds : List ℕ} {n : ℕ} :
    runValue? ds = some n ↔ ds.length ≤ longestRun ∧ value 10 ds = n := by
  unfold runValue?
  split
  · next short => simp [short, valueOf, value]
  · next long => simp [long]

theorem decimalValue_eq (n k : ℕ) (e : ℤ) :
    decimalValue n k e = (n / 10 ^ k : ℚ) * 10 ^ e := by
  unfold decimalValue
  split
  · next up =>
    lift e to ℕ using up
    rw [Rat.mkRat_eq_div]
    push_cast [Nat.pow_eq]
    simp
    ring
  · next down =>
    obtain ⟨j, rfl⟩ : ∃ j : ℕ, e = -j := ⟨e.natAbs, by omega⟩
    rw [Rat.mkRat_eq_div, zpow_neg, zpow_natCast]
    simp
    ring

theorem unsigned?_fraction_iff {cs rest after : List Char} {above below : List ℕ} {q : ℚ}
    (first : takeDigits cs = (above, '/' :: rest)) (nonempty : above ≠ [])
    (second : takeDigits rest = (below, after)) :
    unsigned? cs = some q ↔ below ≠ [] ∧ value 10 below ≠ 0 ∧ onlyBlanks after = true ∧
      above.length ≤ longestRun ∧ below.length ≤ longestRun ∧
      (value 10 above / value 10 below : ℚ) = q := by
  obtain ⟨d, ds, rfl⟩ := List.exists_cons_of_ne_nil nonempty
  rw [unsigned?, first]
  simp only [second, Option.bind_eq_bind, Option.bind_eq_some_iff, runValue?_eq_some_iff]
  constructor
  · rintro ⟨n, ⟨short, rfl⟩, m, ⟨short', rfl⟩, value⟩
    split at value
    · cases value
    · next regular =>
      simp only [not_or, Bool.not_eq_true', Bool.not_eq_false] at regular
      cases value
      exact ⟨regular.1, regular.2.1, regular.2.2, short, short', by simp [Rat.mkRat_eq_div]⟩
  · rintro ⟨nonempty', nonzero, blank, short, short', rfl⟩
    refine ⟨_, ⟨short, rfl⟩, _, ⟨short', rfl⟩, ?_⟩
    rw [if_neg (by simp [nonempty', nonzero, blank])]
    simp [Rat.mkRat_eq_div]

theorem unsigned?_decimal_iff {cs rest rest' : List Char} {whole places : List ℕ} {q : ℚ}
    (first : takeDigits cs = (whole, rest)) (other : whole ≠ [] → rest.head? ≠ some '/')
    (second : takeFractional rest = (places, rest')) :
    unsigned? cs = some q ↔ whole ++ places ≠ [] ∧ ∃ e after,
      takeExponent? rest' = some (e, after) ∧ onlyBlanks after = true ∧
      whole.length ≤ longestRun ∧ places.length ≤ longestRun ∧
      (value 10 (whole ++ places) / 10 ^ places.length * 10 ^ e : ℚ) = q := by
  have mantissa (e : ℤ) :
      decimalValue (value 10 whole * Nat.pow 10 places.length + value 10 places) places.length e =
        (value 10 (whole ++ places) / 10 ^ places.length * 10 ^ e : ℚ) := by
    rw [decimalValue_eq, value_append, Nat.pow_eq]
  rw [unsigned?, first]
  simp only [second, Option.bind_eq_bind]
  split
  · next d ds below => exact absurd rfl (other (List.cons_ne_nil d ds))
  · simp only [Option.ite_none_left_eq_some, Option.bind_eq_some_iff, runValue?_eq_some_iff,
      ne_eq, List.append_eq_nil_iff]
    refine and_congr_right fun _ => ?_
    constructor
    · rintro ⟨⟨e, after⟩, exponent, n, ⟨short, rfl⟩, m, ⟨short', rfl⟩, value⟩
      split at value
      · next blank =>
        rw [mantissa, Option.some.injEq] at value
        exact ⟨e, after, exponent, blank, short, short', value⟩
      · cases value
    · rintro ⟨e, after, exponent, blank, short, short', rfl⟩
      refine ⟨(e, after), exponent, _, ⟨short, rfl⟩, _, ⟨short', rfl⟩, ?_⟩
      rw [if_pos blank, mantissa]

theorem exists_sign (cs : List Char) :
    ∃ sign, Sign sign (takeSign cs).1 ∧ cs = sign ++ (takeSign cs).2 := by
  unfold takeSign
  split
  · exact ⟨_, .minus, rfl⟩
  · exact ⟨_, .plus, rfl⟩
  · exact ⟨_, .none, rfl⟩

theorem Sign.takeSign_eq {sign rest : List Char} {negative : Bool} (h : Sign sign negative)
    (unsigned : ∀ c ∈ rest.head?, c ≠ '-' ∧ c ≠ '+') :
    takeSign (sign ++ rest) = (negative, rest) := by
  cases h with
  | none =>
    cases rest with
    | nil => rfl
    | cons c rest => exact takeSign_of_ne (unsigned c rfl).1 (unsigned c rfl).2 rest
  | plus => rfl
  | minus => rfl

theorem Sign.others {sign : List Char} {negative : Bool} (h : Sign sign negative) :
    ∀ c ∈ sign, c.isDigit = false := by
  cases h with
  | none => nofun
  | plus => exact List.forall_mem_singleton.2 (by decide)
  | minus => exact List.forall_mem_singleton.2 (by decide)

theorem isBlank_of_mem : ∀ c ∈ asciiBlanks, isBlank c = true :=
  List.all_eq_true.1 (by decide)

theorem ne_of_mem_asciiBlanks : ∀ c ∈ asciiBlanks, c ≠ '.' ∧ c ≠ '/' ∧ c ≠ 'e' ∧ c ≠ 'E' := by
  simp [asciiBlanks]

theorem mem_asciiBlanks {c : Char} (ascii : c.toNat < 128) (blank : isBlank c = true) :
    c ∈ asciiBlanks := by
  have all : ∀ n < 128, isBlank (Char.ofNat n) = true → Char.ofNat n ∈ asciiBlanks := by decide
  rw [← Char.ofNat_toNat c] at blank ⊢
  exact all c.toNat ascii blank

theorem onlyBlanks_iff {cs : List Char} (ascii : ∀ c ∈ cs, c.toNat < 128) :
    onlyBlanks cs = true ↔ ∀ c ∈ cs, c ∈ asciiBlanks := by
  rw [onlyBlanks, List.all_eq_true]
  exact ⟨fun h c hc => mem_asciiBlanks (ascii c hc) (h c hc),
    fun h c hc => isBlank_of_mem c (h c hc)⟩

section
variable {cs : List Char} (blank : ∀ c ∈ cs, c ∈ asciiBlanks)
include blank

theorem others_of_blanks : ∀ c ∈ cs, c.isDigit = false := by
  have all : asciiBlanks.all (!·.isDigit) = true := by decide
  intro c hc
  simpa using List.all_eq_true.1 all c (blank c hc)

theorem stops_of_blanks : Stops cs := by
  have all : asciiBlanks.all (digitValue? · == none) = true := by decide
  intro c first
  simpa using List.all_eq_true.1 all c (blank c (List.mem_of_mem_head? first))

theorem onlyBlanks_of_blanks : onlyBlanks cs = true :=
  List.all_eq_true.2 fun c hc => isBlank_of_mem c (blank c hc)

end

section
variable {letter : Char} (power : letter = 'e' ∨ letter = 'E')
include power

theorem others_of_power {sign : List Char} {negative : Bool} (h : Sign sign negative) :
    ∀ c ∈ letter :: sign, c.isDigit = false := by
  rcases power with rfl | rfl <;> simpa using h.others

theorem takeExponent?_letter_iff {rest after after' : List Char} {ds : List ℕ} {e : ℤ}
    (second : takeDigits (takeSign rest).2 = (ds, after)) :
    takeExponent? (letter :: rest) = some (e, after') ↔ ds ≠ [] ∧ ds.length ≤ longestRun ∧
      (if (takeSign rest).1 then -(value 10 ds : ℤ) else value 10 ds) = e ∧ after = after' := by
  have read : takeExponent? (letter :: rest) = if ds = [] then none else
      (runValue? ds).map fun n => (if (takeSign rest).1 then -(n : ℤ) else n, after) := by
    rcases power with rfl | rfl <;> cases ds <;> simp [takeExponent?, second]
  rw [read]
  cases ds with
  | nil => simp
  | cons d ds =>
    rw [if_neg (List.cons_ne_nil d ds)]
    by_cases short : (d :: ds).length ≤ longestRun
    · have run : runValue? (d :: ds) = some (value 10 (d :: ds)) := runValue?_of_le short
      simp only [run, Option.bind_eq_bind, Option.bind_some, Option.pure_def, Option.map_some,
        Option.some.injEq, Prod.mk.injEq, ne_eq, reduceCtorEq, not_false_eq_true, true_and, short]
    · have run : runValue? (d :: ds) = none := if_neg short
      simp only [run, Option.bind_eq_bind, Option.bind_none, Option.map_none, reduceCtorEq, short,
        false_and, and_false]

end

theorem takeExponent?_absent {cs : List Char} (absent : ∀ c ∈ cs.head?, c ≠ 'e' ∧ c ≠ 'E') :
    takeExponent? cs = some (0, cs) := by
  unfold takeExponent?
  split
  · exact absurd rfl (absent 'e' rfl).1
  · exact absurd rfl (absent 'E' rfl).2
  · rfl

theorem exists_exponent {cs after : List Char} {e : ℤ} (ascii : ∀ c ∈ cs, c.toNat < 128)
    (h : takeExponent? cs = some (e, after)) :
    ∃ es, cs = es ++ after ∧ Exponent es e ∧ ShortRuns es := by
  by_cases power : ∃ letter rest, cs = letter :: rest ∧ (letter = 'e' ∨ letter = 'E')
  · obtain ⟨letter, rest, rfl, power⟩ := power
    obtain ⟨sign, optional, text⟩ := exists_sign rest
    rcases second : takeDigits (takeSign rest).2 with ⟨ds, after'⟩
    obtain ⟨nonempty, short, rfl, rfl⟩ := (takeExponent?_letter_iff power second).1 h
    have ascii' : ∀ c ∈ (takeSign rest).2, c.toNat < 128 := fun c hc =>
      ascii c (List.mem_cons_of_mem letter (text ▸ List.mem_append_right sign hc))
    obtain ⟨run, digits, -⟩ := takeDigits_eq ascii' second
    refine ⟨_, ?_, .present power optional digits nonempty, ?_⟩
    · rw [List.cons_append, List.append_assoc, ← run, ← text]
    · rw [← List.cons_append, shortRuns_append_left (others_of_power power optional),
        shortRuns_digits digits]
      exact short
  · have absent : ∀ c ∈ cs.head?, c ≠ 'e' ∧ c ≠ 'E' := by
      intro c first
      obtain ⟨rest, rfl⟩ := List.head?_eq_some_iff.1 first
      exact ⟨fun h => power ⟨c, rest, rfl, .inl h⟩, fun h => power ⟨c, rest, rfl, .inr h⟩⟩
    rw [takeExponent?_absent absent] at h
    cases h
    exact ⟨[], rfl, .absent, shortRuns_of_others nofun⟩

theorem Exponent.takeExponent?_eq {es after : List Char} {e : ℤ} (h : Exponent es e)
    (short : ShortRuns es) (blank : ∀ c ∈ after, c ∈ asciiBlanks) :
    takeExponent? (es ++ after) = some (e, after) := by
  cases h with
  | absent =>
    refine takeExponent?_absent fun c first => ?_
    exact (ne_of_mem_asciiBlanks c (blank c (List.mem_of_mem_head? first))).2.2
  | @present letter sign negative ds power optional digits nonempty =>
    obtain ⟨d, ds, rfl⟩ := List.exists_cons_of_ne_nil nonempty
    have apart : ∀ d < 10, digitChar d ≠ '-' ∧ digitChar d ≠ '+' := by decide
    have signed : takeSign (sign ++ ((d :: ds).map digitChar ++ after)) =
        (negative, (d :: ds).map digitChar ++ after) := by
      refine optional.takeSign_eq ?_
      rintro c ⟨⟩
      exact apart d (digits d List.mem_cons_self)
    have second := takeDigits_append digits (stops_of_blanks blank).takeDigits_eq
    rw [← List.cons_append, shortRuns_append_left (others_of_power power optional),
      shortRuns_digits digits] at short
    rw [List.cons_append, List.append_assoc]
    refine (takeExponent?_letter_iff power (by rw [signed]; exact second)).2
      ⟨List.cons_ne_nil d ds, short, ?_, rfl⟩
    rw [signed]

theorem exists_mantissa {cs rest rest' : List Char} {whole places : List ℕ}
    (ascii : ∀ c ∈ cs, c.toNat < 128) (first : takeDigits cs = (whole, rest))
    (second : takeFractional rest = (places, rest')) (nonempty : whole ++ places ≠ []) :
    ∃ ms, cs = ms ++ rest' ∧ Mantissa ms (value 10 (whole ++ places) / 10 ^ places.length) ∧
      (whole.length ≤ longestRun → places.length ≤ longestRun → ShortRuns ms) := by
  obtain ⟨text, digits, -⟩ := takeDigits_eq ascii first
  by_cases pointed : ∃ behind, rest = '.' :: behind
  · obtain ⟨behind, rfl⟩ := pointed
    have ascii' : ∀ c ∈ behind, c.toNat < 128 := fun c hc =>
      ascii c (text ▸ List.mem_append_right _ (List.mem_cons_of_mem _ hc))
    obtain ⟨text', digits', -⟩ := takeDigits_eq ascii' second
    refine ⟨_, ?_, .pointed (List.forall_mem_append.2 ⟨digits, digits'⟩) nonempty, ?_⟩
    · rw [List.append_assoc, List.cons_append, ← text', ← text]
    · intro short short'
      exact (shortRuns_apart (c := '.') (by decide) digits digits').2 ⟨short, short'⟩
  · have absent : takeFractional rest = ([], rest) := by
      unfold takeFractional
      split
      · exact absurd ⟨_, rfl⟩ pointed
      · rfl
    rw [absent] at second
    cases second
    rw [List.append_nil] at nonempty ⊢
    refine ⟨_, text, ?_, fun short _ => (shortRuns_digits digits).2 short⟩
    simpa using Mantissa.whole digits nonempty

theorem Mantissa.take_eq {ms rest : List Char} {m : ℚ} (h : Mantissa ms m) (short : ShortRuns ms)
    (stop : Stops rest) (ends : ∀ c ∈ rest.head?, c ≠ '.' ∧ c ≠ '/') :
    ∃ whole behind places, takeDigits (ms ++ rest) = (whole, behind) ∧
      takeFractional behind = (places, rest) ∧ behind.head? ≠ some '/' ∧ whole ++ places ≠ [] ∧
      whole.length ≤ longestRun ∧ places.length ≤ longestRun ∧
      value 10 (whole ++ places) / 10 ^ places.length = m := by
  cases h with
  | @whole ds digits nonempty =>
    refine ⟨ds, rest, [], takeDigits_append digits stop.takeDigits_eq, ?_, ?_, ?_, ?_⟩
    · unfold takeFractional
      split
      · exact absurd rfl (ends '.' rfl).1
      · rfl
    · exact fun slash => (ends '/' slash).2 rfl
    · rwa [List.append_nil]
    · exact ⟨(shortRuns_digits digits).1 short, Nat.zero_le _, by simp⟩
  | @pointed whole places digits nonempty =>
    obtain ⟨digits, digits'⟩ := List.forall_mem_append.1 digits
    obtain ⟨short, short'⟩ := (shortRuns_apart (c := '.') (by decide) digits digits').1 short
    have point : Stops ('.' :: (places.map digitChar ++ rest)) := by
      rintro c ⟨⟩
      decide
    refine ⟨whole, '.' :: (places.map digitChar ++ rest), places, ?_, ?_, ?_, nonempty, short,
      short', rfl⟩
    · rw [List.append_assoc, List.cons_append]
      exact takeDigits_append digits point.takeDigits_eq
    · exact takeDigits_append digits' stop.takeDigits_eq
    · rintro ⟨⟩

theorem Exponent.head {es after : List Char} {e : ℤ} (h : Exponent es e)
    (blank : ∀ c ∈ after, c ∈ asciiBlanks) :
    Stops (es ++ after) ∧ ∀ c ∈ (es ++ after).head?, c ≠ '.' ∧ c ≠ '/' := by
  cases h with
  | absent =>
    refine ⟨stops_of_blanks blank, fun c first => ?_⟩
    obtain ⟨point, bar, -⟩ := ne_of_mem_asciiBlanks c (blank c (List.mem_of_mem_head? first))
    exact ⟨point, bar⟩
  | present power =>
    refine ⟨?_, ?_⟩
    all_goals
      rintro c ⟨⟩
      rcases power with rfl | rfl <;> decide

theorem exists_magnitude {body : List Char} {q : ℚ} (ascii : ∀ c ∈ body, c.toNat < 128)
    (h : unsigned? body = some q) :
    ∃ cs after, body = cs ++ after ∧ Magnitude cs q ∧ (∀ c ∈ after, c ∈ asciiBlanks) ∧
      ShortRuns body := by
  rcases first : takeDigits body with ⟨whole, rest⟩
  obtain ⟨text, digits, -⟩ := takeDigits_eq ascii first
  have ascii' : ∀ c ∈ rest, c.toNat < 128 := fun c hc =>
    ascii c (text ▸ List.mem_append_right _ hc)
  by_cases bar : whole ≠ [] ∧ rest.head? = some '/'
  · obtain ⟨nonempty, slash⟩ := bar
    obtain ⟨behind, rfl⟩ := List.head?_eq_some_iff.1 slash
    rcases second : takeDigits behind with ⟨below, after⟩
    obtain ⟨nonempty', nonzero, blank, short, short', rfl⟩ :=
      (unsigned?_fraction_iff first nonempty second).1 h
    have ascii'' : ∀ c ∈ behind, c.toNat < 128 := fun c hc => ascii' c (List.mem_cons_of_mem _ hc)
    obtain ⟨text', digits', stop⟩ := takeDigits_eq ascii'' second
    have blanks := (onlyBlanks_iff fun c hc =>
      ascii'' c (text' ▸ List.mem_append_right _ hc)).1 blank
    have joint : body = (whole.map digitChar ++ '/' :: below.map digitChar) ++ after := by
      rw [List.append_assoc, List.cons_append, ← text', ← text]
    refine ⟨_, after, joint, ?_, blanks, ?_⟩
    · exact .fraction (List.forall_mem_append.2 ⟨digits, digits'⟩) nonempty nonempty' nonzero
    · rw [joint, shortRuns_append stop.broken, shortRuns_apart (by decide) digits digits']
      exact ⟨⟨short, short'⟩, shortRuns_of_others (others_of_blanks blanks)⟩
  · rcases second : takeFractional rest with ⟨places, rest'⟩
    obtain ⟨nonempty, e, after, power, blank, short, short', rfl⟩ :=
      (unsigned?_decimal_iff first (fun h h' => bar ⟨h, h'⟩) second).1 h
    obtain ⟨ms, text', mantissa, short₁⟩ := exists_mantissa ascii first second nonempty
    obtain ⟨es, rfl, exponent, short₂⟩ :=
      exists_exponent (fun c hc => ascii c (text' ▸ List.mem_append_right _ hc)) power
    have blanks := (onlyBlanks_iff fun c hc =>
      ascii c (text' ▸ List.mem_append_right _ (List.mem_append_right _ hc))).1 blank
    refine ⟨ms ++ es, after, by rw [text', List.append_assoc], .decimal mantissa exponent, blanks,
      ?_⟩
    rw [text', shortRuns_append (exponent.head blanks).1.broken,
      shortRuns_append (stops_of_blanks blanks).broken]
    exact ⟨short₁ short short', short₂, shortRuns_of_others (others_of_blanks blanks)⟩

theorem Magnitude.unsigned?_eq {cs after : List Char} {q : ℚ} (h : Magnitude cs q)
    (short : ShortRuns cs) (blank : ∀ c ∈ after, c ∈ asciiBlanks) :
    unsigned? (cs ++ after) = some q := by
  cases h with
  | @fraction above below digits nonempty nonempty' nonzero =>
    obtain ⟨digits, digits'⟩ := List.forall_mem_append.1 digits
    obtain ⟨short, short'⟩ := (shortRuns_apart (by decide) digits digits').1 short
    have slash : Stops ('/' :: (below.map digitChar ++ after)) := by
      rintro c ⟨⟩
      decide
    rw [List.append_assoc, List.cons_append]
    refine (unsigned?_fraction_iff (takeDigits_append digits slash.takeDigits_eq) nonempty
      (takeDigits_append digits' (stops_of_blanks blank).takeDigits_eq)).2 ?_
    exact ⟨nonempty', nonzero, onlyBlanks_of_blanks blank, short, short', rfl⟩
  | @decimal ms es m e mantissa exponent =>
    obtain ⟨stop, ends⟩ := exponent.head blank
    obtain ⟨stop', -⟩ : Stops (es ++ []) ∧ _ := exponent.head nofun
    rw [List.append_nil] at stop'
    obtain ⟨short, short'⟩ := (shortRuns_append stop'.broken).1 short
    obtain ⟨whole, behind, places, first, second, unbarred, nonempty, short, short'', rfl⟩ :=
      mantissa.take_eq short stop ends
    rw [List.append_assoc]
    exact (unsigned?_decimal_iff first (fun _ => unbarred) second).2 ⟨nonempty, e, after,
      exponent.takeExponent?_eq short' blank, onlyBlanks_of_blanks blank, short, short'', rfl⟩

theorem Magnitude.exists_cons {cs : List Char} {q : ℚ} (h : Magnitude cs q) :
    ∃ c rest, cs = c :: rest ∧ isBlank c = false ∧ c ≠ '-' ∧ c ≠ '+' := by
  have digit : ∀ d < 10, isBlank (digitChar d) = false ∧ digitChar d ≠ '-' ∧ digitChar d ≠ '+' := by
    decide
  cases h with
  | fraction digits nonempty =>
    obtain ⟨d, ds, rfl⟩ := List.exists_cons_of_ne_nil nonempty
    exact ⟨_, _, rfl, digit d (digits d List.mem_cons_self)⟩
  | decimal mantissa =>
    cases mantissa with
    | whole digits nonempty =>
      obtain ⟨d, ds, rfl⟩ := List.exists_cons_of_ne_nil nonempty
      exact ⟨_, _, rfl, digit d (digits d List.mem_cons_self)⟩
    | @pointed whole places digits nonempty =>
      cases whole with
      | nil => exact ⟨_, _, rfl, by decide⟩
      | cons d ds => exact ⟨_, _, rfl, digit d (digits d List.mem_cons_self)⟩

theorem ofChars?_eq_some_iff {cs : List Char} (ascii : ∀ c ∈ cs, c.toNat < 128) {q : ℚ} :
    ofChars? cs = some q ↔
      Spells (cs.filter (· ≠ '_')) q ∧ ShortRuns (cs.filter (· ≠ '_')) := by
  have ascii' : ∀ c ∈ cs.filter (· ≠ '_'), c.toNat < 128 := fun c hc =>
    ascii c (List.mem_filter.1 hc).1
  rw [ofChars?]
  generalize cs.filter (· ≠ '_') = joined at ascii' ⊢
  constructor
  · intro h
    obtain ⟨m, read, rfl⟩ := Option.map_eq_some_iff.1 h
    obtain ⟨sign, optional, text⟩ := exists_sign (joined.dropWhile isBlank)
    have whole := List.takeWhile_append_dropWhile (p := isBlank) (l := joined)
    have before : ∀ c ∈ joined.takeWhile isBlank, c ∈ asciiBlanks := fun c hc =>
      mem_asciiBlanks (ascii' c (whole ▸ List.mem_append_left _ hc)) (List.mem_takeWhile_imp hc)
    have ascii'' : ∀ c ∈ (takeSign (joined.dropWhile isBlank)).2, c.toNat < 128 := fun c hc =>
      ascii' c (whole ▸ List.mem_append_right _ (text ▸ List.mem_append_right sign hc))
    obtain ⟨body, after, text', magnitude, blank, short⟩ := exists_magnitude ascii'' read
    have runs : ShortRuns joined := by
      rw [← whole, text, shortRuns_append_left (others_of_blanks before),
        shortRuns_append_left optional.others]
      exact short
    have spelled := Spells.signed (List.forall_mem_append.2 ⟨before, blank⟩) optional magnitude
    rw [← text', ← text, whole] at spelled
    exact ⟨spelled, runs⟩
  · rintro ⟨spells, short⟩
    cases spells with
    | @signed before sign body after negative m blank optional magnitude =>
      obtain ⟨blank, blank'⟩ := List.forall_mem_append.1 blank
      obtain ⟨c, rest, rfl, solid, minus, plus⟩ := magnitude.exists_cons
      rw [shortRuns_append_left (others_of_blanks blank), shortRuns_append_left optional.others,
        shortRuns_append (stops_of_blanks blank').broken] at short
      have dropped : (before ++ (sign ++ (c :: rest ++ after))).dropWhile isBlank =
          sign ++ (c :: rest ++ after) := by
        rw [List.dropWhile_append_of_pos fun c hc => isBlank_of_mem c (blank c hc)]
        cases optional with
        | none => simp [solid]
        | plus => rfl
        | minus => rfl
      have signed : takeSign (sign ++ (c :: rest ++ after)) = (negative, c :: rest ++ after) := by
        refine optional.takeSign_eq ?_
        rintro c' ⟨⟩
        exact ⟨minus, plus⟩
      rw [dropped, signed]
      simp only [magnitude.unsigned?_eq short.1 blank', Option.map_some]

end Literal

namespace Number
open Literal

theorem ofLiteral_eq_ok_iff {text : String} {x : Number} :
    ofLiteral text = .ok x ↔ ∃ q, value? text = some q ∧ x = ofRat q := by
  rw [ofLiteral]
  cases value? text <;> simp [eq_comm]

theorem ofLiteral_eq_error_iff {text : String} {f : Failure} :
    ofLiteral text = .error f ↔ f = .invalidLiteral text ∧ ∀ q, value? text ≠ some q := by
  rw [ofLiteral]
  cases value? text <;> simp [eq_comm]

theorem eq_ofRat_iff {x : Number} {q : ℚ} :
    x = ofRat q ↔ x.value = .ofRat q ∧ x.approx = false ∧ x.style = .auto ∧ x.base = .decimal := by
  constructor
  · rintro rfl
    exact ⟨rfl, rfl, rfl, rfl⟩
  · obtain ⟨_, _, _, _, _⟩ := x
    rintro ⟨rfl, rfl, rfl, rfl⟩
    rfl

/-- A literal of ASCII characters is read if, without its underscores, it spells a rational and
no run of its digits is too long. What is read is that rational, exact, in the style and the
base that nothing was said about. All other texts are invalid literals. -/
theorem ofLiteral_iff_spells {text : String} (ascii : ∀ c ∈ text.toList, c.toNat < 128) :
    let joined := text.toList.filter (· ≠ '_')
    (∀ x, ofLiteral text = .ok x ↔ ShortRuns joined ∧ ∃ q, Spells joined q ∧
      x.value = .ofRat q ∧ x.approx = false ∧ x.style = .auto ∧ x.base = .decimal) ∧
    (∀ f, ofLiteral text = .error f ↔
      f = .invalidLiteral text ∧ ¬(ShortRuns joined ∧ ∃ q, Spells joined q)) ∧
    (Failure.invalidLiteral text).family = .number := by
  intro joined
  have reads (q : ℚ) : value? text = some q ↔ Spells joined q ∧ ShortRuns joined :=
    ofChars?_eq_some_iff ascii
  refine ⟨fun x => ?_, fun f => ?_, rfl⟩
  · simp only [ofLiteral_eq_ok_iff, reads, eq_ofRat_iff]
    constructor
    · rintro ⟨q, ⟨spells, short⟩, plain⟩
      exact ⟨short, q, spells, plain⟩
    · rintro ⟨short, q, spells, plain⟩
      exact ⟨q, ⟨spells, short⟩, plain⟩
  · simp only [ofLiteral_eq_error_iff, ne_eq, reads]
    refine and_congr_right fun _ => ?_
    constructor
    · rintro unread ⟨short, q, spells⟩
      exact unread q ⟨spells, short⟩
    · rintro unread q ⟨spells, short⟩
      exact unread ⟨short, q, spells⟩

theorem ofLiteral_iff_spells_scattered :
    (∀ c ∈ "\t-_1_2.5e-1_0 ".toList, c.toNat < 128) ∧
    ∃ x, ofLiteral "\t-_1_2.5e-1_0 " = .ok x ∧ x.value = .ofRat (-1 / 800000000) := by
  have all : ("\t-_1_2.5e-1_0 ".toList.all (·.toNat < 128)) = true := by decide +kernel
  have ascii : ∀ c ∈ "\t-_1_2.5e-1_0 ".toList, c.toNat < 128 := fun c hc =>
    of_decide_eq_true (List.all_eq_true.1 all c hc)
  have mantissa := @Mantissa.pointed [1, 2] [5] (by decide) (by decide)
  have exponent := @Exponent.present 'e' ['-'] true [1, 0] (.inl rfl) .minus (by decide) (by decide)
  have spells : Spells ("\t-_1_2.5e-1_0 ".toList.filter (· ≠ '_')) (-1 / 800000000) := by
    convert @Spells.signed ['\t'] ['-'] _ [' '] true _ (by simp [asciiBlanks]) .minus
      (.decimal mantissa exponent) using 1
    · decide +kernel
    · norm_num [Positional.value]
  have short : ShortRuns ("\t-_1_2.5e-1_0 ".toList.filter (· ≠ '_')) :=
    shortRuns_of_length (by decide +kernel)
  exact ⟨ascii, ofRat (-1 / 800000000), ((ofLiteral_iff_spells ascii).1 _).2
    ⟨short, _, spells, rfl, rfl, rfl, rfl⟩, rfl⟩

end Number
end Calculator
