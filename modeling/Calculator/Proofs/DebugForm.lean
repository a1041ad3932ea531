import Calculator.Tree
import Calculator.Text.DecimalDigit
import Mathlib.Data.List.TakeWhile

/-! The debug form is read in only one way. `read?` reads it back, where every juxtaposition is
taken for a call: a product side by side is written like a call, and the juxtaposition that
decides by its left side like a call with brackets around its operand. Up to these two, trees
with the same text are equal. A factorial has no brackets of its own, so whatever is read is read
together with the factorial marks behind it. -/

namespace Calculator

namespace Tree

/-- Two operands, side by side only in a call. -/
def asCall : Binary → Tree → Tree → Tree
  | .juxtaposition .implicit, l, r => .binary (.juxtaposition .call) l (.unary .parens r)
  | .juxtaposition .multiply, l, r => .binary (.juxtaposition .call) l r
  | op, l, r => .binary op l r

/-- The tree with every juxtaposition as a call. -/
def asCalls : Tree → Tree
  | literal t => .literal t
  | identifier n => .identifier n
  | unary op t => .unary op t.asCalls
  | binary op l r => asCall op l.asCalls r.asCalls

theorem format_asCall (op : Binary) (l r : Tree) :
    (asCall op l r).format = (binary op l r).format := by
  match op with
  | .arithmetic _ | .conversion | .juxtaposition .call | .juxtaposition .multiply => rfl
  | .juxtaposition .implicit =>
    refine String.toList_inj.1 ?_
    simp [asCall, format, Binary.around, Unary.around]

theorem format_asCalls (t : Tree) : t.asCalls.format = t.format := by
  induction t with
  | literal t => rfl
  | identifier n => rfl
  | unary op t ih => rw [asCalls, format, ih, format]
  | binary op l r ihl ihr => rw [asCalls, format_asCall, format, ihl, ihr, format]

namespace DebugForm

/-- The characters that the debug form puts around literals and identifiers. -/
def marks : List Char := ['(', ')', '+', '-', '*', '/', '^', '!', ' ']

def startsWithDigit : List Char → Bool
  | c :: _ => Text.isDecimalDigit c
  | [] => false

def leaf (cs : List Char) : Tree :=
  if startsWithDigit cs then .literal (String.ofList cs) else .identifier (String.ofList cs)

/-- The factorials of a tree whose marks stand at the front of a text, and what follows. -/
def factorials (t : Tree) : List Char → Tree × List Char
  | '!' :: rest => factorials (.unary .factorial t) rest
  | rest => (t, rest)

def front? : List Char → Option (Unary × List Char)
  | '-' :: cs => some (.negate, cs)
  | '+' :: cs => some (.plus, cs)
  | '/' :: cs => some (.reciprocal, cs)
  | _ => none

def between? : List Char → Option (Binary × List Char)
  | '+' :: cs => some (.arithmetic .add, cs)
  | '-' :: cs => some (.arithmetic .sub, cs)
  | '*' :: cs => some (.arithmetic .mul, cs)
  | '/' :: cs => some (.arithmetic .div, cs)
  | '^' :: cs => some (.arithmetic .pow, cs)
  | ' ' :: 'a' :: 's' :: ' ' :: cs => some (.conversion, cs)
  | ' ' :: cs => some (.juxtaposition .call, cs)
  | _ => none

def closed? (f : Tree → Tree) : Option (Tree × List Char) → Option (Tree × List Char)
  | some (t, ')' :: rest) => some (f t, rest)
  | _ => none

def group? (read? : List Char → Option (Tree × List Char)) (cs : List Char) :
    Option (Tree × List Char) :=
  match front? cs with
  | some (op, cs) => closed? (.unary op) (read? cs)
  | none =>
    match read? cs with
    | none => none
    | some (l, cs) =>
      match between? cs with
      | some (op, cs) => closed? (.binary op l) (read? cs)
      | none => closed? (.unary .parens) (some (l, cs))

/-- The tree at the front of a text, and what follows. -/
def read? : Nat → List Char → Option (Tree × List Char)
  | 0, _ => none
  | n + 1, '(' :: cs => (group? (read? n) cs).map fun (t, rest) => factorials t rest
  | _ + 1, cs => some (factorials (leaf (cs.takeWhile (· ∉ marks))) (cs.dropWhile (· ∉ marks)))

/-- No literal and no identifier goes on into the text. -/
def Stops (rest : List Char) : Prop := ∀ c ∈ rest.head?, c ∈ marks

theorem stops_nil : Stops [] := nofun

theorem stops_cons {c : Char} (mark : c ∈ marks) (rest : List Char) : Stops (c :: rest) := by
  rintro d ⟨⟩
  exact mark

theorem factorials_of_ne {c : Char} (other : c ≠ '!') (t : Tree) (rest : List Char) :
    factorials t (c :: rest) = (t, c :: rest) := by
  unfold factorials
  split
  · next first => exact absurd (List.cons.inj first).1 other
  · rfl

section
variable {word rest : List Char}

theorem takeWhile_word (bare : ∀ c ∈ word, c ∉ marks) (stops : Stops rest) :
    (word ++ rest).takeWhile (· ∉ marks) = word := by
  rw [List.takeWhile_append_of_pos (by simpa using bare)]
  cases rest with
  | nil => simp
  | cons c rest => simp [stops c rfl]

theorem dropWhile_word (bare : ∀ c ∈ word, c ∉ marks) (stops : Stops rest) :
    (word ++ rest).dropWhile (· ∉ marks) = rest := by
  rw [List.dropWhile_append_of_pos (by simpa using bare)]
  cases rest with
  | nil => simp
  | cons c rest => simp [stops c rfl]

end

/-- A text is read as a tree, wherever it stands. In brackets and behind a blank it is not taken
for something else. -/
structure Spells (t : Tree) (cs : List Char) : Prop where
  read : ∀ n rest, cs.length ≤ n → Stops rest → read? n (cs ++ rest) = some (factorials t rest)
  inside : ∀ rest, front? (cs ++ rest) = none
  behind : ∀ rest, Stops rest →
    between? (' ' :: (cs ++ rest)) = some (.juxtaposition .call, cs ++ rest)

theorem spells_leaf {word : List Char} (bare : ∀ c ∈ word, c ∉ marks) (nonempty : word ≠ [])
    (other : word ≠ ['a', 's']) : Spells (leaf word) word := by
  obtain ⟨c, cs, rfl⟩ := List.exists_cons_of_ne_nil nonempty
  have first (d : Char) (mark : d ∈ marks) : c ≠ d := by
    rintro rfl
    exact bare c List.mem_cons_self mark
  constructor
  case read =>
    intro n rest fuel stops
    obtain ⟨m, rfl⟩ := Nat.exists_eq_succ_of_ne_zero (n := n) (by rintro rfl; simp at fuel)
    rw [read?, takeWhile_word bare stops, dropWhile_word bare stops]
    rintro ds same
    exact first '(' (by decide) (List.cons.inj same).1
  case inside =>
    intro rest
    simp [front?, first '-' (by decide), first '+' (by decide), first '/' (by decide)]
  case behind =>
    -- Only the word `as` could be taken for the middle of a conversion.
    intro rest stops
    have conversion (ds : List Char) : c :: cs ++ rest ≠ 'a' :: 's' :: ' ' :: ds := by
      intro same
      have word := takeWhile_word bare stops
      rw [same] at word
      exact other (word.symm.trans (by simp [marks]))
    rw [between?]
    exact conversion

theorem Spells.factorial {t : Tree} {cs : List Char} (h : Spells t cs) :
    Spells (.unary .factorial t) (cs ++ ['!']) where
  read n rest fuel stops := by
    rw [List.length_append] at fuel
    rw [← List.append_cons, h.read n ('!' :: rest) (by omega) (stops_cons (by decide) rest)]
    rfl
  inside rest := by
    rw [List.append_assoc]
    exact h.inside _
  behind rest stops := by
    rw [List.append_assoc]
    exact h.behind _ (stops_cons (by decide) rest)

theorem spells_group {t : Tree} {cs : List Char}
    (read : ∀ n rest, cs.length ≤ n → group? (read? n) (cs ++ rest) = some (t, rest)) :
    Spells t ('(' :: cs) where
  read n rest fuel stops := by
    match n with
    | 0 => simp at fuel
    | n + 1 =>
      rw [List.cons_append, read?, read n rest (Nat.le_of_succ_le_succ fuel)]
      rfl
  inside rest := rfl
  behind rest stops := rfl

theorem Spells.front {t : Tree} {cs : List Char} (h : Spells t cs) {c : Char} {op : Unary}
    (mark : ∀ ds, front? (c :: ds) = some (op, ds)) :
    Spells (.unary op t) ('(' :: c :: (cs ++ [')'])) := by
  refine spells_group fun n rest fuel => ?_
  rw [List.length_cons, List.length_append] at fuel
  have read := h.read n (')' :: rest) (by omega) (stops_cons (by decide) rest)
  rw [factorials_of_ne (by decide)] at read
  rw [List.cons_append, List.append_assoc, group?, mark]
  simp [read, closed?]

theorem Spells.parens {t : Tree} {cs : List Char} (h : Spells t cs) :
    Spells (.unary .parens t) ('(' :: (cs ++ [')'])) := by
  refine spells_group fun n rest fuel => ?_
  rw [List.length_append] at fuel
  have read := h.read n (')' :: rest) (by omega) (stops_cons (by decide) rest)
  rw [factorials_of_ne (by decide)] at read
  have last : between? (')' :: rest) = none := rfl
  rw [List.append_assoc, group?, h.inside]
  simp [read, last, closed?]

theorem Spells.between {l r : Tree} {cs ds : List Char} (left : Spells l cs) (right : Spells r ds)
    {c : Char} (sep : List Char) {op : Binary} (mark : c ∈ marks) (other : c ≠ '!')
    (found : ∀ rest, Stops rest → between? (c :: sep ++ (ds ++ rest)) = some (op, ds ++ rest)) :
    Spells (.binary op l r) ('(' :: (cs ++ (c :: sep ++ (ds ++ [')'])))) := by
  refine spells_group fun n rest fuel => ?_
  simp only [List.length_append, List.length_cons] at fuel
  have stops := stops_cons (c := ')') (by decide) rest
  have first := left.read n (c :: sep ++ (ds ++ ')' :: rest)) (by omega) (stops_cons mark _)
  have second := right.read n (')' :: rest) (by omega) stops
  rw [List.cons_append, factorials_of_ne other, ← List.cons_append] at first
  rw [factorials_of_ne (by decide)] at second
  have text : cs ++ (c :: sep ++ (ds ++ [')'])) ++ rest =
      cs ++ (c :: sep ++ (ds ++ ')' :: rest)) := by simp
  rw [text, group?, left.inside]
  simp only [first, found _ stops, second, closed?]

end DebugForm

open DebugForm in
/-- Literals begin with a digit and identifiers with another character, such as a letter. None
of them has a character of the debug form in it, and no identifier is the word between the
operands of a conversion. -/
def isLegible : Tree → Bool
  | literal t => startsWithDigit t.toList && t.toList.all (· ∉ marks)
  | identifier n =>
    n ≠ "" && n ≠ "as" && !startsWithDigit n.toList && n.toList.all (· ∉ marks)
  | unary _ t => t.isLegible
  | binary _ l r => l.isLegible && r.isLegible

namespace DebugForm

theorem spells_literal {t : String} (legible : (literal t).isLegible = true) :
    Spells (literal t) t.toList := by
  simp only [isLegible, Bool.and_eq_true, List.all_eq_true, decide_eq_true_eq] at legible
  have leaf : leaf t.toList = literal t := by simp [leaf, legible.1]
  rw [← leaf]
  refine spells_leaf legible.2 ?_ ?_
  · intro none
    simp [none, startsWithDigit] at legible
  · intro word
    rw [word] at legible
    exact absurd legible.1 (by decide)

theorem spells_identifier {n : String} (legible : (identifier n).isLegible = true) :
    Spells (identifier n) n.toList := by
  simp only [isLegible, Bool.and_eq_true, List.all_eq_true, decide_eq_true_eq] at legible
  obtain ⟨⟨⟨nonempty, other⟩, letter⟩, bare⟩ := legible
  have leaf : leaf n.toList = identifier n := by
    simp [leaf, Bool.not_eq_true' _ ▸ letter]
  rw [← leaf]
  refine spells_leaf bare ?_ ?_
  · intro none
    exact nonempty (String.toList_inj.1 none)
  · intro word
    exact other (String.toList_inj.1 word)

theorem spells_unary {t : Tree} {s : String} (op : Unary) (h : Spells t s.toList) :
    Spells (unary op t) (op.around s).toList := by
  cases op with
  | parens => simpa [Unary.around] using h.parens
  | negate => simpa [Unary.around] using h.front (c := '-') fun _ => rfl
  | plus => simpa [Unary.around] using h.front (c := '+') fun _ => rfl
  | reciprocal => simpa [Unary.around] using h.front (c := '/') fun _ => rfl
  | factorial => simpa [Unary.around] using h.factorial

theorem exists_symbol (op : Arithmetic) : ∃ c, op.symbol.toList = [c] ∧ c ∈ marks ∧ c ≠ '!' ∧
    ∀ ds, between? (c :: ds) = some (.arithmetic op, ds) := by
  cases op with
  | add => exact ⟨'+', rfl, by decide, by decide, fun _ => rfl⟩
  | sub => exact ⟨'-', rfl, by decide, by decide, fun _ => rfl⟩
  | mul => exact ⟨'*', rfl, by decide, by decide, fun _ => rfl⟩
  | div => exact ⟨'/', rfl, by decide, by decide, fun _ => rfl⟩
  | pow => exact ⟨'^', rfl, by decide, by decide, fun _ => rfl⟩

theorem spells_asCall {l r : Tree} {s t : String} (op : Binary) (left : Spells l s.toList)
    (right : Spells r t.toList) : Spells (asCall op l r) (op.around s t).toList := by
  have call {u : Tree} {cs : List Char} (h : Spells u cs) :=
    left.between h (c := ' ') [] (by decide) (by decide) h.behind
  match op with
  | .arithmetic op =>
    obtain ⟨c, symbol, mark, other, found⟩ := exists_symbol op
    have h := left.between right [] mark other fun rest _ => found (t.toList ++ rest)
    simpa [asCall, Binary.around, symbol] using h
  | .conversion =>
    have h := left.between right (c := ' ') ['a', 's', ' '] (by decide) (by decide)
      fun rest _ => rfl
    simpa [asCall, Binary.around] using h
  | .juxtaposition .call => simpa [asCall, Binary.around] using call right
  | .juxtaposition .multiply => simpa [asCall, Binary.around] using call right
  | .juxtaposition .implicit => simpa [asCall, Binary.around] using call right.parens

theorem spells_asCalls {t : Tree} (legible : t.isLegible = true) :
    Spells t.asCalls t.format.toList := by
  induction t with
  | literal t => exact spells_literal legible
  | identifier n => exact spells_identifier legible
  | unary op t ih => exact spells_unary op (ih legible)
  | binary op l r ihl ihr =>
    obtain ⟨left, right⟩ := Bool.and_eq_true_iff.1 legible
    exact spells_asCall op (ihl left) (ihr right)

theorem read?_format {t : Tree} (legible : t.isLegible = true) :
    read? t.format.length t.format.toList = some (t.asCalls, []) := by
  have read := (spells_asCalls legible).read t.format.length [] String.length_toList.le stops_nil
  rwa [List.append_nil] at read

end DebugForm

theorem format_eq_format_iff {s t : Tree} (legible₁ : s.isLegible = true)
    (legible₂ : t.isLegible = true) : s.format = t.format ↔ s.asCalls = t.asCalls := by
  constructor
  · intro same
    have read₁ := DebugForm.read?_format legible₁
    have read₂ := DebugForm.read?_format legible₂
    rw [same, read₂] at read₁
    exact (Prod.mk.inj (Option.some.inj read₁)).1.symm
  · intro same
    rw [← format_asCalls s, same, format_asCalls t]

/-- `(sin (2.5!))` may be a call of brackets or a juxtaposition. -/
theorem format_eq_format_iff_sin :
    let operand : Tree := .unary .factorial (.literal "2.5")
    let s : Tree := .binary (.juxtaposition .implicit) (.identifier "sin") operand
    let t : Tree := .binary (.juxtaposition .multiply) (.identifier "sin") (.unary .parens operand)
    s.isLegible = true ∧ t.isLegible = true ∧ (s.format = t.format ↔ s.asCalls = t.asCalls) ∧
      s.asCalls = t.asCalls :=
  ⟨by decide, by decide, format_eq_format_iff (by decide) (by decide), by decide⟩

end Tree
end Calculator
