import Calculator.Proofs.Positional
import Calculator.Tree.Encoding

/-! Trees as plain data, as a grammar. `Encodes` says which data stands for which tree, without
reading it. Reading finds exactly these trees, among them every tree from its own encoding, and
otherwise reports the first node, in pre-order, that is out of shape by itself. -/

namespace Calculator

namespace Positional

theorem exists_chars_eq_cons (n : Nat) : ∃ c cs, chars 10 n = c :: cs ∧ c.isDigit = true := by
  cases first : digits 10 n with
  | nil => exact absurd first (digits_ne_nil 10 n)
  | cons d ds =>
    have small : d < 10 := lt_of_mem_digits (by omega) (first ▸ List.mem_cons_self)
    exact ⟨digitChar d, ds.map digitChar, by rw [chars, first, List.map_cons],
      isDigit_digitChar small⟩

end Positional

namespace Binary64
open Positional

theorem exists_layout_eq_cons (x : Scaled) : ∃ c cs, layout x = c :: cs ∧ c.isDigit = true := by
  obtain ⟨c, cs, first, digit⟩ := exists_chars_eq_cons x.coefficient
  simp only [layout, first]
  split
  · split
    · exact ⟨'0', _, rfl, by decide⟩
    · next after =>
      obtain ⟨p, point⟩ : ∃ p, (x.exponent + ↑(c :: cs).length).toNat = p + 1 :=
        Nat.exists_eq_succ_of_ne_zero (by omega)
      simp only [point]
      split
      · exact ⟨c, _, rfl, digit⟩
      · exact ⟨c, _, rfl, digit⟩
  · cases cs with
    | nil => exact ⟨c, _, rfl, digit⟩
    | cons d rest => exact ⟨c, _, rfl, digit⟩

end Binary64

namespace Tag

theorem mem_all (t : Tag) : t ∈ all := by
  cases t with
  | literal => decide
  | identifier => decide
  | unary op => cases op <;> decide
  | binary op =>
    cases op with
    | arithmetic op => cases op <;> decide
    | juxtaposition form => cases form <;> decide
    | conversion => decide

theorem ofText?_text (t : Tag) : ofText? t.text = some t := by
  have back : ∀ t ∈ all, ofText? t.text = some t := by decide +kernel
  exact back t t.mem_all

theorem ofText?_eq_some_iff {s : String} {t : Tag} : ofText? s = some t ↔ s = t.text := by
  refine ⟨fun h => ?_, fun h => h ▸ t.ofText?_text⟩
  have found := List.find?_some h
  exact (of_decide_eq_true found).symm

theorem text_ne {t : Tag} {s : String} (other : s = "nan" ∨ s = "inf" ∨
    ∃ c cs, s.toList = c :: cs ∧ c.isLower = false) : s ≠ t.text := by
  have words : ∀ t ∈ all, t.text ≠ "nan" ∧ t.text ≠ "inf" ∧
      (t.text.toList.head?.all Char.isLower) = true := by decide +kernel
  obtain ⟨nan, inf, small⟩ := words t t.mem_all
  rintro rfl
  obtain h | h | ⟨c, cs, first, large⟩ := other
  · exact nan h
  · exact inf h
  · rw [first, List.head?_cons, Option.all_some, large] at small
    cases small

end Tag

namespace Scalar

theorem isLower_of_isDigit {c : Char} (digit : c.isDigit = true) : c.isLower = false := by
  have most : c ≤ '9' := by
    simp only [Char.isDigit, Bool.and_eq_true, decide_eq_true_eq] at digit
    exact digit.2
  refine Bool.eq_false_iff.2 fun small => ?_
  have least : 'a' ≤ c := of_decide_eq_true (Bool.and_eq_true_iff.1 small).1
  exact absurd (Char.le_trans least most) (by decide)

theorem plain_eq_text_iff {key : Scalar} {t : Tag} : key.plain = t.text ↔ key = .text t.text := by
  refine ⟨fun h => ?_, fun h => h ▸ rfl⟩
  cases key with
  | text s => exact congrArg Scalar.text h
  | null => exact absurd h (Tag.text_ne (.inr (.inr ⟨'N', _, rfl, by decide⟩)))
  | bool b =>
    cases b with
    | true => exact absurd h (Tag.text_ne (.inr (.inr ⟨'T', _, rfl, by decide⟩)))
    | false => exact absurd h (Tag.text_ne (.inr (.inr ⟨'F', _, rfl, by decide⟩)))
  | int n =>
    obtain ⟨c, cs, first, digit⟩ := Positional.exists_chars_eq_cons n.natAbs
    refine absurd h (Tag.text_ne (.inr (.inr ?_)))
    simp only [plain, display, Positional.decimal, Positional.text]
    split
    · exact ⟨'-', _, String.toList_append, by decide⟩
    · exact ⟨c, cs, by rw [String.toList_ofList, first], isLower_of_isDigit digit⟩
  | float x =>
    refine absurd h (Tag.text_ne ?_)
    cases x with
    | nan => exact .inl rfl
    | infinite negative =>
      cases negative with
      | true => exact .inr (.inr ⟨'-', _, rfl, by decide⟩)
      | false => exact .inr (.inl rfl)
    | finite negative m e =>
      obtain ⟨c, cs, first, digit⟩ := Binary64.exists_layout_eq_cons (Binary64.shortest m e)
      refine .inr (.inr ?_)
      simp only [plain, display, Binary64.text, String.toList_ofList, first]
      cases negative with
      | true => exact ⟨'-', _, rfl, by decide⟩
      | false =>
        by_cases zero : m = 0
        · exact ⟨'0', _, by simp [zero]; rfl, by decide⟩
        · exact ⟨c, cs, by simp [zero], isLower_of_isDigit digit⟩

theorem eq_text_of_ofText? {key : Scalar} {t : Tag} (h : Tag.ofText? key.plain = some t) :
    key = .text t.text := plain_eq_text_iff.1 (Tag.ofText?_eq_some_iff.1 h)

end Scalar

namespace Tree

/-- The grammar: which tree data stands for. What becomes the text of a literal or the name of an
identifier has to be short enough to be written out. -/
inductive Encodes : Data → Tree → Prop
  | int {n : Int} : (Scalar.int n).isWritable = true →
    Encodes (.scalar (.int n)) (literal (Scalar.int n).plain)
  | float (x : Binary64) : Encodes (.scalar (.float x)) (literal (Scalar.float x).plain)
  | text (s : String) : Encodes (.scalar (.text s)) (identifier s)
  | literal {body : Data} : body.isWritable = true →
    Encodes (tagged .literal body) (literal body.plain)
  | identifier {body : Data} : body.isWritable = true →
    Encodes (tagged .identifier body) (identifier body.plain)
  | unary {op : Unary} {d : Data} {t : Tree} : Encodes d t →
    Encodes (tagged (.unary op) d) (unary op t)
  | binary {op : Binary} {d e : Data} {l r : Tree} : Encodes d l → Encodes e r →
    Encodes (tagged (.binary op) (.list [d, e])) (binary op l r)

/-- The nodes that data has as a tree, in pre-order. -/
def nodes : Data → List Data
  | .mapping [(.text tag, body)] =>
    .mapping [(.text tag, body)] ::
      match Tag.ofText? tag with
      | some (.unary _) => nodes body
      | some (.binary _) =>
        match body with
        | .list [left, right] => nodes left ++ nodes right
        | _ => []
      | _ => []
  | d => [d]

/-- What is wrong where data is to be written out. -/
def reported (d : Data) (m? : Option Malformed) : Option Malformed :=
  if d.isWritable then m? else some .unwritable

/-- What is wrong with a node by itself, whatever its operands are. -/
def offence? : Data → Option Malformed
  | .scalar (.bool b) => some (.boolean b)
  | .scalar (.int n) => reported (.scalar (.int n)) none
  | .scalar .null => reported (.scalar .null) (some (.shape (.scalar .null)))
  | .scalar _ => none
  | .list items => reported (.list items) (some (.shape (.list items)))
  | .mapping [(.text tag, body)] =>
    match Tag.ofText? tag, body with
    | none, _ => reported (.scalar (.text tag)) (some (.unknownTag tag))
    | some (.binary _), .list [_, _] => none
    | some (.binary _), body => reported body (some (.operands tag body))
    | some (.unary _), _ => none
    | some _, body => reported body none
  | .mapping [(key, _)] => reported (.scalar key) (some (.unknownTag key.plain))
  | .mapping entries => reported (.mapping entries) (some (.shape (.mapping entries)))

def fault? : Except Malformed Tree → Option Malformed
  | .ok _ => none
  | .error m => some m

@[simp] theorem fault?_ok (t : Tree) : fault? (.ok t) = none := rfl
@[simp] theorem fault?_error (m : Malformed) : fault? (.error m) = some m := rfl

theorem written_eq_ok_iff {d : Data} {e : Except Malformed Tree} {t : Tree} :
    written d e = .ok t ↔ d.isWritable = true ∧ e = .ok t := by
  rw [written]
  split_ifs with short <;> simp [short]

@[simp] theorem fault?_written (d : Data) (e : Except Malformed Tree) :
    fault? (written d e) = reported d (fault? e) := by
  rw [written, reported]
  split_ifs <;> rfl

theorem ofData_of_encodes {d : Data} {t : Tree} (h : Encodes d t) : ofData d = .ok t := by
  induction h with
  | int short => rw [ofData, written_eq_ok_iff]; exact ⟨short, rfl⟩
  | float x => rfl
  | text s => rfl
  | literal short =>
    simp only [ofData, tagged, Scalar.plain, Tag.ofText?_text, written_eq_ok_iff, short, and_self]
  | identifier short =>
    simp only [ofData, tagged, Scalar.plain, Tag.ofText?_text, written_eq_ok_iff, short, and_self]
  | unary _ ih =>
    simp only [ofData, tagged, Scalar.plain, Tag.ofText?_text, ih]
    rfl
  | binary _ _ ihl ihr =>
    simp only [ofData, tagged, Scalar.plain, Tag.ofText?_text, ihl, ihr]
    rfl

theorem encodes_of_ofData {d : Data} {t : Tree} (h : ofData d = .ok t) : Encodes d t := by
  induction d using ofData.induct generalizing t with
  | case1 b => cases h
  | case2 n =>
    rw [ofData, written_eq_ok_iff] at h
    obtain ⟨short, ⟨⟩⟩ := h
    exact .int short
  | case3 x =>
    cases h
    exact .float x
  | case4 s =>
    cases h
    exact .text s
  | case5 key body tag =>
    simp only [ofData, tag, written_eq_ok_iff] at h
    obtain ⟨short, ⟨⟩⟩ := h
    rw [Scalar.eq_text_of_ofText? tag]
    exact .literal short
  | case6 key body tag =>
    simp only [ofData, tag, written_eq_ok_iff] at h
    obtain ⟨short, ⟨⟩⟩ := h
    rw [Scalar.eq_text_of_ofText? tag]
    exact .identifier short
  | case7 key body op tag ih =>
    simp only [ofData, tag] at h
    cases operand : ofData body with
    | error m => simp [operand, Bind.bind, Except.bind] at h
    | ok u =>
      rw [operand] at h
      cases h
      rw [Scalar.eq_text_of_ofText? tag]
      exact .unary (ih operand)
  | case8 key op tag left right ihl ihr =>
    simp only [ofData, tag] at h
    cases first : ofData left with
    | error m => simp [first, Bind.bind, Except.bind] at h
    | ok u =>
      cases second : ofData right with
      | error m => simp [first, second, Bind.bind, Except.bind] at h
      | ok v =>
        rw [first, second] at h
        cases h
        rw [Scalar.eq_text_of_ofText? tag]
        exact .binary (ihl first) (ihr second)
  | case9 key op tag d other =>
    simp [ofData, tag, written_eq_ok_iff] at h
  | case10 key body unknown => simp [ofData, unknown, written_eq_ok_iff] at h
  | case11 d b n x s entry => simp [ofData, written_eq_ok_iff] at h

theorem nodes_tagged (t : Tag) (body : Data) :
    nodes (tagged t body) = tagged t body ::
      match t, body with
      | .unary _, d => nodes d
      | .binary _, .list [left, right] => nodes left ++ nodes right
      | _, _ => [] := by
  refine (nodes.eq_def _).trans ?_
  simp only [tagged, Tag.ofText?_text]
  congr 1
  cases t with
  | binary op =>
    simp only
    split <;> simp_all
  | _ => rfl

theorem offence?_of_shape {d : Data} (b : ∀ b, d ≠ .scalar (.bool b))
    (n : ∀ n, d ≠ .scalar (.int n)) (x : ∀ x, d ≠ .scalar (.float x))
    (s : ∀ s, d ≠ .scalar (.text s)) (entry : ∀ key body, d ≠ .mapping [(key, body)]) :
    offence? d = reported d (some (.shape d)) := by
  cases d with
  | list items => rfl
  | scalar k =>
    cases k with
    | null => rfl
    | bool c => exact absurd rfl (b c)
    | int m => exact absurd rfl (n m)
    | float y => exact absurd rfl (x y)
    | text t => exact absurd rfl (s t)
  | mapping entries =>
    match entries with
    | [] => rfl
    | [(key, body)] => exact absurd rfl (entry key body)
    | (key, _) :: _ :: _ => cases key <;> rfl

theorem findSome?_nodes (d : Data) :
    (nodes d).findSome? offence? = fault? (ofData d) := by
  induction d using ofData.induct with
  | case1 b => rfl
  | case2 n =>
    simp [nodes, offence?, ofData]
  | case3 x => rfl
  | case4 s => rfl
  | case5 key body tag =>
    have whole := nodes_tagged .literal body
    rw [Scalar.eq_text_of_ofText? tag, ← tagged, whole]
    simp [offence?, tagged, ofData, Scalar.plain, Tag.ofText?_text]
  | case6 key body tag =>
    have whole := nodes_tagged .identifier body
    rw [Scalar.eq_text_of_ofText? tag, ← tagged, whole]
    simp [offence?, tagged, ofData, Scalar.plain, Tag.ofText?_text]
  | case7 key body op tag ih =>
    have whole := nodes_tagged (.unary op) body
    rw [Scalar.eq_text_of_ofText? tag, ← tagged, whole]
    simp only [List.findSome?_cons, ih, offence?, tagged, ofData, Scalar.plain, Tag.ofText?_text]
    cases ofData body <;> rfl
  | case8 key op tag left right ihl ihr =>
    have whole := nodes_tagged (.binary op) (.list [left, right])
    rw [Scalar.eq_text_of_ofText? tag, ← tagged, whole]
    simp only [List.findSome?_cons, List.findSome?_append, ihl, ihr, offence?, tagged, ofData,
      Scalar.plain, Tag.ofText?_text]
    cases ofData left with
    | error m => rfl
    | ok l => cases ofData right <;> rfl
  | case9 key op tag d other =>
    have whole := nodes_tagged (.binary op) d
    have head : offence? (tagged (.binary op) d) =
        reported d (some (.operands (Tag.binary op).text d)) := by
      simp [offence?, tagged, Tag.ofText?_text]
    rw [Scalar.eq_text_of_ofText? tag, ← tagged, whole, List.findSome?_cons, head]
    simp only [ofData, tagged, Scalar.plain, Tag.ofText?_text, fault?_written, fault?_error]
    rw [reported]
    split_ifs <;> rfl
  | case10 key body unknown =>
    cases key with
    | text s =>
      have none : Tag.ofText? s = none := unknown
      rw [nodes.eq_def]
      simp [offence?, ofData, Scalar.plain, none]
    | _ => simp [nodes, offence?, ofData, unknown]
  | case11 d b n x s entry =>
    have whole : nodes d = [d] := nodes.eq_3 d fun tag body => entry (.text tag) body
    rw [whole, List.findSome?_cons, offence?_of_shape b n x s entry, ofData]
    · rw [fault?_written, fault?_error, reported]
      split_ifs <;> rfl
    all_goals assumption

theorem encodes_toData (t : Tree) : Encodes t.toData t := by
  induction t with
  | literal s => exact .literal (show (Data.scalar (.text s)).isWritable = true from rfl)
  | identifier s => exact .identifier (show (Data.scalar (.text s)).isWritable = true from rfl)
  | unary op t ih => exact .unary ih
  | binary op l r ihl ihr => exact .binary ihl ihr

/-- Reading accepts what the grammar has and finds the tree of the derivation, every tree is found
from its own encoding, and otherwise the first node that is out of shape is reported. -/
theorem ofData_accepts_grammar :
    (∀ d t, ofData d = .ok t ↔ Encodes d t) ∧
    (∀ t : Tree, ofData t.toData = .ok t) ∧
    (∀ d m, ofData d = .error m ↔ (nodes d).findSome? offence? = some m) := by
  refine ⟨fun d t => ⟨encodes_of_ofData, ofData_of_encodes⟩,
    fun t => ofData_of_encodes t.encodes_toData, fun d m => ?_⟩
  rw [findSome?_nodes]
  cases ofData d <;> simp

/-- The left operand of the sum comes before the right one, but after the sum. -/
example : (nodes (.mapping [(.text "add", .list [.list [], .scalar (.bool true)])])).findSome?
    offence? = some (.shape (.list [])) := by rfl

end Tree
end Calculator
