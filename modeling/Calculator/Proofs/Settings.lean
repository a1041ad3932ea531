import Calculator.Settings
import Mathlib.Data.List.Basic

/-! What becomes of a mapping that is read as settings. Keys that are not known are sorted before
they are reported, so reading breaks off when they have no common order: a text and a number, or
null and anything else. Otherwise every unknown key is reported once, whether the settings are
refused or not; they are refused for the timeout alone, as long as what is to be quoted can be
written out, and nothing but the known keys decides. -/

namespace Calculator

namespace Scalar

def isText : Scalar → Bool
  | text _ => true
  | _ => false

/-- Truth values are ordered as numbers. -/
def isNumeric : Scalar → Bool
  | bool _ | int _ | float _ => true
  | _ => false

end Scalar

namespace Settings

/-- Keys that have a common order: at most one key, texts only, or numbers only. -/
def Orderable (keys : List Scalar) : Prop :=
  keys.length ≤ 1 ∨ (∀ k ∈ keys, k.isText = true) ∨ ∀ k ∈ keys, k.isNumeric = true

/-- A timeout, or null, which stands for none. -/
def IsTimeout (d : Data) : Prop :=
  d = .scalar .null ∨ ∃ n : Int, 0 < n ∧ d = .scalar (.int n)

theorem isSome_keysInOrder?_iff {a b : Scalar} : (keysInOrder? a b).isSome = true ↔
    (a.isText = true ∧ b.isText = true) ∨ (a.isNumeric = true ∧ b.isNumeric = true) := by
  cases a <;> cases b <;> simp [keysInOrder?, Scalar.isText, Scalar.isNumeric] <;>
    split <;> rfl

theorem not_isNumeric_of_isText {k : Scalar} (h : k.isText = true) : k.isNumeric ≠ true := by
  cases k <;> simp_all [Scalar.isText, Scalar.isNumeric]

theorem orderable_cons_cons_iff {a b : Scalar} {keys : List Scalar} :
    Orderable (a :: b :: keys) ↔
      (keysInOrder? a b).isSome = true ∧ Orderable (b :: keys) := by
  rw [isSome_keysInOrder?_iff]
  constructor
  · rintro (short | texts | numbers)
    · simp at short
    · exact ⟨.inl ⟨texts a (by simp), texts b (by simp)⟩,
        .inr (.inl fun k member => texts k (List.mem_cons_of_mem a member))⟩
    · exact ⟨.inr ⟨numbers a (by simp), numbers b (by simp)⟩,
        .inr (.inr fun k member => numbers k (List.mem_cons_of_mem a member))⟩
  · rintro ⟨⟨first, second⟩ | ⟨first, second⟩, short | texts | numbers⟩
    · obtain rfl : keys = [] := by simpa using short
      exact .inr (.inl (by simp [first, second]))
    · exact .inr (.inl (List.forall_mem_cons.2 ⟨first, texts⟩))
    · exact absurd (numbers b List.mem_cons_self) (not_isNumeric_of_isText second)
    · obtain rfl : keys = [] := by simpa using short
      exact .inr (.inr (by simp [first, second]))
    · exact absurd second (not_isNumeric_of_isText (texts b List.mem_cons_self))
    · exact .inr (.inr (List.forall_mem_cons.2 ⟨first, numbers⟩))

theorem unordered?_cons_cons (a b : Scalar) (keys : List Scalar) :
    unordered? (a :: b :: keys) =
      if (keysInOrder? a b).isSome then unordered? (b :: keys) else some (a, b) := rfl

theorem unordered?_eq_none_iff {keys : List Scalar} :
    unordered? keys = none ↔ Orderable keys := by
  induction keys with
  | nil => simp [unordered?, Orderable]
  | cons a keys ih =>
    cases keys with
    | nil => simp [unordered?, Orderable]
    | cons b keys =>
      rw [unordered?_cons_cons, orderable_cons_cons_iff]
      by_cases ordered : (keysInOrder? a b).isSome = true
      · rw [if_pos ordered, ih]
        simp [ordered]
      · rw [if_neg ordered]
        simp [ordered]

theorem mem_of_unordered? {keys : List Scalar} {a b : Scalar}
    (h : unordered? keys = some (a, b)) : a ∈ keys ∧ b ∈ keys := by
  induction keys with
  | nil => cases h
  | cons c keys ih =>
    cases keys with
    | nil => cases h
    | cons d keys =>
      rw [unordered?_cons_cons] at h
      by_cases ordered : (keysInOrder? c d).isSome = true
      · rw [if_pos ordered] at h
        obtain ⟨first, second⟩ := ih h
        exact ⟨List.mem_cons_of_mem c first, List.mem_cons_of_mem c second⟩
      · rw [if_neg ordered, Option.some.injEq, Prod.mk.injEq] at h
        simp [← h.1, ← h.2]

section
variable {entries : Entries}

theorem ofEntries_of_not_orderable (unordered : ¬Orderable (unknownKeys entries)) :
    ∃ a ∈ unknownKeys entries, ∃ b ∈ unknownKeys entries,
      ofEntries entries = .failed (.unorderedKeys a b) := by
  rw [← unordered?_eq_none_iff] at unordered
  obtain ⟨⟨a, b⟩, found⟩ := Option.ne_none_iff_exists'.1 unordered
  obtain ⟨first, second⟩ := mem_of_unordered? found
  refine ⟨b, second, a, first, ?_⟩
  simp only [ofEntries, sortKeys, found]

def settingsOf (entries : Entries) : Except ConfigFailure Settings := do
  let timeout ← timeoutOf entries
  let logLevel ← logLevelOf entries
  return ⟨isCompatible entries, timeout, logLevel⟩

theorem ofEntries_of_orderable (orderable : Orderable (unknownKeys entries)) :
    (ofEntries entries).warnings.Perm ((unknownKeys entries).map warning) ∧
      (ofEntries entries).settings = settingsOf entries := by
  have found := unordered?_eq_none_iff.2 orderable
  simp only [ofEntries, sortKeys, found]
  exact ⟨(List.mergeSort_perm _ _).map warning, rfl⟩

theorem timeoutOf_of_isTimeout
    (valid : ∀ d, find? entries timeoutKey = some d → IsTimeout d) :
    ∃ timeout, timeoutOf entries = .ok timeout := by
  unfold timeoutOf
  cases found : find? entries timeoutKey with
  | none => exact ⟨none, rfl⟩
  | some d =>
    rcases valid d found with rfl | ⟨n, positive, rfl⟩
    · exact ⟨none, rfl⟩
    · exact ⟨some n.toNat, if_pos positive⟩

theorem timeoutOf_of_not_isTimeout {d : Data} (found : find? entries timeoutKey = some d)
    (invalid : ¬IsTimeout d) : timeoutOf entries = .error (rejected d) := by
  unfold timeoutOf
  rw [found]
  split
  · next none => cases none
  · next null => exact absurd (.inl (Option.some.inj null)) invalid
  · next n integer =>
    obtain rfl := Option.some.inj integer
    exact if_neg fun positive => invalid (.inr ⟨n, positive, rfl⟩)
  · next other _ _ same => rw [Option.some.inj same]

theorem logLevelOf_of_isWritable
    (writable : ∀ d, find? entries logLevelKey = some d → d.isWritable = true) :
    ∃ logLevel, logLevelOf entries = .ok logLevel := by
  unfold logLevelOf
  cases found : find? entries logLevelKey with
  | none => exact ⟨_, rfl⟩
  | some d => exact ⟨_, if_pos (writable d found)⟩

theorem logLevelOf_of_not_isWritable {d : Data} (found : find? entries logLevelKey = some d)
    (unwritable : d.isWritable = false) : logLevelOf entries = .error .unwritableNumber := by
  rw [logLevelOf, found]
  exact if_neg (by simp [unwritable])

theorem settingsOf_congr {others : Entries}
    (same : ∀ key ∈ knownKeys, find? others key = find? entries key) :
    settingsOf others = settingsOf entries := by
  have compatible := same compatibleKey (by decide)
  have timeout := same timeoutKey (by decide)
  have logLevel := same logLevelKey (by decide)
  simp only [settingsOf, timeoutOf, logLevelOf, isCompatible, compatible, timeout, logLevel]

end

/-- Reading breaks off exactly when the unknown keys have no common order. Otherwise each of them
is reported, the settings are refused only for a timeout that is none, or because an integer in
the timeout or the log level cannot be written out, and only the known keys decide. -/
theorem ofEntries_outcome (entries : Entries) :
    (¬Orderable (unknownKeys entries) →
      ∃ a ∈ unknownKeys entries, ∃ b ∈ unknownKeys entries,
        ofEntries entries = .failed (.unorderedKeys a b)) ∧
    (Orderable (unknownKeys entries) →
      (ofEntries entries).warnings.Perm ((unknownKeys entries).map warning) ∧
      (∀ d, find? entries timeoutKey = some d → ¬IsTimeout d → (ofEntries entries).settings =
        .error (if d.isWritable then .timeout d else .unwritableNumber)) ∧
      ((∀ d, find? entries timeoutKey = some d → IsTimeout d) →
        ((∀ d, find? entries logLevelKey = some d → d.isWritable = true) →
          ∃ s, (ofEntries entries).settings = .ok s) ∧
        ∀ d, find? entries logLevelKey = some d → d.isWritable = false →
          (ofEntries entries).settings = .error .unwritableNumber) ∧
      ∀ others, Orderable (unknownKeys others) →
        (∀ key ∈ knownKeys, find? others key = find? entries key) →
        (ofEntries others).settings = (ofEntries entries).settings) := by
  refine ⟨ofEntries_of_not_orderable, fun orderable => ?_⟩
  obtain ⟨warned, settings⟩ := ofEntries_of_orderable orderable
  rw [settings]
  refine ⟨warned, fun d found invalid => ?_, fun valid => ⟨fun writable => ?_, ?_⟩,
    fun others orderable same => ?_⟩
  · rw [settingsOf, timeoutOf_of_not_isTimeout found invalid]
    rfl
  · obtain ⟨timeout, read⟩ := timeoutOf_of_isTimeout valid
    obtain ⟨logLevel, level⟩ := logLevelOf_of_isWritable writable
    rw [settingsOf, read, level]
    exact ⟨_, rfl⟩
  · intro d found unwritable
    obtain ⟨timeout, read⟩ := timeoutOf_of_isTimeout valid
    rw [settingsOf, read, logLevelOf_of_not_isWritable found unwritable]
    rfl
  · rw [(ofEntries_of_orderable orderable).2, settingsOf_congr same]

/-- A number and a text among the unknown keys: nothing is reported, and it is not the
configuration that is blamed. -/
theorem ofEntries_of_mixed_keys :
    let entries : Entries := [(.int 0, .scalar (.text "a")), (.text "x", .scalar (.text "b"))]
    find? entries timeoutKey = none ∧ (unknownKeys entries).length = 2 ∧
      (ofEntries entries).warnings = [] ∧
      ∃ f, (ofEntries entries).settings = .error f ∧ f.isOrdinary = false :=
  ⟨rfl, rfl, rfl, .unorderedKeys (.text "x") (.int 0), rfl, rfl⟩

end Settings
end Calculator
