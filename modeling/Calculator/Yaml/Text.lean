import Calculator.Positional
import Calculator.Yaml.Character
import Calculator.Yaml.Scalar

/-! The texts of scalars: between quotes, where lines are folded and, between double quotes,
escapes stand for characters; and plain, up to whatever ends a plain scalar. Each reader
answers the text and what follows it. -/

namespace Calculator.Yaml

def simpleEscapes : List (Char × Nat) :=
  [('0', 0x00), ('a', 0x07), ('b', 0x08), ('t', 0x09), ('\t', 0x09), ('n', 0x0a), ('v', 0x0b),
    ('f', 0x0c), ('r', 0x0d), ('e', 0x1b), (' ', 0x20), ('"', 0x22), ('\\', 0x5c), ('/', 0x2f),
    ('N', 0x85), ('_', 0xa0), ('L', 0x2028), ('P', 0x2029)]

/-- Escapes that are followed by a code, with its number of digits. -/
def codeEscapes : List (Char × Nat) := [('x', 2), ('u', 4), ('U', 8)]

def charOf? (n : Nat) : Option Char :=
  if h : n.isValidChar then some (Char.ofNatAux n h) else none

def takeCode? (width : Nat) (cs : List Char) : Option (Char × List Char) := do
  let ds ← (cs.take width).mapM digitOf?
  if ds.length = width then return (← charOf? (Positional.value 16 ds), cs.drop width) else none

def takeEscape? : List Char → Option (Char × List Char)
  | [] => none
  | c :: rest =>
    match simpleEscapes.find? (·.1 = c), codeEscapes.find? (·.1 = c) with
    | some (_, n), _ => (charOf? n).map (·, rest)
    | none, some (_, width) => takeCode? width rest
    | none, none => none

def dropBlanks (cs : List Char) : List Char := cs.dropWhile fun c => c = ' ' || c = '\t'

/-- The further line breaks after one, with the blanks between them dropped. A marker of a
document may not stand inside quotes. -/
def furtherBreaks? : Nat → List Char → Option (List Char × List Char)
  | 0, _ => none
  | fuel + 1, cs =>
    if atDocumentMarker cs then none
    else
      match takeBreak? (dropBlanks cs) with
      | none => some ([], dropBlanks cs)
      | some (b, rest) => do
        let (bs, after) ← furtherBreaks? fuel rest
        return (b :: bs, after)

def quotedFrom? (quote : Char) : Nat → List Char → Option (List Char × List Char)
  | 0, _ => none
  | _, [] => none
  | fuel + 1, c :: rest =>
    let onward? (text after : List Char) : Option (List Char × List Char) := do
      let (more, after) ← quotedFrom? quote fuel after
      return (text ++ more, after)
    if c = quote then
      match rest with
      | d :: after => if d = quote ∧ quote = '\'' then onward? [quote] after else some ([], rest)
      | [] => some ([], [])
    else if c = '\\' ∧ quote = '"' then
      match takeBreak? rest with
      | some (_, after) => do
        let (bs, after) ← furtherBreaks? (after.length + 1) after
        onward? bs after
      | none => do
        let (d, after) ← takeEscape? rest
        onward? [d] after
    else if isGap c then
      let blanks := (c :: rest).takeWhile fun d => d = ' ' || d = '\t'
      match takeBreak? (dropBlanks (c :: rest)) with
      | some (b, after) => do
        let (bs, after) ← furtherBreaks? (after.length + 1) after
        onward? (folded b bs) after
      | none => onward? blanks (dropBlanks (c :: rest))
    else onward? [c] rest

def quoted? (quote : Char) (cs : List Char) : Option (List Char × List Char) :=
  quotedFrom? quote (cs.length + 1) cs

def colonEnds (inFlow : Bool) : List Char → Bool
  | [] => true
  | c :: _ => isGap c || (inFlow && (c = ',' || c = '[' || c = ']' || c = '\x7b' || c = '\x7d'))

def isFlowEnd (c : Char) : Bool :=
  c = ',' || c = '?' || c = '[' || c = ']' || c = '\x7b' || c = '\x7d'

def plainWord (inFlow : Bool) : List Char → List Char × List Char
  | [] => ([], [])
  | c :: rest =>
    if isGap c || (c = ':' && colonEnds inFlow rest) || (inFlow && isFlowEnd c) then
      ([], c :: rest)
    else
      let (word, after) := plainWord inFlow rest
      (c :: word, after)

/-- Breaks and blanks after a first line break. The flag tells that a marker of a document
follows, which ends the scalar. -/
def plainBreaks : List Char → List Char × List Char × Bool
  | [] => ([], [], false)
  | ' ' :: rest => plainBreaks rest
  | '\r' :: '\n' :: rest =>
    if atDocumentMarker rest then ([], rest, true)
    else
      let (bs, after, stop) := plainBreaks rest
      ('\n' :: bs, after, stop)
  | c :: rest =>
    match takeBreak? [c] with
    | none => ([], c :: rest, false)
    | some (b, _) =>
      if atDocumentMarker rest then ([], rest, true)
      else
        let (bs, after, stop) := plainBreaks rest
        (b :: bs, after, stop)

structure Separation where
  /-- What it stands for; nothing if the scalar ends here. -/
  text : List Char
  after : List Char
  hasBreak : Bool

def separation (cs : List Char) : Separation :=
  let blanks := cs.takeWhile (· = ' ')
  let rest := cs.dropWhile (· = ' ')
  match takeBreak? rest with
  | none => ⟨blanks, rest, false⟩
  | some (b, rest) =>
    if atDocumentMarker rest then ⟨[], rest, true⟩
    else
      let (bs, after, stop) := plainBreaks rest
      ⟨if stop then [] else folded b bs, after, true⟩

/-- How many blanks stand before `after`, which is the rest of a line of `before`. -/
def columnAfter (before after : List Char) : Nat :=
  ((before.take (before.length - after.length)).reverse.takeWhile (· = ' ')).length

/-- A plain scalar, what follows it, and whether a line break separates the two. Lines that go
on with it must be indented by `indent` columns, except between brackets. -/
def plainFrom (inFlow : Bool) (indent : Int) : Nat → List Char → List Char × List Char × Bool
  | 0, cs => ([], cs, false)
  | fuel + 1, cs =>
    let (word, rest) := plainWord inFlow cs
    let s := separation rest
    let stops := s.text = [] || s.after.head? = some '#' ||
      (!inFlow && s.hasBreak && columnAfter rest s.after < indent)
    let (next, _) := plainWord inFlow s.after
    if stops || next = [] then (word, s.after, s.hasBreak)
    else
      let (more, after, broken) := plainFrom inFlow indent fuel s.after
      (word ++ s.text ++ more, after, broken)

def plain (inFlow : Bool) (indent : Int) (cs : List Char) : List Char × List Char × Bool :=
  plainFrom inFlow indent (cs.length + 1) cs

end Calculator.Yaml
