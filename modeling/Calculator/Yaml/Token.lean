import Calculator.Yaml.Text

/-! The tokens of a document. Indentation becomes pairs of tokens around block collections.
A key shows only by the colon behind it, so the place of every scalar or bracket that may
turn out to be a key is remembered, and the tokens of a key are put in there afterwards. -/

namespace Calculator.Yaml

inductive Token
  | documentStart | documentEnd
  | blockSequenceStart | blockMappingStart | blockEnd | blockEntry
  | flowSequenceStart | flowSequenceEnd | flowMappingStart | flowMappingEnd | flowEntry
  | key | value
  | scalar (text : String) (isPlain : Bool)
  deriving DecidableEq

/-- A token that may turn out to start a key. -/
structure Candidate where
  depth : Nat
  /-- The number of tokens before it. -/
  tokens : Nat
  /-- Whether the document is malformed if it is no key. -/
  isRequired : Bool
  index : Nat
  line : Nat
  column : Nat

/-- The state of reading: what is left and where it starts, the open brackets and
indentations, and the tokens so far. -/
structure Lexer where
  rest : List Char
  index : Nat
  line : Nat
  column : Nat
  /-- How many brackets are open. -/
  depth : Nat
  indent : Int
  outer : List Int
  mayStartKey : Bool
  candidates : List Candidate
  tokens : Array Token

namespace Lexer

def start (cs : List Char) : Lexer := ⟨cs, 0, 0, 0, 0, -1, [], true, [], #[]⟩

def emit (l : Lexer) (t : Token) : Lexer := { l with tokens := l.tokens.push t }

def insert (l : Lexer) (n : Nat) (ts : Array Token) : Lexer :=
  { l with tokens := l.tokens.extract 0 n ++ ts ++ l.tokens.extract n l.tokens.size }

def advance (l : Lexer) : Lexer :=
  match l.rest with
  | [] => l
  | c :: rest =>
    if isBreak c && !(c = '\r' && rest.head? = some '\n') then
      { l with rest := rest, index := l.index + 1, line := l.line + 1, column := 0 }
    else { l with rest := rest, index := l.index + 1, column := l.column + 1 }

def advanceTo (l : Lexer) (after : List Char) : Lexer :=
  Nat.repeat advance (l.rest.length - after.length) l

/-- Skips blanks, comments and line breaks. A key may start on a new line. -/
def skipGaps : Nat → Lexer → Lexer
  | 0, l => l
  | fuel + 1, l =>
    match l.rest with
    | ' ' :: _ => skipGaps fuel l.advance
    | '#' :: _ => skipGaps fuel (l.advanceTo (l.rest.dropWhile fun c => !isBreak c))
    | c :: _ =>
      if isBreak c then
        skipGaps fuel { l.advance with mayStartKey := l.mayStartKey || l.depth = 0 }
      else l
    | [] => l

/-- Longest distance between the start of a key and its colon. -/
def longestKey : Nat := 1024

def isStale (l : Lexer) (c : Candidate) : Bool :=
  c.line ≠ l.line || longestKey < l.index - c.index

def dropStale? (l : Lexer) : Option Lexer :=
  if l.candidates.any fun c => l.isStale c && c.isRequired then none
  else some { l with candidates := l.candidates.filter fun c => !l.isStale c }

def dropCandidate? (l : Lexer) : Option Lexer :=
  if l.candidates.any fun c => c.depth = l.depth && c.isRequired then none
  else some { l with candidates := l.candidates.filter fun c => c.depth ≠ l.depth }

def addCandidate? (l : Lexer) : Option Lexer :=
  if l.mayStartKey then do
    let required := l.depth = 0 && l.indent = l.column
    let l ← l.dropCandidate?
    return { l with candidates :=
      ⟨l.depth, l.tokens.size, required, l.index, l.line, l.column⟩ :: l.candidates }
  else some l

/-- Closes block collections, from the innermost one on, that are indented farther than
`column`. -/
def closeFrom (column : Int) : List Int → Lexer → Lexer
  | [], l => { l with outer := [] }
  | i :: outer, l =>
    if column < l.indent then closeFrom column outer ({ l with indent := i }.emit .blockEnd)
    else { l with outer := i :: outer }

/-- Closes the block collections that are indented farther than `column`. Inside brackets,
indentation means nothing. -/
def close (l : Lexer) (column : Int) : Lexer :=
  if l.depth = 0 then closeFrom column l.outer l else l

def opens (l : Lexer) (column : Nat) : Bool := l.indent < column

def indentTo (l : Lexer) (column : Nat) : Lexer :=
  { l with indent := column, outer := l.indent :: l.outer }

def openBracket? (l : Lexer) (t : Token) : Option Lexer := do
  let l ← l.addCandidate?
  return { (l.emit t).advance with depth := l.depth + 1, mayStartKey := true }

def closeBracket? (l : Lexer) (t : Token) : Option Lexer := do
  let l ← l.dropCandidate?
  if l.depth = 0 then none
  else return { (l.emit t).advance with depth := l.depth - 1, mayStartKey := false }

def flowEntry? (l : Lexer) : Option Lexer := do
  let l ← l.dropCandidate?
  return { (l.emit .flowEntry).advance with mayStartKey := true }

def openBlock? (l : Lexer) (t : Token) : Option Lexer :=
  if l.depth ≠ 0 then some l
  else if !l.mayStartKey then none
  else if l.opens l.column then some ((l.indentTo l.column).emit t)
  else some l

def blockEntry? (l : Lexer) : Option Lexer := do
  let l ← l.openBlock? .blockSequenceStart
  let l ← l.dropCandidate?
  return { (l.emit .blockEntry).advance with mayStartKey := true }

def markedKey? (l : Lexer) : Option Lexer := do
  let l ← l.openBlock? .blockMappingStart
  let l ← l.dropCandidate?
  return { (l.emit .key).advance with mayStartKey := l.depth = 0 }

def value? (l : Lexer) : Option Lexer :=
  match l.candidates.find? fun c => c.depth = l.depth with
  | some c =>
    let l := { l with candidates := l.candidates.filter fun d => d.depth ≠ l.depth }
    let l := if l.depth = 0 && l.opens c.column then
        (l.indentTo c.column).insert c.tokens #[.blockMappingStart, .key]
      else l.insert c.tokens #[.key]
    some { (l.emit .value).advance with mayStartKey := false }
  | none => do
    let l ← l.openBlock? .blockMappingStart
    let l ← l.dropCandidate?
    return { (l.emit .value).advance with mayStartKey := l.depth = 0 }

def quoted? (l : Lexer) (quote : Char) : Option Lexer := do
  let l ← l.addCandidate?
  let (text, after) ← Yaml.quoted? quote (l.rest.drop 1)
  return { (l.emit (.scalar (String.ofList text) false)).advanceTo after with
    mayStartKey := false }

def plain? (l : Lexer) : Option Lexer := do
  let l ← l.addCandidate?
  let (text, after, broken) := Yaml.plain (l.depth ≠ 0) (l.indent + 1) l.rest
  return { (l.emit (.scalar (String.ofList text) true)).advanceTo after with
    mayStartKey := broken }

def documentMarker? (l : Lexer) (t : Token) : Option Lexer := do
  let l ← (l.close (-1)).dropCandidate?
  return { (l.emit t).advance.advance.advance with mayStartKey := false }

/-- Characters that no plain scalar starts with. -/
def indicators : List Char :=
  ['-', '?', ':', ',', '[', ']', '\x7b', '\x7d', '#', '&', '*', '!', '|', '>', '\'', '"', '%', '@',
    '\x60']

def startsPlain (inFlow : Bool) (c : Char) (rest : List Char) : Bool :=
  (!isGap c && !indicators.contains c) ||
    (!atGap rest && (c = '-' || (!inFlow && (c = '?' || c = ':'))))

def token? (l : Lexer) (c : Char) (rest : List Char) : Option Lexer :=
  if l.column = 0 && atDocumentMarker l.rest then
    l.documentMarker? (if c = '-' then .documentStart else .documentEnd)
  else if c = '[' then l.openBracket? .flowSequenceStart
  else if c = '\x7b' then l.openBracket? .flowMappingStart
  else if c = ']' then l.closeBracket? .flowSequenceEnd
  else if c = '\x7d' then l.closeBracket? .flowMappingEnd
  else if c = ',' then l.flowEntry?
  else if c = '-' && atGap rest then l.blockEntry?
  else if c = '?' && (l.depth ≠ 0 || atGap rest) then l.markedKey?
  else if c = ':' && (l.depth ≠ 0 || atGap rest) then l.value?
  else if c = '\'' || c = '"' then l.quoted? c
  else if startsPlain (l.depth ≠ 0) c rest then l.plain?
  else none

def run : Nat → Lexer → Option (List Token)
  | 0, _ => none
  | fuel + 1, l => do
    let l := skipGaps (l.rest.length + 1) l
    let l ← l.dropStale?
    let l := l.close l.column
    match l.rest with
    | [] => do
      let l ← (l.close (-1)).dropCandidate?
      return l.tokens.toList
    | c :: rest => do
      let l ← l.token? c rest
      run fuel l

end Lexer

def tokens? (text : String) : Option (List Token) :=
  let cs := text.toList
  let cs := if cs.head? = some '\ufeff' then cs.drop 1 else cs
  if cs.all isAllowed then Lexer.run (cs.length + 1) (Lexer.start cs) else none

end Calculator.Yaml
