import Calculator.Yaml.Token

/-! Documents as trees of nodes. A missing node is an empty plain scalar. Anchors, tags,
directives and scalars in literal style are not read. -/

namespace Calculator.Yaml

inductive Node
  | scalar (text : String) (isPlain : Bool)
  | list (items : List Node)
  | mapping (entries : List (Node × Node))

namespace Node

instance instInhabited : Inhabited Node := ⟨scalar "" true⟩

def missing : Node := scalar "" true

abbrev Tokens := List Token

def startsWith (stops : List Token) : Tokens → Bool
  | t :: _ => stops.contains t
  | [] => false

def entryStops : List Token := [.blockEntry, .key, .value, .blockEnd]

def blockStops : List Token := [.key, .value, .blockEnd]

def flowKeyStops : List Token := [.value, .flowEntry, .flowSequenceEnd, .flowMappingEnd]

def flowValueStops : List Token := [.flowEntry, .flowSequenceEnd, .flowMappingEnd]

def afterComma? (first : Bool) (ts : Tokens) : Option Tokens :=
  match first, ts with
  | true, ts => some ts
  | false, .flowEntry :: rest => some rest
  | false, _ => none

mutual

/-- A node. `block` allows block collections, and `bare` a sequence that is not indented. -/
def node? (block bare : Bool) : Nat → Tokens → Option (Node × Tokens)
  | 0, _ => none
  | fuel + 1, ts =>
    match ts with
    | .scalar text isPlain :: rest => some (scalar text isPlain, rest)
    | .flowSequenceStart :: rest => do
      let (items, rest) ← flowItems? true fuel rest
      return (list items, rest)
    | .flowMappingStart :: rest => do
      let (entries, rest) ← flowEntries? true fuel rest
      return (mapping entries, rest)
    | .blockSequenceStart :: rest =>
      if block then do
        let (items, rest) ← blockItems? fuel rest
        match rest with
        | .blockEnd :: rest => return (list items, rest)
        | _ => none
      else none
    | .blockMappingStart :: rest =>
      if block then do
        let (entries, rest) ← blockEntries? fuel rest
        return (mapping entries, rest)
      else none
    | .blockEntry :: _ =>
      if bare then do
        let (items, rest) ← blockItems? fuel ts
        return (list items, rest)
      else none
    | _ => none

/-- A node, unless one of the tokens comes next that stand after a missing one. -/
def nodeUnless? (stops : List Token) (block bare : Bool) :
    Nat → Tokens → Option (Node × Tokens)
  | 0, _ => none
  | fuel + 1, ts =>
    if startsWith stops ts then some (missing, ts) else node? block bare fuel ts

def blockItems? : Nat → Tokens → Option (List Node × Tokens)
  | 0, _ => none
  | fuel + 1, ts =>
    match ts with
    | .blockEntry :: rest => do
      let (item, rest) ← nodeUnless? entryStops true false fuel rest
      let (items, rest) ← blockItems? fuel rest
      return (item :: items, rest)
    | _ => some ([], ts)

def blockEntries? : Nat → Tokens → Option (List (Node × Node) × Tokens)
  | 0, _ => none
  | fuel + 1, ts =>
    match ts with
    | .blockEnd :: rest => some ([], rest)
    | .key :: rest => do
      let (k, rest) ← nodeUnless? blockStops true true fuel rest
      let (v, rest) ← value? blockStops true fuel rest
      let (entries, rest) ← blockEntries? fuel rest
      return ((k, v) :: entries, rest)
    | _ => none

def value? (stops : List Token) (block : Bool) : Nat → Tokens → Option (Node × Tokens)
  | 0, _ => none
  | fuel + 1, ts =>
    match ts with
    | .value :: rest => nodeUnless? stops block block fuel rest
    | _ => some (missing, ts)

/-- The items of a sequence in brackets, with its end. An item may be a single entry. -/
def flowItems? (first : Bool) : Nat → Tokens → Option (List Node × Tokens)
  | 0, _ => none
  | fuel + 1, ts => do
    match ts with
    | .flowSequenceEnd :: rest => return ([], rest)
    | _ =>
      let ts ← afterComma? first ts
      match ts with
      | .flowSequenceEnd :: rest => return ([], rest)
      | .key :: rest => do
        let (k, rest) ← nodeUnless? flowKeyStops false false fuel rest
        let (v, rest) ← value? flowValueStops false fuel rest
        let (items, rest) ← flowItems? false fuel rest
        return (mapping [(k, v)] :: items, rest)
      | ts => do
        let (item, rest) ← node? false false fuel ts
        let (items, rest) ← flowItems? false fuel rest
        return (item :: items, rest)

/-- The entries of a mapping in braces, with its end. An entry may be a key alone. -/
def flowEntries? (first : Bool) : Nat → Tokens → Option (List (Node × Node) × Tokens)
  | 0, _ => none
  | fuel + 1, ts => do
    match ts with
    | .flowMappingEnd :: rest => return ([], rest)
    | _ =>
      let ts ← afterComma? first ts
      match ts with
      | .flowMappingEnd :: rest => return ([], rest)
      | .key :: rest => do
        let (k, rest) ← nodeUnless? flowKeyStops false false fuel rest
        let (v, rest) ← value? flowValueStops false fuel rest
        let (entries, rest) ← flowEntries? false fuel rest
        return ((k, v) :: entries, rest)
      | ts => do
        let (k, rest) ← node? false false fuel ts
        let (entries, rest) ← flowEntries? false fuel rest
        return ((k, missing) :: entries, rest)

end

def ofTokens? (ts : Tokens) : Option Node := do
  let fuel := 3 * ts.length + 3
  let (n, rest) ← match ts with
    | [] => some (missing, [])
    | .documentStart :: rest =>
      if rest = [] || startsWith [.documentStart, .documentEnd] rest then some (missing, rest)
      else node? true false fuel rest
    | ts => node? true false fuel ts
  if rest.all (· = .documentEnd) then some n else none

def ofText? (text : String) : Option Node := do ofTokens? (← tokens? text)

end Node
end Calculator.Yaml
