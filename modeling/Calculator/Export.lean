import Calculator.Registry

/-! The registry as an indented JSON text: every definition by its name, and the definitions
of each category. Definitions are written in plain ASCII, so only quotes and backslashes are
escaped. -/

namespace Calculator.Export

inductive Item
  | text (s : String)
  | list (items : List Item)
  | record (fields : List (String × Item))

def escape (c : Char) : List Char := if c = '"' ∨ c = '\\' then ['\\', c] else [c]

def quoted (s : String) : String := "\"" ++ String.ofList (s.toList.flatMap escape) ++ "\""

def margin (depth : Nat) : String := "\n" ++ String.ofList (List.replicate (2 * depth) ' ')

def enclosed (opening closing : String) (depth : Nat) (parts : List String) : String :=
  if parts.isEmpty then opening ++ closing
  else
    opening ++ margin (depth + 1) ++ ("," ++ margin (depth + 1)).intercalate parts ++
      margin depth ++ closing

mutual

def Item.write (depth : Nat) : Item → String
  | .text s => quoted s
  | .list items => enclosed "[" "]" depth (writeItems (depth + 1) items)
  | .record fields => enclosed "\x7b" "\x7d" depth (writeFields (depth + 1) fields)

def writeItems (depth : Nat) : List Item → List String
  | [] => []
  | i :: rest => i.write depth :: writeItems depth rest

def writeFields (depth : Nat) : List (String × Item) → List String
  | [] => []
  | (k, i) :: rest => (quoted k ++ ": " ++ i.write depth) :: writeFields depth rest

end

def ofDefinition (d : Definition) : Item :=
  .record [("name", .text d.name), ("description", .text d.description),
    ("category", .text d.category.text), ("examples", .list (d.examples.map .text))]

def ofRegistry (r : Registry) : Item :=
  .record
    [("functions", .record (r.definitions.map fun d => (d.name, ofDefinition d))),
      ("byCategory", .record (r.byCategory.map fun (c, ds) =>
        (c.text, .list (ds.map ofDefinition))))]

def text (r : Registry) : String := (ofRegistry r).write 0

end Calculator.Export
