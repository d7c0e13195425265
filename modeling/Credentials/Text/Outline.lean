/-!
# Outlines

The shape of a value for diagnostics: words, named tuples, records and lists. `flat` writes an outline
on one line and `pretty` one item a line, indented by four spaces, with a comma after each.
-/

namespace Credentials.Text

/-- The shape of a value. A word may have a wider spelling for the pretty form; a record that is
`open` hides further fields. -/
inductive Outline where
  | word (flat pretty : String)
  | tuple (name : String) (items : List Outline)
  | record (name : String) (fields : List (String × Outline)) (more : Bool)
  | list (items : List Outline)

namespace Outline

def atom (s : String) : Outline := .word s s

def ofBool (b : Bool) : Outline := .atom (if b then "true" else "false")

def ofOption : Option Outline → Outline
  | none => .atom "None"
  | some o => .tuple "Some" [o]

mutual

def flat : Outline → String
  | word s _ => s
  | tuple name items => name ++ "(" ++ ", ".intercalate (flatItems items) ++ ")"
  | record name fields more =>
    name ++ " \x7b " ++ ", ".intercalate (flatFields fields ++ if more then [".."] else []) ++ " \x7d"
  | list items => "[" ++ ", ".intercalate (flatItems items) ++ "]"

def flatItems : List Outline → List String
  | [] => []
  | o :: rest => flat o :: flatItems rest

def flatFields : List (String × Outline) → List String
  | [] => []
  | (name, o) :: rest => (name ++ ": " ++ flat o) :: flatFields rest

end

/-- The blank space before an item at the given depth. -/
def indent (depth : Nat) : String :=
  "".pushn ' ' (4 * depth)

mutual

/-- The outline with one item a line, its own lines after the first at the given depth. -/
def prettyAt (depth : Nat) : Outline → String
  | word _ s => s
  | tuple name items => name ++ "(\n" ++ prettyItems (depth + 1) items ++ indent depth ++ ")"
  | record name fields more =>
    name ++ " \x7b\n" ++ prettyFields (depth + 1) fields ++
      (if more then indent (depth + 1) ++ "..\n" else "") ++ indent depth ++ "\x7d"
  | list [] => "[]"
  | list (o :: rest) => "[\n" ++ prettyItems (depth + 1) (o :: rest) ++ indent depth ++ "]"

def prettyItems (depth : Nat) : List Outline → String
  | [] => ""
  | o :: rest => indent depth ++ prettyAt depth o ++ ",\n" ++ prettyItems depth rest

def prettyFields (depth : Nat) : List (String × Outline) → String
  | [] => ""
  | (name, o) :: rest =>
    indent depth ++ name ++ ": " ++ prettyAt depth o ++ ",\n" ++ prettyFields depth rest

end

def pretty (o : Outline) : String := prettyAt 0 o

end Outline

end Credentials.Text
