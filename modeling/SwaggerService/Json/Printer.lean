import SwaggerService.Json

/-! # Written JSON

The compact form has no blanks; the pretty form puts each item and each field on a line of its own,
indented by two blanks per level. -/

namespace SwaggerService.Json

/-- A hexadecimal digit, in lower case. -/
def hexDigit (n : Nat) : Char := Nat.digitChar n

/-- One character inside a JSON string. Quotes, backslashes and control characters are escaped. -/
def escapeChar (c : Char) : List Char :=
  if c = '"' then ['\\', '"']
  else if c = '\\' then ['\\', '\\']
  else if c = '\n' then ['\\', 'n']
  else if c = '\r' then ['\\', 'r']
  else if c = '\t' then ['\\', 't']
  else if c.toNat = 8 then ['\\', 'b']
  else if c.toNat = 12 then ['\\', 'f']
  else if c.toNat < 32 then
    ['\\', 'u', '0', '0', hexDigit (c.toNat / 16), hexDigit (c.toNat % 16)]
  else [c]

/-- A string literal. -/
def quote (s : String) : String := String.ofList ('"' :: s.toList.flatMap escapeChar ++ ['"'])

/-- Joins the parts of a list or an object between its brackets. -/
def enclose (opening closing : String) (parts : List String) : String :=
  opening ++ ",".intercalate parts ++ closing

mutual

/-- The compact text of a value. -/
def compact : Json → String
  | .null => "null"
  | .bool b => if b then "true" else "false"
  | .number n => n.text
  | .string s => quote s
  | .list items => enclose "[" "]" (compactItems items)
  | .object fields => enclose "\x7b" "\x7d" (compactFields fields)

/-- The compact texts of the items of a list. -/
def compactItems : List Json → List String
  | [] => []
  | item :: rest => compact item :: compactItems rest

/-- The compact texts of the fields of an object. -/
def compactFields : List (String × Json) → List String
  | [] => []
  | (key, value) :: rest => (quote key ++ ":" ++ compact value) :: compactFields rest

end

/-- The line break before a part at a level of indentation. -/
def lineBreak (level : Nat) : String := String.ofList ('\n' :: List.replicate (2 * level) ' ')

/-- Puts the parts of a list or an object on lines of their own; an empty one stays on its line. -/
def encloseLines (level : Nat) (opening closing : String) (parts : List String) : String :=
  if parts.isEmpty then opening ++ closing
  else
    let indented := parts.map fun part => lineBreak (level + 1) ++ part
    opening ++ ",".intercalate indented ++ lineBreak level ++ closing

mutual

/-- The pretty text of a value at a level of indentation. -/
def prettyAt (level : Nat) : Json → String
  | .list items => encloseLines level "[" "]" (prettyItems (level + 1) items)
  | .object fields => encloseLines level "\x7b" "\x7d" (prettyFields (level + 1) fields)
  | value => compact value

/-- The pretty texts of the items of a list. -/
def prettyItems (level : Nat) : List Json → List String
  | [] => []
  | item :: rest => prettyAt level item :: prettyItems level rest

/-- The pretty texts of the fields of an object. -/
def prettyFields (level : Nat) : List (String × Json) → List String
  | [] => []
  | (key, value) :: rest => (quote key ++ ": " ++ prettyAt level value) :: prettyFields level rest

end

/-- The pretty text of a value. -/
def pretty (value : Json) : String := prettyAt 0 value

end SwaggerService.Json
