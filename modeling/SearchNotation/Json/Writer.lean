import SearchNotation.Json.Basic

/-!
# Writing JSON

`Json.compact` writes a value on one line without blanks, `Json.pretty` one item or member per
line, two blanks deeper at each level. In strings only quotes, backslashes and control characters
are escaped, by a letter where there is one and by four hexadecimal digits elsewhere.
-/

set_option autoImplicit false

namespace SearchNotation.Json

/-- The hexadecimal digit of a number below sixteen, in lower case. -/
def hexDigit (n : Nat) : Char := n.digitChar

/-- How a character is written inside a string. -/
def escapeChar (c : Char) : List Char :=
  if c = '"' then ['\\', '"']
  else if c = '\\' then ['\\', '\\']
  else if 0x20 ≤ c.toNat then [c]
  else if c = '\x08' then ['\\', 'b']
  else if c = '\x0c' then ['\\', 'f']
  else if c = '\n' then ['\\', 'n']
  else if c = '\r' then ['\\', 'r']
  else if c = '\t' then ['\\', 't']
  else ['\\', 'u', '0', '0', hexDigit (c.toNat / 16), hexDigit (c.toNat % 16)]

/-- A string in quotes. -/
def quotedChars (text : String) : List Char := '"' :: text.toList.flatMap escapeChar ++ ['"']

/-- The text of a value that holds no others. -/
def scalarChars : Json → List Char
  | .null => "null".toList
  | .bool b => (if b then "true" else "false").toList
  | .number n => n.text.toList
  | .string s => quotedChars s
  | .array _ | .object _ => []

mutual

/-- The characters of the compact text. -/
def compactChars : Json → List Char
  | .array [] => ['[', ']']
  | .array (item :: rest) => '[' :: compactChars item ++ compactItems rest
  | .object [] => ['\x7b', '\x7d']
  | .object ((key, value) :: rest) =>
    '\x7b' :: quotedChars key ++ ':' :: compactChars value ++ compactMembers rest
  | json => scalarChars json
  termination_by structural json => json

/-- The items after the first one, and the closing bracket. -/
def compactItems : List Json → List Char
  | [] => [']']
  | item :: rest => ',' :: compactChars item ++ compactItems rest
  termination_by structural items => items

/-- The members after the first one, and the closing brace. -/
def compactMembers : List (String × Json) → List Char
  | [] => ['\x7d']
  | (key, value) :: rest =>
    ',' :: quotedChars key ++ ':' :: compactChars value ++ compactMembers rest
  termination_by structural members => members

end

/-- The text of a value on one line. -/
def compact (json : Json) : String := String.ofList (compactChars json)

/-- A line break and the blanks in front of a line at the given depth. -/
def lineBreak (depth : Nat) : List Char := '\n' :: List.replicate (2 * depth) ' '

mutual

/-- The characters of the text with one item or member per line, inside `depth` others. -/
def prettyChars (depth : Nat) : Json → List Char
  | .array [] => ['[', ']']
  | .array (item :: rest) =>
    '[' :: lineBreak (depth + 1) ++ prettyChars (depth + 1) item ++ prettyItems depth rest
  | .object [] => ['\x7b', '\x7d']
  | .object ((key, value) :: rest) =>
    '\x7b' :: lineBreak (depth + 1) ++ quotedChars key ++ ':' :: ' '
      :: prettyChars (depth + 1) value ++ prettyMembers depth rest
  | json => scalarChars json
  termination_by structural json => json

/-- The items after the first one, and the closing bracket on its own line. -/
def prettyItems (depth : Nat) : List Json → List Char
  | [] => lineBreak depth ++ [']']
  | item :: rest =>
    ',' :: lineBreak (depth + 1) ++ prettyChars (depth + 1) item ++ prettyItems depth rest
  termination_by structural items => items

/-- The members after the first one, and the closing brace on its own line. -/
def prettyMembers (depth : Nat) : List (String × Json) → List Char
  | [] => lineBreak depth ++ ['\x7d']
  | (key, value) :: rest =>
    ',' :: lineBreak (depth + 1) ++ quotedChars key ++ ':' :: ' '
      :: prettyChars (depth + 1) value ++ prettyMembers depth rest
  termination_by structural members => members

end

/-- The text of a value over several lines. -/
def pretty (json : Json) : String := String.ofList (prettyChars 0 json)

end SearchNotation.Json
