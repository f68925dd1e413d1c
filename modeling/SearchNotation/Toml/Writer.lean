/-!
# Writing TOML

A string is written between the first marks that need no escapes: quotes, apostrophes, triple
quotes, triple apostrophes; if all need some, between quotes, triple ones if there is a line break.
A list of several strings is written with each on a line of its own.
-/

set_option autoImplicit false

namespace SearchNotation.Toml

/-! ## Choice of marks -/

/-- The marks around a string. -/
inductive Marks where
  | quotes
  | apostrophes
  | tripleQuotes
  | tripleApostrophes
  deriving DecidableEq, Repr

/-- The length of the longest run of a mark in a text that stands after `run` of them. -/
def longestRun (mark : Char) (run : Nat) : List Char → Nat
  | [] => run
  | c :: rest =>
    if c = mark then longestRun mark (run + 1) rest else max run (longestRun mark 0 rest)

/-- Whether a character has no place in a string but by an escape. -/
def needsEscape (c : Char) : Bool :=
  (c.toNat < 0x20 && c != '\t' && c != '\n') || c.toNat == 0x7F

/-- The marks that a string is written between. -/
def Marks.forText (text : List Char) : Marks :=
  let escapes := text.any needsEscape
  let backslash := text.contains '\\'
  let lineBreak := text.contains '\n'
  let quotes := longestRun '"' 0 text
  let apostrophes := longestRun '\'' 0 text
  if !escapes && !backslash && !lineBreak && quotes == 0 then .quotes
  else if !escapes && !lineBreak && apostrophes == 0 then .apostrophes
  else if !escapes && !backslash && quotes ≤ 2 then .tripleQuotes
  else if !escapes && apostrophes ≤ 2 then .tripleApostrophes
  else if lineBreak then .tripleQuotes
  else .quotes

/-- The text of the marks, at both ends. -/
def Marks.text : Marks → List Char
  | .quotes => ['"']
  | .apostrophes => ['\'']
  | .tripleQuotes => ['"', '"', '"']
  | .tripleApostrophes => ['\'', '\'', '\'']

/-- Whether the string may go over several lines. -/
def Marks.long : Marks → Bool
  | .quotes | .apostrophes => false
  | .tripleQuotes | .tripleApostrophes => true

/-! ## Escapes -/

/-- The hexadecimal digit of a number below sixteen, in upper case. -/
def upperHexDigit (n : Nat) : Char := n.digitChar.toUpper

/-- How a character is written between quotes that go over several lines or not. -/
def escapeChar (long : Bool) (c : Char) : List Char :=
  if c = '\x08' then ['\\', 'b']
  else if c = '\t' then ['\\', 't']
  else if c = '\n' then if long then ['\n'] else ['\\', 'n']
  else if c = '\x0c' then ['\\', 'f']
  else if c = '\r' then ['\\', 'r']
  else if c = '\\' then ['\\', '\\']
  else if needsEscape c then
    ['\\', 'u', '0', '0', upperHexDigit (c.toNat / 16), upperHexDigit (c.toNat % 16)]
  else [c]

/-- A text between quotes after `run` quotes in a row; between triple ones two may follow each
other. -/
def escapeText (long : Bool) (run : Nat) : List Char → List Char
  | [] => []
  | c :: rest =>
    if c = '"' then
      if long && run < 2 then '"' :: escapeText long (run + 1) rest
      else '\\' :: '"' :: escapeText long 0 rest
    else escapeChar long c ++ escapeText long 0 rest

/-! ## Values -/

/-- A string between its marks; a line break is put in front of a text with line breaks. -/
def stringChars (text : List Char) : List Char :=
  let marks := Marks.forText text
  let start := if marks.long && text.contains '\n' then ['\n'] else []
  let inner := match marks with
    | .quotes | .tripleQuotes => escapeText marks.long 0 text
    | .apostrophes | .tripleApostrophes => text
  marks.text ++ start ++ inner ++ marks.text

/-- A string between its marks. -/
def stringText (s : String) : String := String.ofList (stringChars s.toList)

/-- A list of strings in brackets. -/
def stringsText : List String → String
  | [] => "[]"
  | [s] => "[" ++ stringText s ++ "]"
  | items => "[\n" ++ String.join (items.map fun s => "    " ++ stringText s ++ ",\n") ++ "]"

/-! ## Lines -/

/-- The line of a table's header. -/
def headerLine (name : String) : String := "[" ++ name ++ "]\n"

/-- The line of an entry with the text of its value. -/
def entryLine (name value : String) : String := name ++ " = " ++ value ++ "\n"

end SearchNotation.Toml
