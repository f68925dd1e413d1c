import SearchNotation.Text.Hexadecimal

/-!
# Strings of TOML

A string stands between quotes or apostrophes, on one line between single ones and over several
lines between triple ones. Between quotes a backslash starts an escape; over several lines, one at
the end of a line joins it to the next text. A line break right after an opening triple is not
part of the string, and the last two of five closing quotes in a row are.

The readers start after the opening mark and return the characters with the rest of the text.
-/

set_option autoImplicit false

namespace SearchNotation.Toml

/-- A reader's answer: a value and the rest of the text. -/
abbrev Reading (α : Type) := Option (α × List Char)

/-! ## Characters -/

/-- A space or a tab. -/
def isBlank (c : Char) : Bool := c == ' ' || c == '\t'

/-- Whether a character may stand in a comment and, unless it is a mark, in a string. -/
def isPlain (c : Char) : Bool := c == '\t' || (0x20 ≤ c.toNat && c.toNat != 0x7F)

/-- The character with a code point, if the number is one. -/
def charOfCode? (code : Nat) : Option Char := if code.isValidChar then some (.ofNat code) else none

/-- The character that a letter or mark after a backslash stands for. -/
def shortEscape? : Char → Option Char
  | 'b' => some '\x08'
  | 't' => some '\t'
  | 'n' => some '\n'
  | 'f' => some '\x0c'
  | 'r' => some '\r'
  | 'e' => some '\x1b'
  | '"' => some '"'
  | '\\' => some '\\'
  | _ => none

/-- The number of hexadecimal digits after a letter that starts a code point. -/
def codeLength? : Char → Option Nat
  | 'x' => some 2
  | 'u' => some 4
  | 'U' => some 8
  | _ => none

/-! ## Closing marks -/

/--
The end of a string between triple marks, where it stands at the front: the marks before the
closing three that belong to the string, and the rest.
-/
def closing? (mark : Char) (text : List Char) : Reading (List Char) :=
  match text with
  | a :: b :: c :: rest =>
    if a = mark ∧ b = mark ∧ c = mark then
      let extra := min 2 (rest.takeWhile (· = mark)).length
      some (List.replicate extra mark, rest.drop extra)
    else none
  | _ => none

/-- Drops a line break at the front. -/
def dropLineBreak : List Char → List Char
  | '\n' :: rest => rest
  | '\r' :: '\n' :: rest => rest
  | text => text

/-! ## Between apostrophes -/

/-- Reads a string on one line between apostrophes. -/
def readLiteral : List Char → Reading (List Char)
  | [] => none
  | c :: rest =>
    if c = '\'' then some ([], rest)
    else if isPlain c then (readLiteral rest).map fun r => (c :: r.1, r.2)
    else none

/-- Reads a string between triple apostrophes. -/
def readLongLiteral : List Char → Reading (List Char)
  | [] => none
  | c :: rest =>
    match closing? '\'' (c :: rest) with
    | some closed => some closed
    | none =>
      if isPlain c || c = '\n' || (c = '\r' && rest.head? = some '\n') then
        (readLongLiteral rest).map fun r => (c :: r.1, r.2)
      else none

/-! ## Between quotes -/

/-- How far an escape has been read. -/
inductive Escape where
  /-- There is none. -/
  | outside
  /-- After its backslash. -/
  | backslash
  /-- Before some more digits of a code point, with the value of those before. -/
  | code (left value : Nat)
  /-- In the blanks between a backslash and the line break after it. -/
  | lineEnd
  /-- In the blanks and line breaks after that line break. -/
  | lineStart
  deriving DecidableEq, Repr

/-- Puts a character in front of what is read after it. -/
def prepend (c : Char) (r : Reading (List Char)) : Reading (List Char) :=
  r.map fun r => (c :: r.1, r.2)

/-- Reads a string on one line between quotes. -/
def readBasic (escape : Escape) : List Char → Reading (List Char)
  | [] => none
  | c :: rest =>
    match escape with
    | .backslash =>
      match shortEscape? c, codeLength? c with
      | some e, _ => prepend e (readBasic .outside rest)
      | none, some left => readBasic (.code left 0) rest
      | none, none => none
    | .code left value =>
      match Text.hexValue? c with
      | none => none
      | some digit =>
        let value := value * 16 + digit
        if 1 < left then readBasic (.code (left - 1) value) rest
        else
          match charOfCode? value with
          | some e => prepend e (readBasic .outside rest)
          | none => none
    | _ =>
      if c = '"' then some ([], rest)
      else if c = '\\' then readBasic .backslash rest
      else if isPlain c then prepend c (readBasic .outside rest)
      else none

/-- Reads a string between triple quotes. -/
def readLongBasic (escape : Escape) : List Char → Reading (List Char)
  | [] => none
  | c :: rest =>
    match escape with
    | .backslash =>
      match shortEscape? c, codeLength? c with
      | some e, _ => prepend e (readLongBasic .outside rest)
      | none, some left => readLongBasic (.code left 0) rest
      | none, none =>
        if isBlank c then readLongBasic .lineEnd rest
        else if c = '\n' then readLongBasic .lineStart rest
        else if c = '\r' && rest.head? = some '\n' then readLongBasic .lineEnd rest
        else none
    | .code left value =>
      match Text.hexValue? c with
      | none => none
      | some digit =>
        let value := value * 16 + digit
        if 1 < left then readLongBasic (.code (left - 1) value) rest
        else
          match charOfCode? value with
          | some e => prepend e (readLongBasic .outside rest)
          | none => none
    | .lineEnd =>
      if isBlank c then readLongBasic .lineEnd rest
      else if c = '\n' then readLongBasic .lineStart rest
      else if c = '\r' && rest.head? = some '\n' then readLongBasic .lineEnd rest
      else none
    | escape =>
      if escape = .lineStart && (isBlank c || c = '\n') then readLongBasic .lineStart rest
      else if escape = .lineStart && c = '\r' && rest.head? = some '\n' then
        readLongBasic .lineStart rest
      else
        match closing? '"' (c :: rest) with
        | some closed => some closed
        | none =>
          if c = '\\' then readLongBasic .backslash rest
          else if isPlain c || c = '\n' || (c = '\r' && rest.head? = some '\n') then
            prepend c (readLongBasic .outside rest)
          else none

/-! ## All strings -/

/-- Reads a string on one line with its opening mark. -/
def readShortString? : List Char → Reading String
  | '"' :: rest => (readBasic .outside rest).map fun r => (String.ofList r.1, r.2)
  | '\'' :: rest => (readLiteral rest).map fun r => (String.ofList r.1, r.2)
  | _ => none

/-- Reads a string with its opening mark. -/
def readString? : List Char → Reading String
  | '"' :: '"' :: '"' :: rest =>
    (readLongBasic .outside (dropLineBreak rest)).map fun r => (String.ofList r.1, r.2)
  | '\'' :: '\'' :: '\'' :: rest =>
    (readLongLiteral (dropLineBreak rest)).map fun r => (String.ofList r.1, r.2)
  | text => readShortString? text

end SearchNotation.Toml
