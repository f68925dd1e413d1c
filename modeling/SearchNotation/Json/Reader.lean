import SearchNotation.Json.Basic
import SearchNotation.Json.Error
import SearchNotation.Text.Hexadecimal

/-!
# Reading JSON

`Json.read` accepts exactly one value with blanks around it, nested at most 127 deep. Of two
members with one key the last stays. A failure inside the text is kept as the number of bytes not
yet read, which the whole text turns into a position.

The readers return the value and the rest of the text. Those for nested values count their steps
down; a text of `n` characters needs at most `2 * n + 2` of them.
-/

set_option autoImplicit false

namespace SearchNotation.Json

/-- The number of bytes of a text. -/
def byteLength (text : List Char) : Nat := text.foldr (fun c n => c.utf8Size + n) 0

/-- A cause, and the number of bytes that were not read when it was found. -/
structure Failure (ε : Type) where
  cause : ε
  unread : Nat

/-- A reader's answer: a value and the rest of the text. -/
abbrev Reading (ε α : Type) := Except (Failure ε) (α × List Char)

/-- A failure found after reading all before `rest`. -/
def failAt {ε α : Type} (cause : ε) (rest : List Char) : Except (Failure ε) α :=
  .error ⟨cause, byteLength rest⟩

/-- A failure found at the first byte of `rest`, which counts as read. -/
def failPast {ε α : Type} (cause : ε) (rest : List Char) : Except (Failure ε) α :=
  .error ⟨cause, byteLength rest - 1⟩

/-- Whether a character may stand between the parts of a text. -/
def isBlank (c : Char) : Bool := c == ' ' || c == '\n' || c == '\t' || c == '\r'

/-- Drops the blanks at the front. -/
def skipBlanks (text : List Char) : List Char := text.dropWhile isBlank

/-- Reads the rest of a word whose first letter has been read. -/
def readWord (word : List Char) (text : List Char) : Except (Failure Cause) (List Char) :=
  match word, text with
  | [], rest => .ok rest
  | _ :: _, [] => failAt .endOfValue []
  | expected :: word, c :: rest =>
    if c = expected then readWord word rest else failPast .expectedWord (c :: rest)

/-! ## Numbers -/

/-- The value of a decimal digit. -/
def digitValue (c : Char) : Nat := c.toNat - '0'.toNat

/-- The digits at the front and the rest. -/
def spanDigits (text : List Char) : List Nat × List Char :=
  ((text.takeWhile Char.isDigit).map digitValue, text.dropWhile Char.isDigit)

/-- Appends digits to a number as long as it stays within `limit`; the others are returned. -/
def absorb (limit : Nat) (n : Nat) : List Nat → Nat × List Nat
  | [] => (n, [])
  | d :: ds => if n * 10 + d ≤ limit then absorb limit (n * 10 + d) ds else (n, d :: ds)

/-- The largest number whose digits are kept exactly. -/
def maxSignificand : Nat := Number.intEnd - 1

/-- The largest exponent that is kept; a larger one is as good as infinite. -/
def maxExponent : Nat := Nat.pow 2 31 - 1

/-- The floating point number with the given parts, read up to `rest`. -/
def realOfParts (negative : Bool) (digits : Nat) (exponent : Int) (rest : List Char) :
    Reading Cause Number :=
  match Binary64.ofDecimal negative digits exponent with
  | some x => .ok (.real x, rest)
  | none => failAt .numberOutOfRange rest

/-- Reads the exponent after its letter. -/
def readExponent (negative : Bool) (digits : Nat) (start : Int) (text : List Char) :
    Reading Cause Number :=
  let (minus, text) := match text with
    | '+' :: rest => (false, rest)
    | '-' :: rest => (true, rest)
    | _ => (false, text)
  match spanDigits text with
  | ([], _) => if text.isEmpty then failAt .endOfValue [] else failPast .invalidNumber text
  | (ds, rest) =>
    match absorb maxExponent 0 ds with
    | (exponent, []) =>
      realOfParts negative digits (if minus then start - exponent else start + exponent) rest
    | (_, _ :: unread) =>
      if digits = 0 ∨ minus then .ok (.real (.zero negative), rest)
      else .error ⟨.numberOutOfRange, unread.length + byteLength rest⟩

/-- Reads what follows the digits before the point. -/
def readFraction (negative : Bool) (digits dropped : Nat) (text : List Char) :
    Reading Cause Number :=
  match text with
  | '.' :: text =>
    match spanDigits text with
    | ([], _) => failPast (if text.isEmpty then .endOfValue else .invalidNumber) text
    | (ds, rest) =>
      let (digits', left) := absorb maxSignificand digits ds
      let exponent : Int := (dropped : Int) - (ds.length - left.length : Nat)
      match rest with
      | 'e' :: rest | 'E' :: rest => readExponent negative digits' exponent rest
      | _ => realOfParts negative digits' exponent rest
  | 'e' :: rest | 'E' :: rest => readExponent negative digits dropped rest
  | _ =>
    if dropped ≠ 0 then realOfParts negative digits dropped text
    else if !negative then .ok (.int digits, text)
    else if 0 < digits ∧ digits ≤ Number.minIntMagnitude then .ok (.int (-digits), text)
    else realOfParts true digits 0 text

/-- Reads a number whose sign has been read. -/
def readNumber (negative : Bool) (text : List Char) : Reading Cause Number :=
  match spanDigits text with
  | ([], _) => if text.isEmpty then failAt .endOfValue [] else failPast .invalidNumber text
  | (0 :: _ :: _, _) => failPast .invalidNumber (text.drop 1)
  | (ds, rest) =>
    let (digits, dropped) := absorb maxSignificand 0 ds
    readFraction negative digits dropped.length rest

/-! ## Strings -/

/-- The value of four hexadecimal digits. -/
def hexValue4? (a b c d : Char) : Option Nat :=
  match Text.hexValue? a, Text.hexValue? b, Text.hexValue? c, Text.hexValue? d with
  | some a, some b, some c, some d => some (((a * 16 + b) * 16 + c) * 16 + d)
  | _, _, _, _ => none

/-- A failure at the four bytes of an escape that are no digits, or at the end if it is sooner. -/
def failHex {α : Type} (text : List Char) : Except (Failure Cause) α :=
  let bytes := byteLength text
  if bytes < 4 then .error ⟨.endOfString, 0⟩ else .error ⟨.invalidEscape, bytes - 4⟩

/-- Whether a number is the first half of a pair of surrogates. -/
def isLeadingSurrogate (n : Nat) : Bool := 0xD800 ≤ n && n ≤ 0xDBFF

/-- Whether a number is the second half of a pair of surrogates. -/
def isTrailingSurrogate (n : Nat) : Bool := 0xDC00 ≤ n && n ≤ 0xDFFF

/-- The character that a pair of surrogates stands for. -/
def pairedChar (leading trailing : Nat) : Char :=
  Char.ofNat ((leading - 0xD800) * 0x400 + (trailing - 0xDC00) + 0x10000)

/-- The character that stands for itself, or a control character, after a backslash. -/
def shortEscape? : Char → Option Char
  | '"' => some '"'
  | '\\' => some '\\'
  | '/' => some '/'
  | 'b' => some '\x08'
  | 'f' => some '\x0c'
  | 'n' => some '\n'
  | 'r' => some '\r'
  | 't' => some '\t'
  | _ => none

/-- Where an escape with the first half of a pair is not followed by one with the second half. -/
def failPair {α : Type} : List Char → Except (Failure Cause) α
  | [] => failAt .endOfString []
  | '\\' :: [] => failAt .endOfString []
  | '\\' :: 'u' :: rest => failHex rest
  | '\\' :: rest => failPast .unpairedSurrogate rest
  | text => failPast .unpairedSurrogate text

/-- Reads the characters of a string up to its closing quote. -/
def readChars : List Char → Reading Cause (List Char)
  | [] => failAt .endOfString []
  | '"' :: rest => .ok ([], rest)
  | '\\' :: 'u' :: a :: b :: c :: d :: rest =>
    match hexValue4? a b c d with
    | none => failHex (a :: b :: c :: d :: rest)
    | some n =>
      if isTrailingSurrogate n then failAt .loneSurrogate rest
      else if isLeadingSurrogate n then
        match rest with
        | '\\' :: 'u' :: a' :: b' :: c' :: d' :: rest' =>
          match hexValue4? a' b' c' d' with
          | none => failHex (a' :: b' :: c' :: d' :: rest')
          | some m =>
            if isTrailingSurrogate m then
              (readChars rest').map fun r => (pairedChar n m :: r.1, r.2)
            else failAt .loneSurrogate rest'
        | _ => failPair rest
      else (readChars rest).map fun r => (Char.ofNat n :: r.1, r.2)
  | '\\' :: 'u' :: rest => failHex rest
  | '\\' :: [] => failAt .endOfString []
  | '\\' :: c :: rest =>
    match shortEscape? c with
    | some c => (readChars rest).map fun r => (c :: r.1, r.2)
    | none => failPast .invalidEscape (c :: rest)
  | c :: rest =>
    if c.toNat < 0x20 then failPast .controlCharacter (c :: rest)
    else (readChars rest).map fun r => (c :: r.1, r.2)
  termination_by structural text => text

/-- Reads a string whose opening quote has been read. -/
def readString (text : List Char) : Reading Cause String :=
  (readChars text).map fun r => (String.ofList r.1, r.2)

/-! ## Values -/

/-- Reads the colon between a key and its value. -/
def readColon (text : List Char) : Except (Failure Cause) (List Char) :=
  match skipBlanks text with
  | ':' :: rest => .ok rest
  | [] => failPast .endOfObject []
  | rest => failPast .expectedColon rest

/-- What follows in a list of items: its end, or the text of the next one. -/
def nextItem (first : Bool) (text : List Char) :
    Except (Failure Cause) (List Char ⊕ List Char) :=
  match skipBlanks text with
  | [] => failPast .endOfList []
  | ']' :: rest => .ok (.inl rest)
  | c :: rest =>
    if first then .ok (.inr (c :: rest))
    else if c = ',' then
      match skipBlanks rest with
      | [] => failPast .endOfValue []
      | ']' :: rest => failPast .trailingComma (']' :: rest)
      | rest => .ok (.inr rest)
    else failPast .expectedItemEnd (c :: rest)

/-- What follows in a list of members: its end, or the text of the next key after its quote. -/
def nextMember (first : Bool) (text : List Char) :
    Except (Failure Cause) (List Char ⊕ List Char) :=
  match skipBlanks text with
  | [] => failPast .endOfObject []
  | '\x7d' :: rest => .ok (.inl rest)
  | c :: rest =>
    if first then
      if c = '"' then .ok (.inr rest) else failPast .keyNotString (c :: rest)
    else if c = ',' then
      match skipBlanks rest with
      | [] => failPast .endOfValue []
      | '"' :: rest => .ok (.inr rest)
      | '\x7d' :: rest => failPast .trailingComma ('\x7d' :: rest)
      | rest => failPast .keyNotString rest
    else failPast .expectedMemberEnd (c :: rest)

mutual

/-- Reads a value; arrays and objects may be nested `depth` deep in it. -/
def readValue (steps depth : Nat) (text : List Char) : Reading Cause Json :=
  match steps with
  | 0 => failPast .endOfValue text
  | steps + 1 =>
    match skipBlanks text with
    | [] => failPast .endOfValue []
    | 'n' :: rest => (readWord "ull".toList rest).map fun rest => (.null, rest)
    | 't' :: rest => (readWord "rue".toList rest).map fun rest => (.bool true, rest)
    | 'f' :: rest => (readWord "alse".toList rest).map fun rest => (.bool false, rest)
    | '-' :: rest => (readNumber true rest).map fun r => (.number r.1, r.2)
    | '"' :: rest => (readString rest).map fun r => (.string r.1, r.2)
    | '[' :: rest =>
      match depth with
      | 0 => failPast .nestingTooDeep ('[' :: rest)
      | depth + 1 => (readItems steps depth true rest).map fun r => (.array r.1, r.2)
    | '\x7b' :: rest =>
      match depth with
      | 0 => failPast .nestingTooDeep ('\x7b' :: rest)
      | depth + 1 =>
        (readMembers steps depth true rest).map fun r => (.object (Dict.ofList r.1), r.2)
    | c :: rest =>
      if c.isDigit then (readNumber false (c :: rest)).map fun r => (.number r.1, r.2)
      else failPast .expectedValue (c :: rest)
  termination_by structural steps

/-- Reads the items of an array up to its bracket. -/
def readItems (steps depth : Nat) (first : Bool) (text : List Char) :
    Except (Failure Cause) (List Json × List Char) :=
  match steps with
  | 0 => failPast .endOfList text
  | steps + 1 => do
    match ← nextItem first text with
    | .inl rest => return ([], rest)
    | .inr rest =>
      let (item, rest) ← readValue steps depth rest
      let (items, rest) ← readItems steps depth false rest
      return (item :: items, rest)
  termination_by structural steps

/-- Reads the members of an object up to its brace. -/
def readMembers (steps depth : Nat) (first : Bool) (text : List Char) :
    Except (Failure Cause) (List (String × Json) × List Char) :=
  match steps with
  | 0 => failPast .endOfObject text
  | steps + 1 => do
    match ← nextMember first text with
    | .inl rest => return ([], rest)
    | .inr rest =>
      let (key, rest) ← readString rest
      let rest ← readColon rest
      let (value, rest) ← readValue steps depth rest
      let (members, rest) ← readMembers steps depth false rest
      return ((key, value) :: members, rest)
  termination_by structural steps

end

/-- How deep arrays and objects may be nested. -/
def maxDepth : Nat := 127

/-- A bound on the steps of reading a value from a text. -/
def stepBound (text : List Char) : Nat := 2 * text.length + 2

/-- Reads a value and checks that only blanks follow. -/
def readAll (text : List Char) : Except (Failure Cause) Json := do
  let (value, rest) ← readValue (stepBound text) maxDepth text
  match skipBlanks rest with
  | [] => return value
  | rest => failPast .trailingCharacters rest

/-- Turns the unread bytes of a failure into a position of the text. -/
def Failure.position {ε : Type} (f : Failure ε) (text : List Char) : Position :=
  Position.after text (byteLength text - f.unread)

/-- Reads the JSON value that a text holds. -/
def read (text : String) : Except ReadError Json :=
  let chars := text.toList
  (readAll chars).mapError fun f => ⟨f.cause, f.position chars⟩

end SearchNotation.Json
