/-!
# Errors of reading JSON

An error is a cause at a position. Lines count from one; the column is the number of bytes since
the last line break, up to and including the byte that was wrong where one was looked at.
-/

set_option autoImplicit false

namespace SearchNotation.Json

/-- What is wrong with a text that is no JSON. -/
inductive Cause where
  | endOfList
  | endOfObject
  | endOfString
  | endOfValue
  | expectedColon
  | expectedItemEnd
  | expectedMemberEnd
  | expectedWord
  | expectedValue
  | invalidEscape
  | invalidNumber
  | numberOutOfRange
  | controlCharacter
  | keyNotString
  | loneSurrogate
  | unpairedSurrogate
  | trailingComma
  | trailingCharacters
  | nestingTooDeep
  deriving DecidableEq, Repr

/-- The wording of a cause. -/
def Cause.text : Cause → String
  | .endOfList => "EOF while parsing a list"
  | .endOfObject => "EOF while parsing an object"
  | .endOfString => "EOF while parsing a string"
  | .endOfValue => "EOF while parsing a value"
  | .expectedColon => "expected `:`"
  | .expectedItemEnd => "expected `,` or `]`"
  | .expectedMemberEnd => "expected `,` or `\x7d`"
  | .expectedWord => "expected ident"
  | .expectedValue => "expected value"
  | .invalidEscape => "invalid escape"
  | .invalidNumber => "invalid number"
  | .numberOutOfRange => "number out of range"
  | .controlCharacter => "control character (\\u0000-\\u001F) found while parsing a string"
  | .keyNotString => "key must be a string"
  | .loneSurrogate => "lone leading surrogate in hex escape"
  | .unpairedSurrogate => "unexpected end of hex escape"
  | .trailingComma => "trailing comma"
  | .trailingCharacters => "trailing characters"
  | .nestingTooDeep => "recursion limit exceeded"

/-- A place in a text. -/
structure Position where
  line : Nat
  column : Nat
  deriving DecidableEq, Repr

namespace Position

/-- The place reached from `start` by reading the first `bytes` bytes of a text. -/
def advance (start : Position) : List Char → Nat → Position
  | [], _ => start
  | c :: rest, bytes =>
    if bytes < c.utf8Size then { start with column := start.column + bytes }
    else if c = '\n' then advance ⟨start.line + 1, 0⟩ rest (bytes - c.utf8Size)
    else advance { start with column := start.column + c.utf8Size } rest (bytes - c.utf8Size)

/-- The place after the first `bytes` bytes of a text. -/
def after (text : List Char) (bytes : Nat) : Position := advance ⟨1, 0⟩ text bytes

/-- How a place is put at the end of a message. -/
def suffix (p : Position) : String := s!" at line {p.line} column {p.column}"

end Position

/-- A text is no JSON. -/
structure ReadError where
  cause : Cause
  position : Position
  deriving DecidableEq, Repr

/-- The message of an error. -/
def ReadError.message (e : ReadError) : String := e.cause.text ++ e.position.suffix

end SearchNotation.Json
