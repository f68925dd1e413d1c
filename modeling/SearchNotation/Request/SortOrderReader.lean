import SearchNotation.Json.Reader
import SearchNotation.Request.Sort
import SearchNotation.Text.Quoted

/-!
# Directions in JSON

A direction stands in JSON as its name, or as an object whose only key is the name and whose value
is null. The case of the name counts here.
-/

set_option autoImplicit false

namespace SearchNotation.SortOrder

/-- What was found where something else was expected. -/
inductive Found where
  | bool (value : Bool)
  | number (value : Json.Number)
  | string (value : String)
  | sequence
  | map
  deriving DecidableEq

/-- The wording of what was found. -/
def Found.text : Found → String
  | .bool b => s!"boolean `{b}`"
  | .number (.int n) => s!"integer `{n}`"
  | .number (.real x) => s!"floating point `{Json.Number.realText x}`"
  | .string s => s!"string {Text.quoted s}"
  | .sequence => "sequence"
  | .map => "map"

/-- Why a text is no direction. -/
inductive ReadCause where
  | malformed (cause : Json.Cause)
  | unknownName (name : String)
  /-- Something else than null stands beside the name. -/
  | notNull (found : Found)
  deriving DecidableEq

/-- The wording of a cause. -/
def ReadCause.text : ReadCause → String
  | .malformed cause => cause.text
  | .unknownName name => s!"unknown variant `{name}`, expected `asc` or `desc`"
  | .notNull found => s!"invalid type: {found.text}, expected unit"

/-- A text is no direction in JSON. -/
structure ReadError where
  cause : ReadCause
  position : Json.Position
  deriving DecidableEq

/-- The message of an error. -/
def ReadError.message (e : ReadError) : String := e.cause.text ++ e.position.suffix

open Json

/-- A reader of JSON used here. -/
def lift {α : Type} (x : Except (Failure Cause) α) : Except (Failure ReadCause) α :=
  x.mapError fun f => ⟨.malformed f.cause, f.unread⟩

/-- The failure for a value that is not null, of which only a scalar is read to its end. -/
def failNotNull {α : Type} (text : List Char) : Except (Failure ReadCause) α := do
  let found (what : Found) (rest : List Char) : Except (Failure ReadCause) α :=
    failAt (.notNull what) rest
  match text with
  | 't' :: rest => found (.bool true) (← lift (readWord "rue".toList rest))
  | 'f' :: rest => found (.bool false) (← lift (readWord "alse".toList rest))
  | '-' :: rest =>
    let (n, rest) ← lift (readNumber true rest)
    found (.number n) rest
  | '"' :: rest =>
    let (s, rest) ← lift (readString rest)
    found (.string s) rest
  | '[' :: _ => found .sequence text
  | '\x7b' :: _ => found .map text
  | c :: _ =>
    if c.isDigit then
      let (n, rest) ← lift (readNumber false text)
      found (.number n) rest
    else failPast (.malformed .expectedValue) text
  | [] => failPast (.malformed .endOfValue) []

/-- Reads the name of a direction whose opening quote has been read. -/
def readName (text : List Char) : Except (Failure ReadCause) (SortOrder × List Char) := do
  let (name, rest) ← lift (readString text)
  match ofName? name with
  | some order => return (order, rest)
  | none => failAt (.unknownName name) rest

/-- Reads the key of an object, which is the name of a direction. -/
def readKey (text : List Char) : Except (Failure ReadCause) (SortOrder × List Char) :=
  match skipBlanks text with
  | '"' :: rest => readName rest
  | [] => failPast (.malformed .endOfObject) []
  | '\x7d' :: rest => failPast (.malformed .expectedValue) ('\x7d' :: rest)
  | text => failPast (.malformed .keyNotString) text

/-- Reads the null beside a name. -/
def readNull (text : List Char) : Except (Failure ReadCause) (List Char) :=
  match skipBlanks text with
  | 'n' :: rest => lift (readWord "ull".toList rest)
  | text => failNotNull text

/-- Reads a direction in either form. -/
def readForm (text : List Char) : Except (Failure ReadCause) (SortOrder × List Char) :=
  match skipBlanks text with
  | [] => failPast (.malformed .endOfValue) []
  | '"' :: rest => readName rest
  | '\x7b' :: rest => do
    let (order, rest) ← readKey rest
    let rest ← readNull (← lift (readColon rest))
    match skipBlanks rest with
    | '\x7d' :: rest => return (order, rest)
    | [] => failAt (.malformed .endOfObject) []
    | rest => failAt (.malformed .expectedValue) rest
  | text => failPast (.malformed .expectedValue) text

/-- Reads the direction that a JSON text holds. -/
def readJson (text : String) : Except ReadError SortOrder :=
  let chars := text.toList
  let answer : Except (Failure ReadCause) SortOrder := do
    let (order, rest) ← readForm chars
    match skipBlanks rest with
    | [] => return order
    | rest => failPast (.malformed .trailingCharacters) rest
  answer.mapError fun f => ⟨f.cause, f.position chars⟩

/-- The direction in JSON. -/
def toJson (order : SortOrder) : Json := .string order.name

end SearchNotation.SortOrder
