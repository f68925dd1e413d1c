import SearchNotation.Toml.Bare

/-!
# Reading statements of TOML

A document is a list of statements, each on lines of its own: a header, which names the table
that the following entries belong to, or an entry with a key and a value. Keys are paths of names.
Comments stand at the ends of lines; arrays and tables in braces may go over several lines.

Arrays and tables in braces are nested at most 80 deep, and a path has at most 80 names. Entries
of a table in braces are put together by the function `inlineTable?` that the readers are given.
-/

set_option autoImplicit false

namespace SearchNotation.Toml

/-- A path of names. -/
structure Key where
  first : String
  rest : List String
  deriving DecidableEq, Repr

/-- A statement of a document. -/
inductive Statement where
  /-- The following entries belong to the table with a name. -/
  | table (key : Key)
  /-- The following entries belong to a new table at the end of the list with a name. -/
  | listed (key : Key)
  | entry (key : Key) (value : Value)

/-- How deep values may be nested, and how many names a path may have. -/
def maxDepth : Nat := 80

/-! ## Between the parts -/

/-- Drops spaces and tabs at the front. -/
def skipBlanks (text : List Char) : List Char := text.dropWhile isBlank

/-- Drops blanks, line breaks and comments at the front; fails at a bad comment. -/
def skipGaps (inComment : Bool) : List Char → Option (List Char)
  | [] => some []
  | c :: rest =>
    if c = '\n' then skipGaps false rest
    else if c = '\r' && rest.head? = some '\n' then skipGaps false rest
    else if inComment then if isPlain c then skipGaps true rest else none
    else if c = '#' then skipGaps true rest
    else if isBlank c then skipGaps false rest
    else some (c :: rest)

/-- Whether a line has nothing more than a comment. -/
def atLineEnd : List Char → Bool
  | [] => true
  | c :: rest => c == '\n' || c == '#' || (c == '\r' && rest.head? == some '\n')

/-! ## Keys -/

/-- Whether a character may stand in a name without marks. -/
def isNameChar (c : Char) : Bool := c.isAlphanum || c == '_' || c == '-'

/-- Reads one name of a path. -/
def readName (text : List Char) : Reading String :=
  match text.takeWhile isNameChar with
  | [] => readShortString? text
  | name => some (String.ofList name, text.dropWhile isNameChar)

/-- Reads a path of at most `limit` names, with blanks around it and its points. -/
def readNames (limit : Nat) (text : List Char) : Option (List String × List Char) :=
  match limit with
  | 0 => none
  | limit + 1 => do
    let (name, rest) ← readName (skipBlanks text)
    match skipBlanks rest with
    | '.' :: rest =>
      let (names, rest) ← readNames limit rest
      return (name :: names, rest)
    | rest => return ([name], rest)

/-- Reads a path. -/
def readKey (text : List Char) : Reading Key :=
  match readNames maxDepth text with
  | some (first :: rest, text) => some (⟨first, rest⟩, text)
  | _ => none

/-! ## Values -/

/-- Whether a character ends a value without marks. -/
def endsBare (c : Char) : Bool :=
  c == ',' || c == ']' || c == '\x7d' || c == '[' || c == '\x7b' || c == '#' || c == '='
    || c == '\n' || c == '\r'

/-- Reads a value without marks and drops the blanks after it. -/
def readBare (text : List Char) : Reading Value :=
  let run := text.takeWhile (!endsBare ·)
  let trimmed := (run.reverse.dropWhile isBlank).reverse
  (Value.ofBare? trimmed).map fun value => (value, text.dropWhile (!endsBare ·))

variable (inlineTable? : List (Key × Value) → Option Table)

mutual

/-- Reads a value at the front; arrays and tables may be nested `depth` deep in it. -/
def readValue (steps depth : Nat) (text : List Char) : Option (Value × List Char) :=
  match steps with
  | 0 => none
  | steps + 1 =>
    match text with
    | '[' :: rest =>
      match depth with
      | 0 => none
      | depth + 1 => (readItems steps depth rest).map fun r => (.array r.1, r.2)
    | '\x7b' :: rest =>
      match depth with
      | 0 => none
      | depth + 1 => do
        let (entries, rest) ← readEntries steps depth rest
        return (.table (← inlineTable? entries), rest)
    | '"' :: _ | '\'' :: _ => (readString? text).map fun r => (.string r.1, r.2)
    | _ => readBare text
  termination_by structural steps

/-- Reads the items of an array up to its bracket; a comma may stand after the last. -/
def readItems (steps depth : Nat) (text : List Char) : Option (List Value × List Char) :=
  match steps with
  | 0 => none
  | steps + 1 => do
    match ← skipGaps false text with
    | ']' :: rest => return ([], rest)
    | rest =>
      let (item, rest) ← readValue steps depth rest
      match ← skipGaps false rest with
      | ']' :: rest => return ([item], rest)
      | ',' :: rest =>
        let (items, rest) ← readItems steps depth rest
        return (item :: items, rest)
      | _ => none
  termination_by structural steps

/-- Reads the entries of a table up to its brace; a comma may stand after the last. -/
def readEntries (steps depth : Nat) (text : List Char) : Option (List (Key × Value) × List Char) :=
  match steps with
  | 0 => none
  | steps + 1 => do
    match ← skipGaps false text with
    | '\x7d' :: rest => return ([], rest)
    | rest =>
      let (key, rest) ← readKey rest
      match ← skipGaps false rest with
      | '=' :: rest =>
        let (value, rest) ← readValue steps depth (← skipGaps false rest)
        match ← skipGaps false rest with
        | '\x7d' :: rest => return ([(key, value)], rest)
        | ',' :: rest =>
          let (entries, rest) ← readEntries steps depth rest
          return ((key, value) :: entries, rest)
        | _ => none
      | _ => none
  termination_by structural steps

end

/-! ## Statements -/

/-- A bound on the steps of reading a value from a text. -/
def stepBound (text : List Char) : Nat := 2 * text.length + 2

/-- Reads a statement at the front. -/
def readStatement (text : List Char) : Option (Statement × List Char) :=
  match text with
  | '[' :: '[' :: rest => do
    let (key, rest) ← readKey rest
    match rest with
    | ']' :: ']' :: rest => return (.listed key, rest)
    | _ => none
  | '[' :: rest => do
    let (key, rest) ← readKey rest
    match rest with
    | ']' :: rest => return (.table key, rest)
    | _ => none
  | _ => do
    let (key, rest) ← readKey text
    match rest with
    | '=' :: rest =>
      let rest := skipBlanks rest
      let (value, rest) ← readValue inlineTable? (stepBound rest) maxDepth rest
      return (.entry key value, rest)
    | _ => none

/-- Reads statements up to the end of the text, at most `steps` of them. -/
def readStatements (steps : Nat) (text : List Char) : Option (List Statement) :=
  match steps with
  | 0 => none
  | steps + 1 => do
    match ← skipGaps false text with
    | [] => return []
    | rest =>
      let (statement, rest) ← readStatement inlineTable? rest
      guard (atLineEnd (skipBlanks rest))
      let others ← readStatements steps rest
      return statement :: others

end SearchNotation.Toml
