import SearchNotation.Text.Split

/-!
# Paths

A path is a text with slashes between its names. Two paths are the same if their names are, where
empty names and dots in the middle do not count; the text is what is shown. Nothing is looked up:
two dots are a name like others.
-/

set_option autoImplicit false

namespace SearchNotation

/-- A path. -/
structure Path where
  text : String
  deriving DecidableEq, Repr

namespace Path

/-- The parts between the slashes. -/
def parts (path : Path) : List String := (Text.splitAt '/' path.text.toList).map String.ofList

/-- A part that says nothing but at the front. -/
def isIdle (part : String) : Bool := part == "" || part == "."

/-- Whether the path starts at the root. -/
def isAbsolute (path : Path) : Bool := path.text.toList.head? == some '/'

/-- What tells paths apart: the first part, which is empty at the root, and the names after it. -/
def names (path : Path) : List String :=
  match path.parts with
  | [] => []
  | first :: rest => first :: rest.filter (!isIdle ·)

/-- Whether two paths are the same. -/
def same (p q : Path) : Bool := p.isAbsolute == q.isAbsolute && p.names == q.names

/-- The parts without idle ones at the end. -/
def dropIdleEnd (parts : List String) : List String := (parts.reverse.dropWhile isIdle).reverse

/-- The path of the parts after a slash for the root, or of the parts alone. -/
def ofParts (first : String) (rest : List String) : Path :=
  if first = "" ∧ rest = [] then ⟨"/"⟩ else ⟨"/".intercalate (first :: rest)⟩

/-- The path without its last name; neither the root nor an empty path has one. -/
def parent? (path : Path) : Option Path :=
  match path.parts with
  | [] => none
  | first :: rest =>
    match dropIdleEnd rest with
    | [] => if first = "" then none else some ⟨""⟩
    | name :: names => some (ofParts first (dropIdleEnd (name :: names).dropLast))

/-- The path of a name in a directory. -/
def join (path : Path) (name : String) : Path :=
  if path.text = "" ∨ path.text.toList.getLast? = some '/' then ⟨path.text ++ name⟩
  else ⟨path.text ++ "/" ++ name⟩

/-- The path itself and those above it, at most `limit` of them, the nearest first. -/
def upward (limit : Nat) (path : Path) : List Path :=
  match limit with
  | 0 => []
  | limit + 1 =>
    match path.parent? with
    | none => [path]
    | some parent => path :: upward limit parent

/-- The path itself and all above it, the nearest first. -/
def ancestors (path : Path) : List Path := upward (path.text.length + 1) path

end Path

end SearchNotation
