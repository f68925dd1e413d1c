import SearchNotation.Toml.Document

/-!
# Configuration layers

A layer is what one configuration file defines. Nothing has to be defined, and names that mean
nothing are passed over. A list of names may be a single string. A section is a table; an array
stands for the table of its items under the section's names in their order.
-/

set_option autoImplicit false

namespace SearchNotation

/-- What a file defines about searches. -/
structure SearchLayer where
  /-- The page size. -/
  size : Option Nat := none
  /-- The sort keys, as they are written. -/
  sort : Option (List String) := none
  /-- For how many seconds a scroll cursor is kept alive. -/
  scrollSeconds : Option Nat := none
  deriving DecidableEq, Repr

/-- What a file defines about the kinds in use. -/
structure KindLayer where
  disabledQueries : Option (List String) := none
  disabledAggregations : Option (List String) := none
  deriving DecidableEq, Repr

/-- What a file defines. -/
structure ConfigLayer where
  /-- Whether no files above this one are looked for. -/
  root : Option Bool := none
  search : Option SearchLayer := none
  kinds : Option KindLayer := none
  deriving DecidableEq, Repr

namespace ConfigLayer

/-! ## Values -/

/-- The value of an entry, if there is one; fails where the entry has a value of another type. -/
def optional? {α : Type} (entries : Toml.Table) (name : String) (decode : Toml.Value → Option α) :
    Option (Option α) :=
  match Dict.get? entries name with
  | none => some none
  | some value => (decode value).map some

/-- A flag. -/
def flag? : Toml.Value → Option Bool
  | .boolean b => some b
  | _ => none

/-- The first number that does not fit in 64 bits. -/
def countEnd : Nat := Nat.pow 2 64

/-- A number from zero on. -/
def count? : Toml.Value → Option Nat
  | .integer n => if 0 ≤ n ∧ n < countEnd then some n.toNat else none
  | _ => none

/-- A string. -/
def string? : Toml.Value → Option String
  | .string s => some s
  | _ => none

/-- One string or a list of them. -/
def strings? : Toml.Value → Option (List String)
  | .string s => some [s]
  | .array items => items.mapM string?
  | _ => none

/-- Whether all numbers under other names than these are in range. -/
def othersInRange (names : List String) (entries : Toml.Table) : Bool :=
  entries.all fun e => names.contains e.1 || e.2.inRange

/-- The entries of a section with the given names; a date has none of them. -/
def sectionEntries? (names : List String) : Toml.Value → Option Toml.Table
  | .table entries => if othersInRange names entries then some entries else none
  | .array items => some (names.zip items)
  | .moment _ => some []
  | _ => none

/-! ## Sections -/

/-- The section about searches. -/
def searchOf? (value : Toml.Value) : Option SearchLayer := do
  let entries ← sectionEntries? ["size", "sort", "scroll_seconds"] value
  let size ← optional? entries "size" count?
  let sort ← optional? entries "sort" strings?
  let scrollSeconds ← optional? entries "scroll_seconds" count?
  return { size, sort, scrollSeconds }

/-- The section about kinds. -/
def kindsOf? (value : Toml.Value) : Option KindLayer := do
  let entries ← sectionEntries? ["disabled_queries", "disabled_aggregations"] value
  let disabledQueries ← optional? entries "disabled_queries" strings?
  let disabledAggregations ← optional? entries "disabled_aggregations" strings?
  return { disabledQueries, disabledAggregations }

/-- The layer that a document defines. -/
def ofTable? (table : Toml.Table) : Option ConfigLayer := do
  let entries ← sectionEntries? ["root", "search", "kinds"] (.table table)
  let root ← optional? entries "root" flag?
  let search ← optional? entries "search" searchOf?
  let kinds ← optional? entries "kinds" kindsOf?
  return { root, search, kinds }

/-- The layer that the text of a file defines. -/
def read? (text : String) : Option ConfigLayer := (Toml.read? text).bind ofTable?

end ConfigLayer

end SearchNotation
