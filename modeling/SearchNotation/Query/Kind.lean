import SearchNotation.Compile.Error
import SearchNotation.Query.Predicate

/-!
# Query kinds

A query kind says how a named entry of the notation becomes a predicate: the shape its argument
takes, and how the predicate is built from the parameters. A `QueryTable` holds the kinds that can
be used, with the ways of naming them.
-/

set_option autoImplicit false

namespace SearchNotation

/-- How many named arguments a kind takes. -/
inductive Arity where
  /-- One, by itself or under its key. -/
  | unary
  /-- A field and what it is tested for. -/
  | binary
  /-- A field and bounds. -/
  | ternary
  deriving DecidableEq, Repr

namespace Arity

/-- The name of an arity. -/
def name : Arity → String
  | .unary => "unary"
  | .binary => "binary"
  | .ternary => "ternary"

/-- The arity with a name. -/
def ofName? (name : String) : Option Arity :=
  [unary, binary, ternary].find? (·.name = name)

end Arity

/-- A kind of query. -/
structure QueryKind where
  name : String
  /-- Other names of the kind. -/
  aliases : List String
  arity : Arity
  /-- The key of the main argument. -/
  argument : String
  /-- Whether the main argument may be an array of scalars. -/
  acceptsArray : Bool
  /-- Builds the predicate from the parameters. -/
  construct : Bag → Except CompileError Predicate

/-- The query kinds in use. -/
structure QueryTable where
  /-- The kinds by name. -/
  kinds : Dict QueryKind
  /-- The name of a kind by each of its other names. -/
  aliases : Dict String
  /-- The name of a kind by the name of its builder. -/
  builders : Dict String

namespace QueryTable

/-- A table without kinds. -/
def empty : QueryTable := ⟨[], [], []⟩

/-- The kind with a name or other name. -/
def lookup? (table : QueryTable) (name : String) : Option QueryKind :=
  Dict.get? table.kinds ((Dict.get? table.aliases name).getD name)

/-- The kind whose builder has a name. -/
def lookupBuilder? (table : QueryTable) (builder : String) : Option QueryKind :=
  (Dict.get? table.builders builder).bind (Dict.get? table.kinds)

/-- The kinds in the order of their names. -/
def toList (table : QueryTable) : List QueryKind := table.kinds.map (·.2)

end QueryTable

/-! ## The keys of a range -/

/-- A key that bounds a range, and whether the bound belongs to the range. -/
structure BoundKey where
  key : String
  inclusive : Bool
  deriving DecidableEq, Repr

/-- The keys of an upper bound; the first that is present is the bound. -/
def upperBoundKeys : List BoundKey := [⟨"lt", false⟩, ⟨"lte", true⟩, ⟨"to", true⟩]

/-- The keys of a lower bound; the first that is present is the bound. -/
def lowerBoundKeys : List BoundKey := [⟨"gt", false⟩, ⟨"gte", true⟩, ⟨"from", true⟩]

/-- All keys that bound a range. -/
def boundKeys : List String := (upperBoundKeys ++ lowerBoundKeys).map (·.key)

end SearchNotation
