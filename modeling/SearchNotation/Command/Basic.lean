import SearchNotation.Registry.Builder
import SearchNotation.Request.Sort

/-!
# Commands

What a command line asks for.
-/

set_option autoImplicit false

namespace SearchNotation

/-- How a compiled notation is shown. -/
structure Display where
  /-- As an outline in place of JSON. -/
  tree : Bool
  /-- JSON on one line. -/
  compact : Bool
  deriving DecidableEq, Repr

/-- A scroll cursor that is asked for. -/
inductive ScrollOption where
  /-- For as long as the settings say. -/
  | configured
  | seconds (n : Nat)
  deriving DecidableEq, Repr

/-- What a request is made of. -/
structure RequestOptions where
  index : String
  /-- The query, or a mark for the standard input. -/
  query : Option String := none
  /-- The aggregations, or a mark for the standard input. -/
  aggregations : Option String := none
  size : Option Nat := none
  offset : Nat := 0
  scroll : Option ScrollOption := none
  sort : List SortKey := []
  includes : List String := []
  excludes : List String := []
  compact : Bool := false
  deriving DecidableEq, Repr

/-- What a command shows. -/
inductive Report where
  /-- The query that a notation stands for. -/
  | query (text : String) (display : Display)
  /-- The aggregations that a notation stands for. -/
  | aggregations (text : String) (display : Display)
  /-- A search request. -/
  | request (options : RequestOptions)
  /-- The kinds of a family, or of both. -/
  | kinds (family : Option Family) (json : Bool)
  /-- The settings in effect. -/
  | settings
  deriving DecidableEq, Repr

/-- A command. -/
inductive Command where
  /-- Shows something under the configuration. -/
  | report (report : Report)
  /-- Writes a new configuration file. -/
  | init (global force : Bool)
  /-- Shows the version. -/
  | version
  deriving DecidableEq, Repr

/-- The value of an argument that stands for the standard input. -/
def inputMark : String := "-"

end SearchNotation
