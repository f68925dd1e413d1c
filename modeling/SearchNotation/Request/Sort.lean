import SearchNotation.Json.Basic
import SearchNotation.Text.Blank
import SearchNotation.Text.Split

/-!
# Sort keys

A sort key is a field with a direction, written `FIELD`, `FIELD:asc` or `FIELD:desc`. The last
colon of the text parts the two; without one the direction is ascending. The direction may be in
any ASCII case and has no blanks beside it; blanks around the field are dropped.
-/

set_option autoImplicit false

namespace SearchNotation

/-- A direction of sorting. -/
inductive SortOrder where
  /-- Smallest first. -/
  | asc
  /-- Largest first. -/
  | desc
  deriving DecidableEq, Repr

/-- A text that is no sort key, or no direction. -/
structure InvalidSort where
  text : String
  deriving DecidableEq, Repr

/-- The message about a text that is no sort key. -/
def InvalidSort.message (e : InvalidSort) : String :=
  s!"invalid sort '{e.text}'; expected FIELD or FIELD:asc or FIELD:desc"

namespace SortOrder

/-- The name of a direction. -/
def name : SortOrder → String
  | .asc => "asc"
  | .desc => "desc"

/-- The direction with exactly this name. -/
def ofName? (name : String) : Option SortOrder := [asc, desc].find? (·.name = name)

/-- Ascending for a positive number, descending for any other. -/
def ofSign (n : Int) : SortOrder := if 0 < n then .asc else .desc

/-- The direction that a text names in any ASCII case. -/
def parse (text : String) : Except InvalidSort SortOrder :=
  match ofName? (String.ofList (text.toList.map Char.toLower)) with
  | some order => .ok order
  | none => .error ⟨text⟩

end SortOrder

/-- A field to sort by and its direction. -/
structure SortKey where
  field : String
  order : SortOrder
  deriving DecidableEq, Repr

namespace SortKey

/-- The key that a text stands for. -/
def parse (text : String) : Except InvalidSort SortKey :=
  match Text.splitAtLast? ':' text.toList with
  | none => key text.toList .asc
  | some (field, order) =>
    match SortOrder.parse (String.ofList order) with
    | .ok order => key field order
    | .error _ => .error ⟨text⟩
where
  /-- The key with a field that is not blank. -/
  key (field : List Char) (order : SortOrder) : Except InvalidSort SortKey :=
    match Text.trimChars field with
    | [] => .error ⟨text⟩
    | field => .ok ⟨String.ofList field, order⟩

/-- The key as the engine takes it. -/
def toJson (key : SortKey) : Json :=
  Json.single key.field (Json.single "order" (.string key.order.name))

end SortKey

end SearchNotation
