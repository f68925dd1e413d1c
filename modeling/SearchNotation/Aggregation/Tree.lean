import SearchNotation.Json.Writer
import SearchNotation.Notation.Basic

/-!
# Aggregations

An aggregation has a name, a body for the engine and sub-aggregations. Siblings are written as one
object with a member for each name, and as an outline with one line for each aggregation.
-/

set_option autoImplicit false

namespace SearchNotation

/-- An aggregation with its sub-aggregations. -/
structure Aggregation where
  /-- The name of the kind. -/
  kind : String
  /-- The name that the result is reported under. -/
  name : String
  /-- The parameters, without the name and the sub-aggregations. -/
  params : Bag
  children : List Aggregation
  /-- The engine's name of the kind. -/
  engineName : String
  body : Json

namespace Aggregation

/-! ## Engine form -/

mutual

/-- The aggregation as the engine takes it, with its children under `aggs`. -/
def toJson : Aggregation → Json
  | ⟨_, _, _, children, engineName, body⟩ =>
    let members := membersOf children
    let own := [(engineName, body)]
    .object <|
      if members.isEmpty then own else Dict.insert own "aggs" (.object (Dict.ofList members))
  termination_by structural aggregation => aggregation

/-- A member for each sibling, in their order. -/
def membersOf : List Aggregation → List (String × Json)
  | [] => []
  | aggregation :: rest => (aggregation.name, toJson aggregation) :: membersOf rest
  termination_by structural aggregations => aggregations

end

/-- Siblings as the engine takes them; of two with one name the last stays. -/
def siblingsToJson (aggregations : List Aggregation) : Json :=
  .object (Dict.ofList (membersOf aggregations))

/-! ## Outline -/

/-- The name of the kind, the name where it is another, and the body. -/
def title (aggregation : Aggregation) : String :=
  let body := aggregation.body.compact
  if aggregation.name = aggregation.kind then s!"{aggregation.kind} {body}"
  else s!"{aggregation.kind} as {Text.quoted aggregation.name} {body}"

mutual

/-- The aggregation and all below it, each with its depth, parents first. -/
def outline (depth : Nat) : Aggregation → List (Nat × Aggregation)
  | ⟨kind, name, params, children, engineName, body⟩ =>
    (depth, ⟨kind, name, params, children, engineName, body⟩) :: outlines (depth + 1) children
  termination_by structural aggregation => aggregation

/-- The outlines of siblings one after the other. -/
def outlines (depth : Nat) : List Aggregation → List (Nat × Aggregation)
  | [] => []
  | aggregation :: rest => outline depth aggregation ++ outlines depth rest
  termination_by structural aggregations => aggregations

end

/-- The outline of an aggregation, two blanks for each depth. -/
def text (aggregation : Aggregation) : String :=
  String.join ((aggregation.outline 0).map fun (depth, a) =>
    String.ofList (List.replicate (2 * depth) ' ') ++ a.title ++ "\n")

/-- The engine's name and the body, without the children. -/
def ownJson (aggregation : Aggregation) : Json :=
  Json.single aggregation.engineName aggregation.body

end Aggregation

end SearchNotation
