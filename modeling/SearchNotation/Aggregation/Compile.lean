import SearchNotation.Aggregation.Tree
import SearchNotation.Registry.Basic

/-!
# Compiling aggregations

Each key of a map names a kind and its value holds the parameters; a scalar is short for the
parameter `field`, and null for no parameters. `sub` holds sub-aggregations and `aggregation_key`
another name for the result; neither is sent to the engine. Maps of a list follow each other, and
siblings need different names. A key that names no kind is dropped with an event.
-/

set_option autoImplicit false

namespace SearchNotation

namespace Aggregation

/-- The key of the sub-aggregations. -/
def subKey : String := "sub"

/-- The key of another name for the result. -/
def nameKey : String := "aggregation_key"

/-- The name of the result: what stands under `nameKey`, or the name of the kind. -/
def resultName (kind : AggregationKind) (bag : Bag) : Except CompileError String :=
  match bag.present? nameKey with
  | none => .ok kind.name
  | some (.scalar (.string name)) => .ok name
  | some other => .error (.invalidArgument kind.name nameKey .string other.shape)

/-- Checks that the required parameters are there, and one of those that are alternatives. -/
def checkParams (kind : AggregationKind) (bag : Bag) : Except CompileError Unit :=
  match kind.required.find? fun name => !bag.hasPresent name with
  | some name => .error (.missingArgument kind.name name)
  | none =>
    if kind.oneOf.isEmpty || kind.oneOf.any bag.hasPresent then .ok ()
    else .error (.missingArgument kind.name (" or ".intercalate kind.oneOf))

/-- The first name that occurred before. -/
def repeatedName? (seen : List String) : List Aggregation → Option String
  | [] => none
  | a :: rest => if a.name ∈ seen then some a.name else repeatedName? (a.name :: seen) rest

/-- Siblings, if their names differ. -/
def distinct (aggregations : List Aggregation) : Except CompileError (List Aggregation) :=
  match repeatedName? [] aggregations with
  | some name => .error (.duplicateName name)
  | none => .ok aggregations

variable (registry : Registry)

/-- The aggregation of a kind with its parameters and sub-aggregations. -/
def build (kind : AggregationKind) (name : String) (params : Bag) (children : List Aggregation) :
    Logged Aggregation := do
  Logged.ofExcept (checkParams kind params)
  let body ← kind.construct registry.queries params
  return { kind := kind.name, name, params, children, engineName := kind.engineName, body }

mutual

/-- The aggregations of the entries of a bag. -/
def ofEntries : List (String × Value) → Logged (List Aggregation)
  | [] => pure []
  | (key, value) :: rest =>
    match registry.aggregations.lookup? key with
    | none => do
      Logged.after (.unknownAggregation key) ()
      ofEntries rest
    | some kind => do
      let first ← ofValue kind value
      let others ← ofEntries rest
      return first :: others
  termination_by structural bag => bag

/-- The aggregation of a kind with a value as its parameters. -/
def ofValue (kind : AggregationKind) : Value → Logged Aggregation
  | .scalar .null => build registry kind kind.name [] []
  | .scalar s => build registry kind kind.name [("field", .scalar s)] []
  | .nested bag => do
    let name ← Logged.ofExcept (resultName kind bag)
    let children ← subAggregations kind bag
    build registry kind name (Dict.without bag [subKey, nameKey]) children
  | .array items =>
    Logged.fail (.invalidArgument kind.name "parameters" .fieldOrObject (Value.array items).shape)
  | .list bags =>
    Logged.fail (.invalidArgument kind.name "parameters" .fieldOrObject (Value.list bags).shape)
  termination_by structural value => value

/-- The sub-aggregations that the entries of a bag hold under `subKey`. -/
def subAggregations (kind : AggregationKind) : List (String × Value) → Logged (List Aggregation)
  | [] => pure []
  | (key, value) :: rest =>
    if key = subKey then subValue kind value else subAggregations kind rest
  termination_by structural bag => bag

/-- The sub-aggregations that a value stands for. -/
def subValue (kind : AggregationKind) : Value → Logged (List Aggregation)
  | .scalar .null => pure []
  | .nested bag => do
    let children ← ofEntries bag
    Logged.ofExcept (distinct children)
  | .list bags => do
    let children ← ofBags bags
    Logged.ofExcept (distinct children)
  | .array [] => pure []
  | .array (item :: items) =>
    Logged.fail
      (.invalidArgument kind.name subKey .objectOrList (Value.array (item :: items)).shape)
  | .scalar s =>
    Logged.fail (.invalidArgument kind.name subKey .objectOrList (Value.scalar s).shape)
  termination_by structural value => value

/-- The aggregations of several bags, one after the other. -/
def ofBags : List (List (String × Value)) → Logged (List Aggregation)
  | [] => pure []
  | bag :: rest => do
    let first ← ofEntries bag
    let others ← ofBags rest
    return first ++ others
  termination_by structural bags => bags

end

/-- The aggregations that a notation stands for. -/
def compile (n : Notation) : Logged (List Aggregation) := do
  let aggregations ← match n with
    | .null => pure []
    | .map bag => ofEntries registry bag
    | .list bags => ofBags registry bags
  Logged.ofExcept (distinct aggregations)

/-- Reads a notation and compiles it. -/
def compileText (text : Option String) : Logged (List Aggregation) :=
  match Notation.read text with
  | .ok n => compile registry n
  | .error e => Logged.fail (.unreadable e)

end Aggregation

end SearchNotation
