import SearchNotation.Compile.Logged
import SearchNotation.Query.Standard
import SearchNotation.Query.Tree

/-!
# Resolving entries

An entry of the notation becomes a leaf in one of two ways. If its name is that of a registered
kind, the value is the argument of the kind. Otherwise the name is a field and the shape of the
value implies the kind:

* an array without nulls is a set of values (`terms`);
* an array of at most two, one of them null, is a range open on the side of the null;
* a bag is a range, with the entries of the bag as its bounds and options;
* any other scalar than null is one value, as text (`term`).

Nothing else implies a kind; such an entry is dropped with an event.
-/

set_option autoImplicit false

namespace SearchNotation

namespace QueryKind

/-! ## Parameters of a kind -/

/-- An argument by itself, or a bag that holds it. -/
def unaryParams (kind : QueryKind) (value : Value) : Except CompileError Bag :=
  match value with
  | .scalar .null => .error (.missingArgument kind.name kind.argument)
  | .scalar _ => .ok [(kind.argument, value)]
  | .array _ =>
    if kind.acceptsArray then .ok [(kind.argument, value)]
    else .error (.invalidArgument kind.name kind.argument .scalar value.shape)
  | .nested bag =>
    if Bag.hasPresent bag kind.argument then .ok bag
    else .error (.missingArgument kind.name kind.argument)
  | .list _ =>
    let expected := if kind.acceptsArray then .scalarOrArray else .scalar
    .error (.invalidArgument kind.name kind.argument expected value.shape)

/-- Fails if there is nothing but null under a name. -/
def require (kind : QueryKind) (bag : Bag) (name : String) : Except CompileError Unit :=
  if bag.hasPresent name then .ok () else .error (.missingArgument kind.name name)

/-- A bag with a field and what it is tested for. -/
def binaryParams (kind : QueryKind) (value : Value) : Except CompileError Bag :=
  match value with
  | .nested bag => do
    kind.require bag "field"
    kind.require bag "query"
    match Dict.get? bag "query" with
    | some (.array items) =>
      if kind.acceptsArray then return bag
      else throw (.invalidArgument kind.name "query" .scalar (Value.array items).shape)
    | _ => return bag
  | _ => .error (.missingArgument kind.name "field")

/--
The bag that a range keyed by its field stands for: the only entry is a bag under a name that is
neither `field` nor the key of a bound.
-/
def expandKeyed? (bag : Bag) : Option Bag :=
  match bag with
  | [(name, .nested inner)] =>
    if name = "field" ∨ name ∈ boundKeys then none
    else some (Dict.insert (Dict.ofList inner) "field" (Value.ofString name))
  | _ => none

/-- A bag with a field and at least one bound. -/
def ternaryParams (kind : QueryKind) (value : Value) : Except CompileError Bag :=
  match value with
  | .nested bag => do
    let bag := (expandKeyed? bag).getD bag
    kind.require bag "field"
    if boundKeys.any bag.hasPresent then return bag
    else throw (.missingRangeBound ((Bag.presentText? bag "field").getD ""))
  | _ => .error (.missingArgument kind.name "field")

/-- The parameters that a value gives a kind. -/
def params (kind : QueryKind) (value : Value) : Except CompileError Bag :=
  match kind.arity with
  | .unary => kind.unaryParams value
  | .binary => kind.binaryParams value
  | .ternary => kind.ternaryParams value

/-- The leaf of a kind with a value as its argument. -/
def leaf (kind : QueryKind) (value : Value) : Except CompileError Leaf := do
  let params ← kind.params value
  let predicate ← kind.construct params
  return { kind := kind.name, field := params.presentText? "field", params, predicate }

end QueryKind

/-! ## Entries -/

/-- The name of an implied kind and its parameters. -/
structure Implied where
  kind : String
  params : Bag

/-- The kind that the shape of a value implies under the name of a field. -/
def Implied.ofValue? (field : String) (value : Value) : Option Implied :=
  match value with
  | .scalar .null => none
  | .scalar s => some ⟨"term", Dict.ofList [named, ("query", Value.ofString s.plainText)]⟩
  | .array items =>
    if items.all (!·.isNull) then some ⟨"terms", Dict.ofList [named, ("query", value)]⟩
    else if items.length ≤ 2 then
      some ⟨"range", Dict.ofList (named :: bound "from" items[0]? ++ bound "to" items[1]?)⟩
    else none
  | .nested bag => some ⟨"range", Dict.insertAll (Dict.ofList [named]) bag⟩
  | .list _ => none
where
  /-- The entry that names the field. -/
  named : String × Value := ("field", Value.ofString field)
  /-- The entry of a bound, none where the range is open. -/
  bound (key : String) (end? : Option Scalar) : List (String × Value) :=
    match end? with
    | none | some .null => []
    | some s => [(key, .scalar s)]

/-- The leaf of an entry; nothing if the entry is dropped. -/
def resolve (table : QueryTable) (key : String) (value : Value) : Logged (Option Leaf) :=
  match table.lookup? key with
  | some kind => Logged.ofExcept ((kind.leaf value).map some)
  | none =>
    match Implied.ofValue? key value with
    | none => Logged.after (.unmatchedEntry key value.shape) none
    | some implied =>
      match table.lookup? implied.kind with
      | some kind => Logged.ofExcept ((kind.leaf (.nested implied.params)).map some)
      | none => Logged.after (.unregisteredKind key implied.kind) none

end SearchNotation
