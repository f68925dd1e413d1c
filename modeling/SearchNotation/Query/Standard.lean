import SearchNotation.Query.Kind

/-!
# The standard query kinds

How each predicate is built from its parameters, and the list of the kinds that are known. What
is not an argument is an option and is passed on as it is.
-/

set_option autoImplicit false

namespace SearchNotation

namespace QueryKind

/-- An argument that has to be a scalar, as text. -/
def textArgument (kind : String) (bag : Bag) (key : String) : Except CompileError String :=
  match bag.present? key with
  | some (.scalar s) => .ok s.plainText
  | some other => .error (.invalidArgument kind key .scalar other.shape)
  | none => .error (.missingArgument kind key)

/-- The parameters that are no arguments. -/
def options (bag : Bag) (arguments : List String) : Dict Json :=
  Bag.toMembers (Dict.without bag arguments)

/-! ## Constructors -/

/-- A field that has a value. -/
def buildExists (bag : Bag) : Except CompileError Predicate := do
  let field ← textArgument "exists" bag "field"
  return .fieldExists field (options bag ["field"])

/-- Documents by identifier; nulls among the identifiers are dropped. -/
def buildIds (bag : Bag) : Except CompileError Predicate := do
  let values ← match bag.present? "values" with
    | some (.scalar s) => Except.ok [s.plainText]
    | some (.array items) =>
      .ok ((items.filter fun s => !s.isNull).map Scalar.plainText)
    | some other => .error (.invalidArgument "ids" "values" .scalarOrArray other.shape)
    | none => .error (.missingArgument "ids" "values")
  return .ids values (options bag ["values"])

/-- A text in the engine's query language. -/
def buildQueryString (bag : Bag) : Except CompileError Predicate := do
  let query ← textArgument "query_string" bag "query"
  return .queryString query (options bag ["query"])

/-- A text in the engine's forgiving query language. -/
def buildSimpleQueryString (bag : Bag) : Except CompileError Predicate := do
  let query ← textArgument "simple_query_string" bag "query"
  return .simpleQueryString query (options bag ["query"])

/-- A mapping type. -/
def buildMappingType (bag : Bag) : Except CompileError Predicate := do
  let value ← textArgument "type" bag "value"
  return .mappingType value (options bag ["value"])

/-- A test of one field. -/
def buildFieldTest (test : FieldTest) (bag : Bag) : Except CompileError Predicate := do
  let field ← textArgument test.name bag "field"
  let query ← match bag.present? "query" with
    | some (.scalar s) => Except.ok s.toJson
    | some other => .error (.invalidArgument test.name "query" .scalar other.shape)
    | none => .error (.missingArgument test.name "query")
  return .onField test field query (options bag ["field", "query"])

/-- One of several values of a field; a scalar is the only one. -/
def buildTerms (bag : Bag) : Except CompileError Predicate := do
  let field ← textArgument "terms" bag "field"
  let values ← match bag.present? "query" with
    | some (.scalar s) => Except.ok [s.toJson]
    | some (.array items) => .ok (items.map Scalar.toJson)
    | some other => .error (.invalidArgument "terms" "query" .scalarOrArray other.shape)
    | none => .error (.missingArgument "terms" "query")
  return .terms field values (options bag ["field", "query"])

/-- The bound under the first of the keys that is present. -/
def firstBound (bag : Bag) : List BoundKey → Except CompileError (Option Bound)
  | [] => .ok none
  | ⟨key, inclusive⟩ :: rest =>
    match bag.present? key with
    | none => firstBound bag rest
    | some (.scalar s) => .ok (some ⟨s.toJson, inclusive⟩)
    | some other => .error (.invalidArgument "range" key .scalar other.shape)

/-- A range with a bound on one side at least; of several bounds on a side the first counts. -/
def buildRange (bag : Bag) : Except CompileError Predicate := do
  let field ← textArgument "range" bag "field"
  let upper ← firstBound bag upperBoundKeys
  let lower ← firstBound bag lowerBoundKeys
  if lower.isNone && upper.isNone then throw (.missingRangeBound field)
  return .range field lower upper (options bag ("field" :: boundKeys))

/-! ## The list -/

/-- A kind with one argument. -/
def unary (name argument : String) (acceptsArray : Bool)
    (construct : Bag → Except CompileError Predicate) : QueryKind :=
  ⟨name, [], .unary, argument, acceptsArray, construct⟩

/-- A kind that tests a field. -/
def binary (test : FieldTest) (aliases : List String) : QueryKind :=
  ⟨test.name, aliases, .binary, "query", false, buildFieldTest test⟩

/-- The kinds that are known. -/
def standard : List QueryKind := [
  unary "exists" "field" false buildExists,
  unary "ids" "values" true buildIds,
  unary "query_string" "query" false buildQueryString,
  unary "simple_query_string" "query" false buildSimpleQueryString,
  unary "type" "value" false buildMappingType,
  binary .match [],
  binary .matchPhrase [],
  binary .matchPhrasePrefix [],
  binary .commonTerms ["common_terms"],
  binary .term [],
  ⟨"terms", [], .binary, "query", true, buildTerms⟩,
  binary .prefixed [],
  binary .wildcard [],
  binary .regexp [],
  binary .fuzzy [],
  ⟨"range", [], .ternary, "field", false, buildRange⟩]

/-- The standard kind with a name. -/
def standard? (name : String) : Option QueryKind := standard.find? (·.name = name)

end QueryKind

end SearchNotation
