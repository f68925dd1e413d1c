import SearchNotation.Json.Basic

/-!
# Predicates

A predicate is a condition in the form that the search engine takes. `Predicate.toJson` writes it
as an object with one member, the name of the predicate. Options are passed on beside the
argument; an option under the name of the argument gives way to it, except that the options of a
range replace its bounds.
-/

set_option autoImplicit false

namespace SearchNotation

/-- The predicates on one field that are written alike. -/
inductive FieldTest where
  | match
  | matchPhrase
  | matchPhrasePrefix
  | commonTerms
  | term
  | prefixed
  | wildcard
  | regexp
  | fuzzy
  deriving DecidableEq, Repr

namespace FieldTest

/-- All of them. -/
def all : List FieldTest :=
  [.match, .matchPhrase, .matchPhrasePrefix, .commonTerms, .term, .prefixed, .wildcard, .regexp,
    .fuzzy]

/-- The engine's name of a test. -/
def name : FieldTest → String
  | .match => "match"
  | .matchPhrase => "match_phrase"
  | .matchPhrasePrefix => "match_phrase_prefix"
  | .commonTerms => "common"
  | .term => "term"
  | .prefixed => "prefix"
  | .wildcard => "wildcard"
  | .regexp => "regexp"
  | .fuzzy => "fuzzy"

/-- The test with an engine's name. -/
def ofName? (name : String) : Option FieldTest := all.find? (·.name = name)

/-- The key of the text or value that the field is tested for. -/
def valueKey : FieldTest → String
  | .match | .matchPhrase | .matchPhrasePrefix | .commonTerms => "query"
  | .term | .prefixed | .wildcard | .regexp | .fuzzy => "value"

end FieldTest

/-- One end of a range. -/
structure Bound where
  value : Json
  /-- Whether the end itself belongs to the range. -/
  inclusive : Bool
  deriving DecidableEq

namespace Bound

/-- The key of a lower end. -/
def lowerKey (b : Bound) : String := if b.inclusive then "gte" else "gt"

/-- The key of an upper end. -/
def upperKey (b : Bound) : String := if b.inclusive then "lte" else "lt"

end Bound

/-- A condition on documents. -/
inductive Predicate where
  /-- A test of one field. -/
  | onField (test : FieldTest) (field : String) (query : Json) (options : Dict Json)
  /-- The field has one of several values. -/
  | terms (field : String) (values : List Json) (options : Dict Json)
  /-- The field lies between bounds. -/
  | range (field : String) (lower upper : Option Bound) (options : Dict Json)
  /-- The field has a value. -/
  | fieldExists (field : String) (options : Dict Json)
  /-- The document has one of several identifiers. -/
  | ids (values : List String) (options : Dict Json)
  /-- A text in the engine's query language. -/
  | queryString (query : String) (options : Dict Json)
  /-- A text in the engine's forgiving query language. -/
  | simpleQueryString (query : String) (options : Dict Json)
  /-- The document has a mapping type. -/
  | mappingType (value : String) (options : Dict Json)
  deriving DecidableEq

namespace Predicate

/-- The engine's name of a predicate. -/
def name : Predicate → String
  | .onField test .. => test.name
  | .terms .. => "terms"
  | .range .. => "range"
  | .fieldExists .. => "exists"
  | .ids .. => "ids"
  | .queryString .. => "query_string"
  | .simpleQueryString .. => "simple_query_string"
  | .mappingType .. => "type"

/-- The members for the ends of a range. -/
def boundMembers (lower upper : Option Bound) : Dict Json :=
  let lowers := lower.toList.map fun b => (b.lowerKey, b.value)
  let uppers := upper.toList.map fun b => (b.upperKey, b.value)
  Dict.ofList (lowers ++ uppers)

/-- What stands under the name of a predicate. -/
def body : Predicate → Json
  | .onField test field query options =>
    Json.single field (.object (Dict.insert options test.valueKey query))
  | .terms field values options => .object (Dict.insert options field (.array values))
  | .range field lower upper options =>
    Json.single field (.object (Dict.insertAll (boundMembers lower upper) options))
  | .fieldExists field options => .object (Dict.insert options "field" (.string field))
  | .ids values options => .object (Dict.insert options "values" (Json.ofStrings values))
  | .queryString query options | .simpleQueryString query options =>
    .object (Dict.insert options "query" (.string query))
  | .mappingType value options => .object (Dict.insert options "value" (.string value))

/-- The predicate as the engine takes it. -/
def toJson (p : Predicate) : Json := Json.single p.name p.body

end Predicate

end SearchNotation
