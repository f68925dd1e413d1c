import SearchNotation.Notation.Reader

/-!
# Errors of compiling

An error names the kind that was built and the argument that is missing or has the wrong shape.
Entries that match no kind are no errors; see `Event`.
-/

set_option autoImplicit false

namespace SearchNotation

/-- What an argument may be. -/
inductive Expectation where
  | scalar
  | scalarOrArray
  | string
  | fieldOrObject
  | object
  | objectOrList
  deriving DecidableEq, Repr

/-- The wording of an expectation. -/
def Expectation.text : Expectation → String
  | .scalar => "a scalar"
  | .scalarOrArray => "a scalar or an array"
  | .string => "a string"
  | .fieldOrObject => "a field name or an object"
  | .object => "an object"
  | .objectOrList => "an object or a list of objects"

/-- Why an input does not compile. -/
inductive CompileError where
  /-- A kind lacks an argument. -/
  | missingArgument (kind argument : String)
  /-- A range on a field is open on both sides. -/
  | missingRangeBound (field : String)
  /-- An argument has the wrong shape. -/
  | invalidArgument (kind argument : String) (expected : Expectation) (found : Shape)
  /-- Two sibling aggregations have one name. -/
  | duplicateName (name : String)
  /-- The text is no notation. -/
  | unreadable (error : NotationError)
  deriving DecidableEq

/-- The message of an error. -/
def CompileError.message : CompileError → String
  | .missingArgument kind argument => s!"{kind} requires '{argument}'"
  | .missingRangeBound field =>
    s!"range on '{field}' has no bound; expected one of lt, lte, to, gt, gte, from"
  | .invalidArgument kind argument expected found =>
    s!"{kind} argument '{argument}' must be {expected.text}, found {found.text}"
  | .duplicateName name =>
    s!"duplicate aggregation name '{name}'; use aggregation_key to rename one"
  | .unreadable e => e.message

end SearchNotation
