import SearchNotation.Json.Reader
import SearchNotation.Notation.Basic
import SearchNotation.Text.Blank

/-!
# Reading notation

`Notation.ofJson` sorts the parts of a JSON value into the shapes of the notation. The root has to
be null, an object or an array of objects, and below it an array holds either scalars only or
objects only. `Notation.read` takes text, where nothing and blanks stand for null.
-/

set_option autoImplicit false

namespace SearchNotation

/-- What is wrong with an input that is no notation. -/
inductive NotationError where
  /-- The text is no JSON. -/
  | malformed (error : Json.ReadError)
  | scalarRoot
  | mixedRoot
  /-- The array under a key holds neither scalars only nor objects only. -/
  | mixedArray (key : String)
  deriving DecidableEq

/-- The message of an error. -/
def NotationError.message : NotationError → String
  | .malformed e => "invalid notation: " ++ e.message
  | .scalarRoot => rootMessage "a scalar"
  | .mixedRoot => rootMessage "an array with non-object elements"
  | .mixedArray key => s!"array under '{key}' must hold only scalars or only objects"
where
  /-- The message about a root of the wrong kind. -/
  rootMessage (found : String) : String :=
    s!"notation must be null, an object, or an array of objects; found {found}"

/-- The scalar that a JSON value is. -/
def Scalar.ofJson? : Json → Option Scalar
  | .null => some .null
  | .bool b => some (.bool b)
  | .number n => some (.number n)
  | .string s => some (.string s)
  | .array _ | .object _ => none

namespace Value

/-- The scalars of a list of items, if all of them are scalars. -/
def scalarsOf? (items : List Json) : Option (List Scalar) := items.mapM Scalar.ofJson?

mutual

/-- The value that stands under a key. -/
def ofJson (key : String) : Json → Except NotationError Value
  | .null => .ok (.scalar .null)
  | .bool b => .ok (.scalar (.bool b))
  | .number n => .ok (.scalar (.number n))
  | .string s => .ok (.scalar (.string s))
  | .object members => do return .nested (← bagOf members)
  | .array items =>
    match scalarsOf? items with
    | some scalars => .ok (.array scalars)
    | none => do return .list (← bagsOf (.mixedArray key) items)
  termination_by structural json => json

/-- The bag of the members of an object. -/
def bagOf : List (String × Json) → Except NotationError (List (String × Value))
  | [] => .ok []
  | (key, json) :: rest => do
    let value ← ofJson key json
    let bag ← bagOf rest
    return (key, value) :: bag
  termination_by structural members => members

/-- The bags of a list of objects; anything else among them is the given error. -/
def bagsOf (error : NotationError) : List Json → Except NotationError (List (List (String × Value)))
  | [] => .ok []
  | .object members :: rest => do
    let bag ← bagOf members
    let bags ← bagsOf error rest
    return bag :: bags
  | _ :: _ => .error error
  termination_by structural items => items

end

end Value

namespace Notation

/-- The notation that a JSON value stands for. -/
def ofJson : Json → Except NotationError Notation
  | .null => .ok .null
  | .object members => do return .map (← Value.bagOf members)
  | .array items => do return .list (← Value.bagsOf .mixedRoot items)
  | .bool _ | .number _ | .string _ => .error .scalarRoot

/-- The notation that a text stands for. -/
def read (text : Option String) : Except NotationError Notation :=
  match text with
  | none => .ok .null
  | some text =>
    if Text.isBlankText text then .ok .null
    else
      match Json.read text with
      | .ok json => ofJson json
      | .error e => .error (.malformed e)

end Notation

end SearchNotation
