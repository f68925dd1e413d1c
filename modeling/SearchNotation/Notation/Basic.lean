import SearchNotation.Json.Basic
import SearchNotation.Text.Quoted

/-!
# The notation

What a caller writes is a `Notation`: nothing, one bag of parameters or a list of bags. A bag maps
names to values of four shapes: a scalar, an array of scalars, a nested bag, or a list of bags.
Every value has the JSON text that it was read from.
-/

set_option autoImplicit false

namespace SearchNotation

/-! ## Scalars -/

/-- A value without parts. -/
inductive Scalar where
  | null
  | bool (value : Bool)
  | number (value : Json.Number)
  | string (value : String)
  deriving DecidableEq

namespace Scalar

/-- Whether the scalar is null. -/
def isNull : Scalar → Bool
  | .null => true
  | _ => false

/-- The text of a string. -/
def text? : Scalar → Option String
  | .string s => some s
  | _ => none

/-- The scalar as plain text, the form in which exact values are sent; strings have no quotes. -/
def plainText : Scalar → String
  | .null => "null"
  | .bool b => if b then "true" else "false"
  | .number n => n.text
  | .string s => s

/-- The scalar as it is displayed; strings have quotes. -/
def display : Scalar → String
  | .string s => Text.quoted s
  | scalar => scalar.plainText

/-- The scalar as JSON. -/
def toJson : Scalar → Json
  | .null => .null
  | .bool b => .bool b
  | .number n => .number n
  | .string s => .string s

end Scalar

/-! ## Values and bags -/

/-- A value under a name of a bag. -/
inductive Value where
  | scalar (value : Scalar)
  /-- Any number of scalars, also none. -/
  | array (items : List Scalar)
  | nested (bag : List (String × Value))
  /-- At least one bag. -/
  | list (bags : List (List (String × Value)))

/-- Parameters by name. -/
abbrev Bag := Dict Value

/-- What kind of value is meant in a message. -/
inductive Shape where
  | null
  | scalar
  | array
  | object
  | list
  deriving DecidableEq, Repr

/-- The wording of a shape. -/
def Shape.text : Shape → String
  | .null => "null"
  | .scalar => "a scalar"
  | .array => "an array of scalars"
  | .object => "an object"
  | .list => "a list of objects"

namespace Value

/-- A string. -/
def ofString (s : String) : Value := .scalar (.string s)

/-- Whether the value is null. -/
def isNull : Value → Bool
  | .scalar s => s.isNull
  | _ => false

/-- The scalar, if the value is one. -/
def scalar? : Value → Option Scalar
  | .scalar s => some s
  | _ => none

/-- The text, if the value is a string. -/
def text? (value : Value) : Option String := value.scalar?.bind Scalar.text?

/-- The nested bag, if the value is one. -/
def bag? : Value → Option Bag
  | .nested bag => some bag
  | _ => none

/-- The shape of a value. -/
def shape : Value → Shape
  | .scalar .null => .null
  | .scalar _ => .scalar
  | .array _ => .array
  | .nested _ => .object
  | .list _ => .list

mutual

/-- The value as JSON. -/
def toJson : Value → Json
  | .scalar s => s.toJson
  | .array items => .array (items.map Scalar.toJson)
  | .nested bag => .object (membersOf bag)
  | .list bags => .array (itemsOf bags)
  termination_by structural value => value

/-- The entries of a bag as members of an object. -/
def membersOf : List (String × Value) → List (String × Json)
  | [] => []
  | (key, value) :: rest => (key, toJson value) :: membersOf rest
  termination_by structural bag => bag

/-- Bags as items of an array. -/
def itemsOf : List (List (String × Value)) → List Json
  | [] => []
  | bag :: rest => .object (membersOf bag) :: itemsOf rest
  termination_by structural bags => bags

end

/-! ### Equality is decidable -/

mutual

/-- Decides whether two values are equal. -/
def decEq : (a b : Value) → Decidable (a = b)
  | .scalar x, .scalar y => decidable_of_iff (x = y) (by simp)
  | .array xs, .array ys => decidable_of_iff (xs = ys) (by simp)
  | .nested xs, .nested ys => @decidable_of_iff _ (xs = ys) (by simp) (decEqBag xs ys)
  | .list xs, .list ys => @decidable_of_iff _ (xs = ys) (by simp) (decEqBags xs ys)
  | .scalar _, .array _ | .scalar _, .nested _ | .scalar _, .list _ | .array _, .scalar _
  | .array _, .nested _ | .array _, .list _ | .nested _, .scalar _ | .nested _, .array _
  | .nested _, .list _ | .list _, .scalar _ | .list _, .array _ | .list _, .nested _ =>
    isFalse nofun
  termination_by structural a => a

/-- Decides whether two bags are equal. -/
def decEqBag : (xs ys : List (String × Value)) → Decidable (xs = ys)
  | [], [] => isTrue rfl
  | [], _ :: _ => isFalse nofun
  | _ :: _, [] => isFalse nofun
  | (k, x) :: xs, (l, y) :: ys =>
    match decEq x y, decEqBag xs ys with
    | isTrue h, isTrue hs => if hk : k = l then isTrue (by rw [hk, h, hs])
      else isFalse fun e => hk (Prod.mk.inj (List.cons.inj e).1).1
    | isFalse h, _ => isFalse fun e => h (Prod.mk.inj (List.cons.inj e).1).2
    | _, isFalse hs => isFalse fun e => hs (List.cons.inj e).2
  termination_by structural xs => xs

/-- Decides whether two lists of bags are equal. -/
def decEqBags : (xs ys : List (List (String × Value))) → Decidable (xs = ys)
  | [], [] => isTrue rfl
  | [], _ :: _ => isFalse nofun
  | _ :: _, [] => isFalse nofun
  | x :: xs, y :: ys =>
    match decEqBag x y, decEqBags xs ys with
    | isTrue h, isTrue hs => isTrue (by rw [h, hs])
    | isFalse h, _ => isFalse fun e => h (List.cons.inj e).1
    | _, isFalse hs => isFalse fun e => hs (List.cons.inj e).2
  termination_by structural xs => xs

end

instance : DecidableEq Value := decEq

end Value

namespace Bag

/-- The value under a name, where null counts as nothing. -/
def present? (bag : Bag) (name : String) : Option Value :=
  (Dict.get? bag name).filter fun value => !value.isNull

/-- Whether there is something other than null under a name. -/
def hasPresent (bag : Bag) (name : String) : Bool := (bag.present? name).isSome

/-- The scalar under a name as plain text, if there is one and it is not null. -/
def presentText? (bag : Bag) (name : String) : Option String :=
  ((bag.present? name).bind Value.scalar?).map Scalar.plainText

/-- The bag as members of a JSON object. -/
def toMembers (bag : Bag) : Dict Json := Value.membersOf bag

/-- The bag as JSON. -/
def toJson (bag : Bag) : Json := .object bag.toMembers

end Bag

/-! ## Input of the compilers -/

/-- What a caller asks for. -/
inductive Notation where
  /-- Nothing: every document, or no aggregation. -/
  | null
  | map (bag : Bag)
  | list (bags : List Bag)
  deriving DecidableEq

/-- The bags at the root. -/
def Notation.bags : Notation → List Bag
  | .null => []
  | .map bag => [bag]
  | .list bags => bags

/-- The notation as JSON. -/
def Notation.toJson : Notation → Json
  | .null => .null
  | .map bag => bag.toJson
  | .list bags => .array (bags.map Bag.toJson)

end SearchNotation
