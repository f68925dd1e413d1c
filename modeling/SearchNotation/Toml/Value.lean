import SearchNotation.Decimal.Binary64
import SearchNotation.Dict

/-!
# TOML values

A document is a table. Numbers are kept exactly as they are written; `Value.inRange` says whether
all of them can be held in 128 bits, or in the 64-bit binary format where they have a point or an
exponent. A value without digits is held as it is too, and is in no range.
-/

set_option autoImplicit false

namespace SearchNotation.Toml

/-- A number with a point or an exponent. -/
inductive Real where
  /-- `± digits · 10 ^ exponent`. -/
  | decimal (negative : Bool) (digits : Nat) (exponent : Int)
  | infinite (negative : Bool)
  | undefined
  deriving DecidableEq, Repr

/-- A value of a document. -/
inductive Value where
  | string (s : String)
  | integer (n : Int)
  /-- A base without digits, which stands for no number. -/
  | digitless
  | real (x : Real)
  | boolean (b : Bool)
  /-- A date, a time of day, or both. -/
  | moment (text : String)
  | array (items : List Value)
  | table (entries : List (String × Value))

/-- Values by name. -/
abbrev Table := Dict Value

/-! ## Range of numbers -/

/-- The number of digits before the point of the largest value of the binary format. -/
def maxWholeDigits : Nat := 309

/-- Whether the nearest value of the 64-bit binary format is finite, or none was meant to be. -/
def Real.inRange : Real → Bool
  | .decimal _ digits exponent =>
    let wholeDigits := (Nat.toDigits 10 digits).length + exponent
    if digits = 0 ∨ wholeDigits < maxWholeDigits then true
    else if (maxWholeDigits : Int) < wholeDigits then false
    else if 0 ≤ exponent then (Binary64.nearest false (digits * Nat.pow 10 exponent.toNat) 1).isSome
    else (Binary64.nearest false digits (Nat.pow 10 (-exponent).toNat)).isSome
  | .infinite _ | .undefined => true

namespace Value

mutual

/-- Whether every number in the value has digits and is in range. -/
def inRange : Value → Bool
  | .integer n => -(Nat.pow 2 127 : Int) ≤ n && n < (Nat.pow 2 128 : Int)
  | .digitless => false
  | .real x => x.inRange
  | .array items => itemsInRange items
  | .table entries => entriesInRange entries
  | .string _ | .boolean _ | .moment _ => true
  termination_by structural value => value

/-- Whether every number in the items is in range. -/
def itemsInRange : List Value → Bool
  | [] => true
  | item :: rest => inRange item && itemsInRange rest
  termination_by structural items => items

/-- Whether every number in the entries is in range. -/
def entriesInRange : List (String × Value) → Bool
  | [] => true
  | (_, value) :: rest => inRange value && entriesInRange rest
  termination_by structural entries => entries

end

end Value

end SearchNotation.Toml
