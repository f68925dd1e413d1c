import SearchNotation.Notation.Basic
import SearchNotation.Proofs.Dict

/-!
# What is present in a bag

A bag is looked up by name, where null counts as nothing; what is there is read as a text or as a
list of scalars, one scalar being the only item. The members of a bag are its entries with the JSON
form of their values.
-/

set_option autoImplicit false

namespace SearchNotation

namespace Value

/-- A bag is in the order of its names. -/
def Ordered : Value → Prop
  | .nested bag => Dict.Sorted bag
  | _ => True

/-- The items of an array; a scalar is the only one. -/
def items? : Value → Option (List Scalar)
  | .scalar s => some [s]
  | .array items => some items
  | _ => none

end Value

namespace Bag

variable {bag : Bag} {name : String}

theorem toMembers_eq (bag : Bag) : bag.toMembers = Dict.mapValues Value.toJson bag := by
  unfold toMembers
  induction bag with
  | nil => rfl
  | cons e rest ih =>
    obtain ⟨key, value⟩ := e
    rw [Value.membersOf, ih]
    rfl

theorem present?_eq_some {value : Value} : bag.present? name = some value ↔
    Dict.get? bag name = some value ∧ value.isNull = false := by
  simp [present?, Option.filter_eq_some_iff]

theorem hasPresent_eq_false : bag.hasPresent name = false ↔ bag.present? name = none := by
  simp [hasPresent]

theorem presentText?_eq_some {text : String} : bag.presentText? name = some text ↔
    ∃ s, bag.present? name = some (.scalar s) ∧ s.plainText = text := by
  unfold presentText?
  cases bag.present? name with
  | none => simp
  | some value => cases value <;> simp [Value.scalar?]

end Bag

end SearchNotation
