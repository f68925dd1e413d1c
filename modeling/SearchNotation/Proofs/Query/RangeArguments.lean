import SearchNotation.Proofs.Query.Parameters
import SearchNotation.Proofs.Query.Shapes

/-!
# The arguments of a range

`RangeResult` says what a range makes of every value: one row for each of its errors, in the order
in which they are looked for, and one for the leaf. The rows speak of the map that the value stands
for (`RangeBag`) and of the bound of each side, which is what is under the first key of the side
that is present (`Bag.bound?`); no row asks for what is under a later key of a side.

A side is read as its bound says (`QueryKind.firstBound_side`), and the options of a range have no
key of a bound, so the members under such keys are the bounds of the two sides and nothing else
(`QueryKind.filter_members`). `resolve_rangeResult` puts the rows together.
-/

set_option autoImplicit false

namespace SearchNotation

/-! ## Bounds as they are given -/

/-- The keys of an upper bound, the first one first, each with the key that it is written under. -/
def upperSide : List (String × String) := [("lt", "lt"), ("lte", "lte"), ("to", "lte")]

/-- The keys of a lower bound, the first one first, each with the key that it is written under. -/
def lowerSide : List (String × String) := [("gt", "gt"), ("gte", "gte"), ("from", "gte")]

/-- What is given for one side of a range. -/
structure GivenBound where
  key : String
  /-- The key that it is written under. -/
  written : String
  value : Value

namespace GivenBound

/-- The bound is of a shape that can be written. -/
def IsScalar (b : GivenBound) : Prop := b.value.scalar? ≠ none

/-- The member that the bound is written as. -/
def member (b : GivenBound) : String × Json := (b.written, b.value.toJson)

end GivenBound

/-- The bound of a side: what is under the first of its keys that is present. -/
def Bag.bound? (bag : Bag) (side : List (String × String)) : Option GivenBound :=
  side.findSome? fun (key, written) => (bag.present? key).map fun value => ⟨key, written, value⟩

/-- The map that a range is read from: the value itself, or the only map in it with the name that it
stands under for its field. -/
inductive RangeBag : Value → Bag → Prop
  | keyed {name : String} {inner : Bag} (hfield : name ≠ "field") (hbound : name ∉ boundKeys) :
      RangeBag (.nested [(name, .nested inner)])
        (Dict.insert (Dict.ofList inner) "field" (.ofString name))
  | plain {bag : Bag} (hplain : ∀ name inner, bag = [(name, .nested inner)] →
      name = "field" ∨ name ∈ boundKeys) : RangeBag (.nested bag) bag

/-! ## The table -/

/-- What a range makes of a value. -/
inductive RangeResult : Value → Except CompileError (Option Leaf) → Prop
  | noMap {value : Value} (hvalue : value.bag? = none) :
      RangeResult value (.error (.missingArgument "range" "field"))
  | noField {value : Value} {bag : Bag} (hbag : RangeBag value bag)
      (hfield : bag.present? "field" = none) :
      RangeResult value (.error (.missingArgument "range" "field"))
  /-- The error has the text of the field, which is empty if the field is no scalar. -/
  | unbounded {value : Value} {bag : Bag} (hbag : RangeBag value bag)
      (hfield : bag.present? "field" ≠ none)
      (hopen : ∀ key ∈ boundKeys, bag.present? key = none) :
      RangeResult value (.error (.missingRangeBound ((bag.presentText? "field").getD "")))
  | badField {value field : Value} {bag : Bag} (hbag : RangeBag value bag)
      (hfield : bag.present? "field" = some field)
      (hbound : ∃ key ∈ boundKeys, bag.present? key ≠ none) (hshape : field.scalar? = none) :
      RangeResult value (.error (.invalidArgument "range" "field" .scalar field.shape))
  | badUpper {value : Value} {bag : Bag} {field : String} {upper : GivenBound}
      (hbag : RangeBag value bag) (hfield : bag.presentText? "field" = some field)
      (hupper : bag.bound? upperSide = some upper) (hshape : ¬ upper.IsScalar) :
      RangeResult value (.error (.invalidArgument "range" upper.key .scalar upper.value.shape))
  | badLower {value : Value} {bag : Bag} {field : String} {lower : GivenBound}
      (hbag : RangeBag value bag) (hfield : bag.presentText? "field" = some field)
      (hupper : ∀ upper ∈ bag.bound? upperSide, upper.IsScalar)
      (hlower : bag.bound? lowerSide = some lower) (hshape : ¬ lower.IsScalar) :
      RangeResult value (.error (.invalidArgument "range" lower.key .scalar lower.value.shape))
  /-- The members under keys of bounds are the bounds of the two sides, and there is one. -/
  | bounded {value : Value} {bag : Bag} {field : String} {leaf : Leaf} {members : Dict Json}
      (hbag : RangeBag value bag) (hfield : bag.presentText? "field" = some field)
      (hupper : ∀ upper ∈ bag.bound? upperSide, upper.IsScalar)
      (hlower : ∀ lower ∈ bag.bound? lowerSide, lower.IsScalar)
      (hsome : bag.bound? lowerSide ≠ none ∨ bag.bound? upperSide ≠ none)
      (hleaf : leaf.Writes "range" field (Json.single field (.object members)))
      (hmembers : (members.filter fun m => boundKeys.contains m.1) =
        ((bag.bound? lowerSide).toList ++ (bag.bound? upperSide).toList).map GivenBound.member) :
      RangeResult value (.ok (some leaf))

/-! ## Reading a side -/

section
variable {bag : Bag} {side : List (String × String)} {key written : String}

theorem Bag.bound?_cons_absent (h : bag.present? key = none) :
    bag.bound? ((key, written) :: side) = bag.bound? side := by
  simp [bound?, h]

theorem Bag.bound?_cons_present {value : Value} (h : bag.present? key = some value) :
    bag.bound? ((key, written) :: side) = some ⟨key, written, value⟩ := by
  simp [bound?, h]

theorem Bag.bound?_eq_none : bag.bound? side = none ↔ ∀ k ∈ side, bag.present? k.1 = none := by
  simp [bound?, List.findSome?_eq_none_iff]

/-- No key of a bound is present exactly if neither side has a bound. -/
theorem Bag.absent_bounds_iff : (∀ key ∈ boundKeys, bag.present? key = none) ↔
    bag.bound? lowerSide = none ∧ bag.bound? upperSide = none := by
  have hkeys : boundKeys = upperSide.map (·.1) ++ lowerSide.map (·.1) := rfl
  rw [bound?_eq_none, bound?_eq_none, hkeys, List.forall_mem_append, List.forall_mem_map,
    List.forall_mem_map]
  exact and_comm

end

namespace QueryKind

/-- The keys of a side, each with the key that its bound is written under. -/
def sideOf (write : Bool → String) (keys : List BoundKey) : List (String × String) :=
  keys.map fun k => (k.key, write k.inclusive)

/-- **A side is read as its bound says**: it has a bound if the first key that is present holds a
scalar, it fails for that key if it holds anything else, and without any it is open. -/
theorem firstBound_side (bag : Bag) (write : Bool → String) (keys : List BoundKey) :
    (∃ bound, firstBound bag keys = .ok bound ∧
      (∀ b ∈ bag.bound? (sideOf write keys), b.IsScalar) ∧
      bound.toList.map (fun b => (write b.inclusive, b.value)) =
        (bag.bound? (sideOf write keys)).toList.map GivenBound.member) ∨
    ∃ b, bag.bound? (sideOf write keys) = some b ∧ ¬ b.IsScalar ∧
      firstBound bag keys = .error (.invalidArgument "range" b.key .scalar b.value.shape) := by
  induction keys with
  | nil => exact .inl ⟨none, rfl, nofun, rfl⟩
  | cons k rest ih =>
    rw [sideOf, List.map_cons, ← sideOf]
    cases hk : bag.present? k.key with
    | none =>
      rw [Bag.bound?_cons_absent hk, firstBound, hk]
      exact ih
    | some value =>
      rw [Bag.bound?_cons_present hk, firstBound, hk]
      cases value with
      | scalar s => exact .inl ⟨_, rfl, by simp [GivenBound.IsScalar, Value.scalar?], rfl⟩
      | _ => exact .inr ⟨_, rfl, fun h => h rfl, rfl⟩

/-! ## Members of a range -/

/-- The options of a range have no key of a bound. -/
theorem not_mem_boundKeys_of_options (bag : Bag) :
    ∀ e ∈ options bag ("field" :: boundKeys), e.1 ∉ boundKeys := by
  intro e he hkey
  have hnone : Dict.get? (options bag ("field" :: boundKeys)) e.1 = none := by
    rw [options_eq, Dict.mapValues_without]
    exact Dict.get?_without (.tail _ hkey)
  exact Dict.ne_of_get?_eq_none hnone e he rfl

/-- **The bounds that a range is written with** are its own, whatever its options are read from. -/
theorem filter_members (bag : Bag) (lower upper : Option Bound) :
    ((Dict.insertAll (Predicate.boundMembers lower upper)
      (options bag ("field" :: boundKeys))).filter fun m => boundKeys.contains m.1) =
        Predicate.boundEntries lower upper := by
  have hoptions : ∀ e ∈ options bag ("field" :: boundKeys), boundKeys.contains e.1 = false := by
    intro e he
    simpa using not_mem_boundKeys_of_options bag e he
  rw [Dict.filter_insertAll boundKeys.contains hoptions, Predicate.boundMembers_eq,
    List.filter_eq_self]
  intro e he
  simpa using key_mem_boundKeys he

/-! ## The rows -/

theorem rangeBag_expandKeyed? (bag : Bag) :
    RangeBag (.nested bag) ((expandKeyed? bag).getD bag) := by
  unfold expandKeyed?
  split
  · next name inner =>
    split
    · next h => exact .plain fun _ _ he => by cases he; exact h
    · next h => exact .keyed (fun hf => h (.inl hf)) fun hb => h (.inr hb)
  · next h => exact .plain fun name inner he => (h name inner he).elim

section
variable {value : Value} {bag : Bag} (hbag : RangeBag value bag)
include hbag

/-- A range with a scalar for its field comes to its bounds. -/
theorem rangeResult_bounds {s : Scalar} (hfield : bag.present? "field" = some (.scalar s))
    (hsome : bag.bound? lowerSide ≠ none ∨ bag.bound? upperSide ≠ none) :
    RangeResult value ((bounds bag).map fun ends => some ⟨"range", bag.presentText? "field", bag,
      .range s.plainText ends.1 ends.2 (options bag ("field" :: boundKeys))⟩) := by
  have htext : bag.presentText? "field" = some s.plainText :=
    Bag.presentText?_eq_some.2 ⟨s, hfield, rfl⟩
  have hlowerSide : lowerSide = sideOf (fun i => if i then "gte" else "gt") lowerBoundKeys := rfl
  have hupperSide : upperSide = sideOf (fun i => if i then "lte" else "lt") upperBoundKeys := rfl
  rcases firstBound_side bag (fun i => if i then "lte" else "lt") upperBoundKeys with
    ⟨upper, hupper, hscalar, hmember⟩ | ⟨b, hb, hshape, herror⟩
  · rcases firstBound_side bag (fun i => if i then "gte" else "gt") lowerBoundKeys with
      ⟨lower, hlower, hscalar', hmember'⟩ | ⟨b, hb, hshape, herror⟩
    · rw [bounds, hupper, hlower]
      refine .bounded hbag htext hscalar hscalar' hsome ⟨rfl, htext, rfl⟩ ?_
      rw [filter_members, List.map_append, hlowerSide, hupperSide, ← hmember, ← hmember']
      rfl
    · rw [bounds, hupper, herror]
      exact .badLower hbag htext hscalar hb hshape
  · rw [bounds, herror]
    exact .badUpper hbag htext hb hshape

/-- **Every map has its row.** -/
theorem rangeResult_rangeLeaf : RangeResult value ((rangeLeaf bag).map some) := by
  cases hfield : bag.present? "field" with
  | none =>
    rw [rangeLeaf_missing (by rw [Bag.hasPresent, hfield]; rfl)]
    exact .noField hbag hfield
  | some field =>
    have hpresent : bag.hasPresent "field" = true := by rw [Bag.hasPresent, hfield]; rfl
    cases hany : boundKeys.any bag.hasPresent with
    | false =>
      have hopen : ∀ key ∈ boundKeys, bag.present? key = none := by
        simpa [Bag.hasPresent] using hany
      rw [rangeLeaf_unbounded hpresent hany]
      exact .unbounded hbag (by simp [hfield]) hopen
    | true =>
      have hbound : ∃ key ∈ boundKeys, bag.present? key ≠ none := by
        simpa [Bag.hasPresent, Option.isSome_iff_ne_none] using hany
      rw [rangeLeaf_bounded hpresent hany, textArgument, hfield]
      cases field with
      | scalar s =>
        have hsome : bag.bound? lowerSide ≠ none ∨ bag.bound? upperSide ≠ none := by
          rw [← not_and_or, ← Bag.absent_bounds_iff]
          simpa using hbound
        have hrow := rangeResult_bounds hbag hfield hsome
        cases hends : bounds bag with
        | error e =>
          rw [hends] at hrow
          exact hrow
        | ok ends =>
          rw [hends] at hrow
          exact hrow
      | _ => exact .badField hbag hfield hbound rfl

end

end QueryKind

/-- **A range makes of a value what the table says**, whatever the value is. -/
theorem resolve_rangeResult (value : Value) :
    RangeResult value (resolve Registry.standard.queries "range" value).result := by
  have hkind : Registry.standard.queries.lookup? "range" = some QueryKind.ranged :=
    Registry.lookup?_standard.2 ⟨QueryKind.ranged_mem_standard, rfl⟩
  rw [resolve_of_lookup? hkind, Logged.result_ofExcept]
  cases value with
  | nested bag =>
    rw [QueryKind.ranged_leaf_nested]
    exact QueryKind.rangeResult_rangeLeaf (QueryKind.rangeBag_expandKeyed? bag)
  | _ => exact .noMap rfl

end SearchNotation
