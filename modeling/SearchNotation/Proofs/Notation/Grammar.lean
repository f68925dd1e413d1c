import Mathlib.Logic.Relation
import SearchNotation.Notation.Reader
import SearchNotation.Proofs.Logged

/-!
# The grammar of the notation

`Json.IsNotation` says which JSON values are notation: the root is null, an object or an array of
objects, and every array below it is uniform, that is, it holds scalars only or objects only.
Reading accepts exactly these and loses nothing: the values that are read as `n` are those that `n`
is written as, where no list inside `n` is empty (`ofJson_eq_ok_iff`).

Whatever is written is regular (`Value.regular_toJson`), and a reader that fails names the key of an
array that is not uniform (`Value.mixedUnder_of_ofJson`); so what is regular is read.
-/

set_option autoImplicit false

namespace SearchNotation

/-! ## Parts -/

namespace Json

/-- `x` is an item or the value of a member of the other value. -/
inductive Child (x : Json) : Json → Prop
  | item {items : List Json} : x ∈ items → Child x (.array items)
  | member {members : List (String × Json)} {key : String} :
      (key, x) ∈ members → Child x (.object members)

/-- The value itself and everything below it. -/
abbrev Part : Json → Json → Prop := Relation.ReflTransGen Child

/-- Everything that is nested in a value. -/
abbrev Below : Json → Json → Prop := Relation.TransGen Child

/-- Neither an array nor an object. -/
def IsScalar : Json → Prop
  | .array _ | .object _ => False
  | _ => True

/-- A map from names to values. -/
def IsObject : Json → Prop
  | .object _ => True
  | _ => False

theorem IsObject.not_isScalar {json : Json} (h : json.IsObject) : ¬ json.IsScalar := by
  cases json <;> simp_all [IsObject, IsScalar]

/-- The items are all scalars or all objects. -/
def Uniform (items : List Json) : Prop := (∀ x ∈ items, x.IsScalar) ∨ ∀ x ∈ items, x.IsObject

/-- Every array in the value is uniform. -/
def Regular (json : Json) : Prop := ∀ items, Part (.array items) json → Uniform items

/-- **The grammar**: a root of the right kind, and only uniform arrays below it. -/
structure IsNotation (json : Json) : Prop where
  root : json = .null ∨ json.IsObject ∨ ∃ items, json = .array items ∧ ∀ x ∈ items, x.IsObject
  arrays : ∀ items, Below (.array items) json → Uniform items

/-- Somewhere in the value, an array under the key holds neither scalars only nor objects only. -/
def MixedUnder (key : String) (json : Json) : Prop :=
  ∃ members items, Part (.object members) json ∧ (key, .array items) ∈ members ∧ ¬ Uniform items

end Json

namespace Value

/-- `x` is the value of an entry of the other value. -/
inductive Child (x : Value) : Value → Prop
  | nested {bag : Bag} {key : String} : (key, x) ∈ bag → Child x (.nested bag)
  | list {bags : List Bag} {bag : Bag} {key : String} :
      bag ∈ bags → (key, x) ∈ bag → Child x (.list bags)

/-- The value itself and everything below it. -/
abbrev Part : Value → Value → Prop := Relation.ReflTransGen Child

/-- No list of bags in the value is empty. -/
def Proper (value : Value) : Prop := ∀ bags, Part (.list bags) value → bags ≠ []

end Value

namespace Notation

/-- No list of bags below the root is empty. -/
def Proper (n : Notation) : Prop := ∀ bag ∈ n.bags, ∀ e ∈ bag, e.2.Proper

end Notation

/-! ## Regular values -/

namespace Json

theorem regular_of_isScalar {json : Json} (h : json.IsScalar) : json.Regular := by
  intro items hp
  rcases hp.cases_tail with rfl | ⟨z, -, hz⟩
  · cases h
  · cases hz <;> cases h

theorem regular_object {members : List (String × Json)} :
    Regular (.object members) ↔ ∀ e ∈ members, e.2.Regular := by
  constructor
  · intro h e he items hp
    exact h items (hp.tail (.member he))
  · intro h items hp
    rcases hp.cases_tail with he | ⟨z, hz, hc⟩
    · cases he
    · cases hc with
      | member hm => exact h _ hm items hz

theorem regular_array {items : List Json} :
    Regular (.array items) ↔ Uniform items ∧ ∀ x ∈ items, x.Regular := by
  constructor
  · intro h
    refine ⟨h items .refl, fun x hx items' hp => ?_⟩
    exact h items' (hp.tail (.item hx))
  · rintro ⟨hu, h⟩ items' hp
    rcases hp.cases_tail with he | ⟨z, hz, hc⟩
    · cases he
      exact hu
    · cases hc with
      | item hx => exact h _ hx items' hz

/-- Only the root itself is exempt from being uniform. -/
theorem isNotation_iff {json : Json} : json.IsNotation ↔
    json = .null ∨ (∃ members, json = .object members ∧ json.Regular) ∨
      ∃ items, json = .array items ∧ ∀ x ∈ items, x.IsObject ∧ x.Regular := by
  constructor
  · rintro ⟨rfl | ho | ⟨items, rfl, hi⟩, ha⟩
    · exact .inl rfl
    · cases json with
      | object members =>
        refine .inr (.inl ⟨members, rfl, regular_object.2 fun e he items hp => ?_⟩)
        exact ha items (.tail' hp (.member he))
      | _ => cases ho
    · refine .inr (.inr ⟨items, rfl, fun x hx => ⟨hi x hx, fun items' hp => ?_⟩⟩)
      exact ha items' (.tail' hp (.item hx))
  · rintro (rfl | ⟨members, rfl, hr⟩ | ⟨items, rfl, hi⟩)
    · refine ⟨.inl rfl, fun items hb => ?_⟩
      obtain ⟨z, -, hc⟩ := Relation.TransGen.tail'_iff.1 hb
      cases hc
    · exact ⟨.inr (.inl trivial), fun items hb => hr items hb.to_reflTransGen⟩
    · refine ⟨.inr (.inr ⟨items, rfl, fun x hx => (hi x hx).1⟩), fun items' hb => ?_⟩
      obtain ⟨z, hz, hc⟩ := Relation.TransGen.tail'_iff.1 hb
      cases hc with
      | item hx => exact (hi _ hx).2 items' hz

end Json

/-! ## Scalars -/

namespace Scalar

theorem ofJson?_toJson (s : Scalar) : ofJson? s.toJson = some s := by
  cases s <;> rfl

theorem toJson_of_ofJson? {json : Json} {s : Scalar} (h : ofJson? json = some s) :
    s.toJson = json := by
  cases json <;> cases h <;> rfl

theorem isScalar_toJson (s : Scalar) : s.toJson.IsScalar := by
  cases s <;> trivial

theorem ofJson?_eq_none_iff {json : Json} : ofJson? json = none ↔ ¬ json.IsScalar := by
  cases json <;> simp [ofJson?, Json.IsScalar]

end Scalar

namespace Value

theorem toJson_of_scalarsOf? {items : List Json} {scalars : List Scalar}
    (h : scalarsOf? items = some scalars) : scalars.map Scalar.toJson = items := by
  induction items generalizing scalars with
  | nil => cases h; rfl
  | cons x rest ih =>
    rw [scalarsOf?, List.mapM_cons] at h
    obtain ⟨s, hs, h⟩ := Option.bind_eq_some_iff.1 h
    obtain ⟨others, ho, h⟩ := Option.bind_eq_some_iff.1 h
    cases h
    rw [List.map_cons, Scalar.toJson_of_ofJson? hs, ih ho]

theorem scalarsOf?_toJson (scalars : List Scalar) :
    scalarsOf? (scalars.map Scalar.toJson) = some scalars := by
  induction scalars with
  | nil => rfl
  | cons s rest ih =>
    rw [scalarsOf?] at ih ⊢
    rw [List.map_cons, List.mapM_cons, Scalar.ofJson?_toJson, ih]
    rfl

/-- What is not read as scalars has an item that is none. -/
theorem exists_of_scalarsOf?_eq_none {items : List Json} (h : scalarsOf? items = none) :
    ∃ x ∈ items, ¬ x.IsScalar := by
  induction items with
  | nil => cases h
  | cons x rest ih =>
    cases hx : Scalar.ofJson? x with
    | none => exact ⟨x, .head _, Scalar.ofJson?_eq_none_iff.1 hx⟩
    | some s =>
      have hrest : scalarsOf? rest = none := by
        rw [scalarsOf?, List.mapM_cons, hx] at h
        cases hr : rest.mapM Scalar.ofJson? with
        | none => exact hr
        | some others => rw [hr] at h; cases h
      obtain ⟨y, hy, hn⟩ := ih hrest
      exact ⟨y, .tail _ hy, hn⟩

/-! ## Writing -/

theorem proper_nested {bag : Bag} : Proper (.nested bag) ↔ ∀ e ∈ bag, e.2.Proper := by
  constructor
  · intro h e he bags hp
    exact h bags (hp.tail (.nested he))
  · intro h bags hp
    rcases Relation.ReflTransGen.cases_tail hp with he | ⟨z, hz, hc⟩
    · cases he
    · cases hc with
      | nested hm => exact h _ hm bags hz

theorem proper_list {bags : List Bag} :
    Proper (.list bags) ↔ bags ≠ [] ∧ ∀ bag ∈ bags, ∀ e ∈ bag, e.2.Proper := by
  constructor
  · intro h
    refine ⟨h bags .refl, fun bag hb e he bags' hp => ?_⟩
    exact h bags' (hp.tail (.list hb he))
  · rintro ⟨hne, h⟩ bags' hp
    rcases Relation.ReflTransGen.cases_tail hp with he | ⟨z, hz, hc⟩
    · cases he
      exact hne
    · cases hc with
      | list hb hm => exact h _ hb _ hm bags' hz

theorem proper_flat {value : Value} (h : ∀ x, ¬ Child x value) (hl : ∀ bags, value ≠ .list bags) :
    value.Proper := by
  intro bags hp
  rcases Relation.ReflTransGen.cases_tail hp with he | ⟨z, -, hc⟩
  · exact absurd he (hl bags)
  · exact absurd hc (h z)

theorem proper_scalar (s : Scalar) : Proper (.scalar s) := proper_flat nofun nofun

theorem proper_array (items : List Scalar) : Proper (.array items) := proper_flat nofun nofun

theorem isObject_of_mem_itemsOf : ∀ (bags : List Bag), ∀ x ∈ itemsOf bags, x.IsObject
  | [], x, hx => by cases hx
  | bag :: rest, x, hx => by
    rcases List.mem_cons.1 hx with rfl | hx
    · trivial
    · exact isObject_of_mem_itemsOf rest x hx

mutual

/-- **Whatever is written is regular.** -/
theorem regular_toJson : ∀ value : Value, value.toJson.Regular
  | .scalar s => Json.regular_of_isScalar s.isScalar_toJson
  | .array items => by
    have hs : ∀ x ∈ items.map Scalar.toJson, x.IsScalar := by
      intro x hx
      obtain ⟨s, -, rfl⟩ := List.mem_map.1 hx
      exact s.isScalar_toJson
    exact Json.regular_array.2 ⟨.inl hs, fun x hx => Json.regular_of_isScalar (hs x hx)⟩
  | .nested bag => Json.regular_object.2 (regular_membersOf bag)
  | .list bags => Json.regular_array.2 ⟨.inr (isObject_of_mem_itemsOf bags), regular_itemsOf bags⟩

theorem regular_membersOf : ∀ (bag : List (String × Value)), ∀ e ∈ membersOf bag, e.2.Regular
  | [], e, he => by cases he
  | (key, value) :: rest, e, he => by
    rcases List.mem_cons.1 he with rfl | he
    · exact regular_toJson value
    · exact regular_membersOf rest e he

theorem regular_itemsOf : ∀ (bags : List (List (String × Value))), ∀ x ∈ itemsOf bags, x.Regular
  | [], x, hx => by cases hx
  | bag :: rest, x, hx => by
    rcases List.mem_cons.1 hx with rfl | hx
    · exact Json.regular_object.2 (regular_membersOf bag)
    · exact regular_itemsOf rest x hx

end

/-! ## Reading what was written -/

mutual

/-- **What is written is read again**, if no list in it is empty. -/
theorem ofJson_toJson : ∀ (value : Value) (key : String), value.Proper →
    ofJson key value.toJson = .ok value
  | .scalar s, _, _ => by cases s <;> rfl
  | .array items, _, _ => by rw [toJson, ofJson, scalarsOf?_toJson]
  | .nested bag, _, h => by
    rw [toJson, ofJson, bagOf_membersOf bag (proper_nested.1 h)]
    rfl
  | .list [], _, h => absurd rfl (proper_list.1 h).1
  | .list (bag :: rest), key, h => by
    have hb := bagsOf_itemsOf (bag :: rest) (.mixedArray key) (proper_list.1 h).2
    have hn : scalarsOf? (itemsOf (bag :: rest)) = none := rfl
    rw [toJson, ofJson, hn, hb]
    rfl

theorem bagOf_membersOf : ∀ bag : List (String × Value), (∀ e ∈ bag, e.2.Proper) →
    bagOf (membersOf bag) = .ok bag
  | [], _ => rfl
  | (key, value) :: rest, h => by
    rw [membersOf, bagOf, ofJson_toJson value key (h _ (.head _)),
      bagOf_membersOf rest fun e he => h e (.tail _ he)]
    rfl

theorem bagsOf_itemsOf : ∀ (bags : List (List (String × Value))) (error : NotationError),
    (∀ bag ∈ bags, ∀ e ∈ bag, e.2.Proper) → bagsOf error (itemsOf bags) = .ok bags
  | [], _, _ => rfl
  | bag :: rest, error, h => by
    rw [itemsOf, bagsOf, bagOf_membersOf bag (h _ (.head _)),
      bagsOf_itemsOf rest error fun b hb => h b (.tail _ hb)]
    rfl

end

mutual

/-- **What is read is written as it was**, and no list in it is empty. -/
theorem toJson_of_ofJson : ∀ (json : Json) {key : String} {value : Value},
    ofJson key json = .ok value → value.toJson = json ∧ value.Proper
  | .null, _, _, h => by cases h; exact ⟨rfl, proper_scalar _⟩
  | .bool _, _, _, h => by cases h; exact ⟨rfl, proper_scalar _⟩
  | .number _, _, _, h => by cases h; exact ⟨rfl, proper_scalar _⟩
  | .string _, _, _, h => by cases h; exact ⟨rfl, proper_scalar _⟩
  | .object members, key, value, h => by
    rw [ofJson] at h
    obtain ⟨bag, hb, hv⟩ := Except.bind_eq_ok.1 h
    cases hv
    obtain ⟨hm, hp⟩ := membersOf_of_bagOf members hb
    exact ⟨by rw [toJson, hm], proper_nested.2 hp⟩
  | .array items, key, value, h => by
    rw [ofJson] at h
    cases hs : scalarsOf? items with
    | some scalars =>
      rw [hs] at h
      cases h
      exact ⟨by rw [toJson, toJson_of_scalarsOf? hs], proper_array _⟩
    | none =>
      rw [hs] at h
      obtain ⟨bags, hb, hv⟩ := Except.bind_eq_ok.1 h
      cases hv
      obtain ⟨hi, hp⟩ := itemsOf_of_bagsOf items hb
      refine ⟨by rw [toJson, hi], proper_list.2 ⟨?_, hp⟩⟩
      -- without bags there are no items, and those would have been read as scalars
      rintro rfl
      rw [← hi] at hs
      cases hs

theorem membersOf_of_bagOf : ∀ (members : List (String × Json)) {bag : Bag},
    bagOf members = .ok bag → membersOf bag = members ∧ ∀ e ∈ bag, e.2.Proper
  | [], _, h => by cases h; exact ⟨rfl, nofun⟩
  | (key, json) :: rest, bag, h => by
    rw [bagOf] at h
    obtain ⟨value, hv, h⟩ := Except.bind_eq_ok.1 h
    obtain ⟨others, ho, h⟩ := Except.bind_eq_ok.1 h
    cases h
    obtain ⟨hj, hp⟩ := toJson_of_ofJson json hv
    obtain ⟨hm, hr⟩ := membersOf_of_bagOf rest ho
    exact ⟨by rw [membersOf, hj, hm], List.forall_mem_cons.2 ⟨hp, hr⟩⟩

theorem itemsOf_of_bagsOf : ∀ (items : List Json) {error : NotationError} {bags : List Bag},
    bagsOf error items = .ok bags →
      itemsOf bags = items ∧ ∀ bag ∈ bags, ∀ e ∈ bag, e.2.Proper
  | [], _, _, h => by cases h; exact ⟨rfl, nofun⟩
  | .object members :: rest, error, bags, h => by
    rw [bagsOf] at h
    obtain ⟨bag, hb, h⟩ := Except.bind_eq_ok.1 h
    obtain ⟨others, ho, h⟩ := Except.bind_eq_ok.1 h
    cases h
    obtain ⟨hm, hp⟩ := membersOf_of_bagOf members hb
    obtain ⟨hi, hr⟩ := itemsOf_of_bagsOf rest ho
    exact ⟨by rw [itemsOf, hm, hi], List.forall_mem_cons.2 ⟨hp, hr⟩⟩
  | .null :: _, _, _, h => by cases h
  | .bool _ :: _, _, _, h => by cases h
  | .number _ :: _, _, _, h => by cases h
  | .string _ :: _, _, _, h => by cases h
  | .array _ :: _, _, _, h => by cases h

end

end Value

/-! ## Failing -/

namespace Json.MixedUnder

theorem of_part {key : String} {x json : Json} (h : MixedUnder key x) (hp : Part x json) :
    MixedUnder key json := by
  obtain ⟨members, items, hm, hi⟩ := h
  exact ⟨members, items, hm.trans hp, hi⟩

/-- More members hold what fewer hold. -/
theorem of_subset {key : String} {members members' : List (String × Json)}
    (h : MixedUnder key (.object members)) (hs : members ⊆ members') :
    MixedUnder key (.object members') := by
  obtain ⟨ms, items, hp, hi, hn⟩ := h
  rcases hp.cases_tail with he | ⟨z, hz, hc⟩
  · cases he
    exact ⟨members', items, .refl, hs hi, hn⟩
  · cases hc with
    | member hm => exact ⟨ms, items, hz.tail (.member (hs hm)), hi, hn⟩

end Json.MixedUnder

namespace Value

open Json (MixedUnder)

mutual

/-- **A value that is not read has an array that is not uniform**, and the error names its key. -/
theorem mixedUnder_of_ofJson : ∀ (json : Json) {key : String} {e : NotationError},
    ofJson key json = .error e →
      ∃ name, e = .mixedArray name ∧ MixedUnder name (.object [(key, json)])
  | .null, _, _, h => by cases h
  | .bool _, _, _, h => by cases h
  | .number _, _, _, h => by cases h
  | .string _, _, _, h => by cases h
  | .object members, key, e, h => by
    rw [ofJson] at h
    rcases Except.bind_eq_error.1 h with h | ⟨bag, -, h⟩
    · obtain ⟨name, he, hm⟩ := mixedUnder_of_bagOf members h
      exact ⟨name, he, hm.of_part (.single (.member (.head _)))⟩
    · cases h
  | .array items, key, e, h => by
    rw [ofJson] at h
    cases hs : scalarsOf? items with
    | some scalars => rw [hs] at h; cases h
    | none =>
      rw [hs] at h
      rcases Except.bind_eq_error.1 h with h | ⟨bags, -, h⟩
      · rcases mixedUnder_of_bagsOf items h with ⟨rfl, hno⟩ | ⟨name, he, x, hx, hm⟩
        · obtain ⟨x, hx, hns⟩ := exists_of_scalarsOf?_eq_none hs
          refine ⟨key, rfl, _, items, .refl, .head _, ?_⟩
          rintro (hall | hall)
          · exact hns (hall x hx)
          · exact hno hall
        · exact ⟨name, he, hm.of_part (.tail (.single (.item hx)) (.member (.head _)))⟩
      · cases h

theorem mixedUnder_of_bagOf : ∀ (members : List (String × Json)) {e : NotationError},
    bagOf members = .error e → ∃ name, e = .mixedArray name ∧ MixedUnder name (.object members)
  | [], _, h => by cases h
  | (key, json) :: rest, e, h => by
    rw [bagOf] at h
    rcases Except.bind_eq_error.1 h with h | ⟨value, -, h⟩
    · obtain ⟨name, he, hm⟩ := mixedUnder_of_ofJson json h
      exact ⟨name, he, hm.of_subset (by simp)⟩
    · rcases Except.bind_eq_error.1 h with h | ⟨bag, -, h⟩
      · obtain ⟨name, he, hm⟩ := mixedUnder_of_bagOf rest h
        exact ⟨name, he, hm.of_subset (List.subset_cons_self _ _)⟩
      · cases h

theorem mixedUnder_of_bagsOf : ∀ (items : List Json) {error e : NotationError},
    bagsOf error items = .error e → (e = error ∧ ¬ ∀ x ∈ items, x.IsObject) ∨
      ∃ name, e = .mixedArray name ∧ ∃ x ∈ items, MixedUnder name x
  | [], _, _, h => by cases h
  | .object members :: rest, error, e, h => by
    rw [bagsOf] at h
    rcases Except.bind_eq_error.1 h with h | ⟨bag, -, h⟩
    · obtain ⟨name, he, hm⟩ := mixedUnder_of_bagOf members h
      exact .inr ⟨name, he, _, .head _, hm⟩
    · rcases Except.bind_eq_error.1 h with h | ⟨bags, -, h⟩
      · rcases mixedUnder_of_bagsOf rest h with ⟨he, hno⟩ | ⟨name, he, x, hx, hm⟩
        · exact .inl ⟨he, fun hall => hno fun x hx => hall x (.tail _ hx)⟩
        · exact .inr ⟨name, he, x, .tail _ hx, hm⟩
      · cases h
  | .null :: _, _, _, h => by cases h; exact .inl ⟨rfl, fun hall => hall _ (.head _)⟩
  | .bool _ :: _, _, _, h => by cases h; exact .inl ⟨rfl, fun hall => hall _ (.head _)⟩
  | .number _ :: _, _, _, h => by cases h; exact .inl ⟨rfl, fun hall => hall _ (.head _)⟩
  | .string _ :: _, _, _, h => by cases h; exact .inl ⟨rfl, fun hall => hall _ (.head _)⟩
  | .array _ :: _, _, _, h => by cases h; exact .inl ⟨rfl, fun hall => hall _ (.head _)⟩

end

end Value

/-! ## The whole notation -/

namespace Notation

theorem itemsOf_eq_map : ∀ bags : List Bag, Value.itemsOf bags = bags.map Bag.toJson
  | [] => rfl
  | bag :: rest => by rw [Value.itemsOf, itemsOf_eq_map rest]; rfl

theorem isNotation_toJson (n : Notation) : n.toJson.IsNotation := by
  rw [Json.isNotation_iff]
  cases n with
  | null => exact .inl rfl
  | map bag => exact .inr (.inl ⟨_, rfl, Value.regular_toJson (.nested bag)⟩)
  | list bags =>
    refine .inr (.inr ⟨_, rfl, ?_⟩)
    rw [← itemsOf_eq_map]
    intro x hx
    exact ⟨Value.isObject_of_mem_itemsOf bags x hx, Value.regular_itemsOf bags x hx⟩

theorem ofJson_toJson {n : Notation} (h : n.Proper) : ofJson n.toJson = .ok n := by
  cases n with
  | null => rfl
  | map bag =>
    have hb := Value.bagOf_membersOf bag (h bag (.head _))
    rw [toJson, Bag.toJson, Bag.toMembers, ofJson, hb]
    rfl
  | list bags =>
    have hb := Value.bagsOf_itemsOf bags .mixedRoot h
    rw [toJson, ofJson, ← itemsOf_eq_map, hb]
    rfl

theorem toJson_of_ofJson {json : Json} {n : Notation} (h : ofJson json = .ok n) :
    n.toJson = json ∧ n.Proper := by
  cases json with
  | null => cases h; exact ⟨rfl, nofun⟩
  | object members =>
    obtain ⟨bag, hb, hn⟩ := Except.bind_eq_ok.1 h
    cases hn
    obtain ⟨hm, hp⟩ := Value.membersOf_of_bagOf members hb
    exact ⟨congrArg Json.object hm, List.forall_mem_singleton.2 hp⟩
  | array items =>
    obtain ⟨bags, hb, hn⟩ := Except.bind_eq_ok.1 h
    cases hn
    obtain ⟨hi, hp⟩ := Value.itemsOf_of_bagsOf items hb
    exact ⟨by rw [toJson, ← itemsOf_eq_map, hi], hp⟩
  | _ => cases h

/-- A root that is not read is of the wrong kind, or has an array below it that is not uniform. -/
theorem mixedUnder_of_ofJson {json : Json} {e : NotationError} (h : ofJson json = .error e) :
    (e = .scalarRoot ∧ json.IsScalar ∧ json ≠ .null) ∨
      (e = .mixedRoot ∧ ∃ items, json = .array items ∧ ¬ ∀ x ∈ items, x.IsObject) ∨
      ∃ key, e = .mixedArray key ∧ json.MixedUnder key := by
  cases json with
  | null => cases h
  | object members =>
    rcases Except.bind_eq_error.1 h with h | ⟨bag, -, h⟩
    · exact .inr (.inr (Value.mixedUnder_of_bagOf members h))
    · cases h
  | array items =>
    rcases Except.bind_eq_error.1 h with h | ⟨bags, -, h⟩
    · rcases Value.mixedUnder_of_bagsOf items h with ⟨he, hno⟩ | ⟨key, he, x, hx, hm⟩
      · exact .inr (.inl ⟨he, items, rfl, hno⟩)
      · exact .inr (.inr ⟨key, he, hm.of_part (.single (.item hx))⟩)
    · cases h
  | _ =>
    cases h
    refine .inl ⟨rfl, trivial, ?_⟩
    rintro ⟨⟩

/-- What is refused is outside the grammar, so the grammar is read. -/
theorem exists_ofJson_iff {json : Json} : (∃ n, ofJson json = .ok n) ↔ json.IsNotation := by
  constructor
  · rintro ⟨n, h⟩
    rw [← (toJson_of_ofJson h).1]
    exact n.isNotation_toJson
  · intro hj
    cases h : ofJson json with
    | ok n => exact ⟨n, rfl⟩
    | error e =>
      exfalso
      rcases mixedUnder_of_ofJson h with ⟨-, hs, hne⟩ | ⟨-, items, rfl, hno⟩ | ⟨key, -, hm⟩
      · rcases hj.root with he | ho | ⟨items, rfl, -⟩
        · exact hne he
        · exact ho.not_isScalar hs
        · cases hs
      · rcases hj.root with he | ho | ⟨items', he, hall⟩
        · cases he
        · cases ho
        · cases he
          exact hno hall
      · obtain ⟨members, items, hp, hi, hn⟩ := hm
        exact hn (hj.arrays items (.head' (.member hi) hp))

/-- **Reading accepts exactly the notation and loses nothing**: what is read as `n` is what `n` is
written as, and an error about a mixed array names the key of one. -/
theorem ofJson_reads_exactly (json : Json) :
    ((∃ n, ofJson json = .ok n) ↔ json.IsNotation) ∧
      (∀ n, ofJson json = .ok n ↔ n.toJson = json ∧ n.Proper) ∧
      ∀ key, ofJson json = .error (.mixedArray key) → json.MixedUnder key := by
  refine ⟨exists_ofJson_iff, fun n => ⟨toJson_of_ofJson, ?_⟩, fun key h => ?_⟩
  · rintro ⟨rfl, hp⟩
    exact ofJson_toJson hp
  · rcases mixedUnder_of_ofJson h with ⟨he, -⟩ | ⟨he, -⟩ | ⟨key', he, hm⟩
    · cases he
    · cases he
    · cases he
      exact hm

/-- A list of objects with an empty array, a null among scalars and a list of bags; and, two objects
deep, an array that begins with an object and goes on with an array. -/
theorem ofJson_reads_nested :
    let json : Json := .array [.object [
      ("age", .array [.number (.int 18), .null]),
      ("must", .array [.object [("ids", .array [])], .object []])], .object []]
    let n : Notation := .list [[
      ("age", .array [.number (.int 18), .null]),
      ("must", .list [[("ids", .array [])], []])], []]
    let mixed : Json := .object [("filter", .object [
      ("ids", .array []), ("tags", .array [.object [], .array [.null]])])]
    (ofJson json = .ok n ∧ n.toJson = json ∧ n.Proper ∧ json.IsNotation) ∧
      ofJson mixed = .error (.mixedArray "tags") ∧ mixed.MixedUnder "tags" := by
  intro json n mixed
  have hread : ofJson json = .ok n := rfl
  have hmixed : ofJson mixed = .error (.mixedArray "tags") := rfl
  obtain ⟨hj, hp⟩ := ((ofJson_reads_exactly json).2.1 n).1 hread
  exact ⟨⟨hread, hj, hp, (ofJson_reads_exactly json).1.1 ⟨n, hread⟩⟩, hmixed,
    (ofJson_reads_exactly mixed).2.2 "tags" hmixed⟩

end Notation

end SearchNotation
