import SearchNotation.Proofs.Dict
import SearchNotation.Query.Predicate

/-!
# Options beside an argument

A predicate is written with its argument and its options in one object, under the field that it
tests or under its name. `KeepsArgument` says that the argument stands there as it is, with every
option under another key. Each predicate but the range stores its argument last, so nothing takes
its place. A range stores its options last: it keeps its bounds only if no option has the key of
one and another value (`keepsArgument_iff`).
-/

set_option autoImplicit false

namespace SearchNotation

namespace Predicate

/-- What is passed on beside the argument. -/
def options : Predicate → Dict Json
  | .onField _ _ _ options | .terms _ _ options | .range _ _ _ options | .fieldExists _ options
  | .ids _ options | .queryString _ options | .simpleQueryString _ options
  | .mappingType _ options => options

/-- The field that the argument and the options stand under, if they do. -/
def keyedBy? : Predicate → Option String
  | .onField _ field _ _ | .range field _ _ _ => some field
  | _ => none

/-- The bounds that are given, each under its key. -/
def boundEntries (lower upper : Option Bound) : Dict Json :=
  (lower.toList.map fun b => (b.lowerKey, b.value)) ++
    upper.toList.map fun b => (b.upperKey, b.value)

/-- The entries that the argument is written as. -/
def argument : Predicate → Dict Json
  | .onField test _ query _ => [(test.valueKey, query)]
  | .terms field values _ => [(field, .array values)]
  | .range _ lower upper _ => boundEntries lower upper
  | .fieldExists field _ => [("field", .string field)]
  | .ids values _ => [("values", Json.ofStrings values)]
  | .queryString query _ | .simpleQueryString query _ => [("query", .string query)]
  | .mappingType value _ => [("value", .string value)]

/-- The object with these members, under a field if there is one. -/
def underField (members : Dict Json) : Option String → Json
  | some field => Json.single field (.object members)
  | none => .object members

/-- The members are the argument and, under all other keys, the options. -/
structure Keeps (p : Predicate) (members : Dict Json) : Prop where
  argument : ∀ e ∈ p.argument, Dict.get? members e.1 = some e.2
  options : ∀ name, name ∉ p.argument.keys → Dict.get? members name = Dict.get? p.options name

/-- The predicate is written with its argument as it is. -/
def KeepsArgument (p : Predicate) : Prop :=
  ∃ members, p.toJson = Json.single p.name (underField members p.keyedBy?) ∧ p.Keeps members

/-- No option stands for a bound that is given, with another value. -/
def OptionsGiveWay : Predicate → Prop
  | .range _ lower upper options =>
    ∀ e ∈ boundEntries lower upper, ∀ value, Dict.get? options e.1 = some value → value = e.2
  | _ => True

/-! ## Members -/

/-- The members that a predicate is written with. -/
def members : Predicate → Dict Json
  | .range _ lower upper options => Dict.insertAll (boundMembers lower upper) options
  | p => Dict.insertAll p.options p.argument

theorem toJson_eq (p : Predicate) :
    p.toJson = Json.single p.name (underField p.members p.keyedBy?) := by
  cases p <;> rfl

theorem underField_inj {xs ys : Dict Json} {field : Option String}
    (h : underField xs field = underField ys field) : xs = ys := by
  cases field <;> simpa [underField, Json.single] using h

theorem keepsArgument_iff_keeps {p : Predicate} : p.KeepsArgument ↔ p.Keeps p.members := by
  constructor
  · rintro ⟨members, h, hk⟩
    rw [toJson_eq, Json.single, Json.single] at h
    have hm : underField p.members p.keyedBy? = underField members p.keyedBy? := by simpa using h
    rwa [underField_inj hm]
  · exact fun hk => ⟨_, p.toJson_eq, hk⟩

/-- An argument of one entry is stored last. -/
theorem keeps_insert {p : Predicate} {key : String} {value : Json}
    (ha : p.argument = [(key, value)])
    (hm : p.members = Dict.insert p.options key value) : p.Keeps p.members where
  argument := by
    rw [ha, hm, List.forall_mem_singleton]
    exact Dict.get?_insert_self _ _ _
  options name hname := by
    rw [hm, Dict.get?_insert_of_ne]
    rintro rfl
    simp [ha, Dict.keys] at hname

/-! ## Ranges -/

/-- The keys of bounds are in order, a lower one before an upper one. -/
theorem boundMembers_eq (lower upper : Option Bound) :
    boundMembers lower upper = boundEntries lower upper := by
  have hkeys : ∀ b b' : Bound, b.lowerKey < b'.upperKey := fun b b' =>
    (by decide : ∀ i j : Bool, (if i then "gte" else "gt") < if j then "lte" else "lt")
      b.inclusive b'.inclusive
  refine Dict.ofList_of_sorted ?_
  cases lower with
  | none =>
    cases upper with
    | none => exact Dict.sorted_nil
    | some b => exact Dict.sorted_cons.2 ⟨nofun, Dict.sorted_nil⟩
  | some b =>
    cases upper with
    | none => exact Dict.sorted_cons.2 ⟨nofun, Dict.sorted_nil⟩
    | some b' =>
      refine Dict.sorted_cons.2 ⟨fun e he => ?_, Dict.sorted_cons.2 ⟨nofun, Dict.sorted_nil⟩⟩
      cases List.mem_singleton.1 he
      exact hkeys b b'

theorem get?_boundEntries {lower upper : Option Bound} {e : String × Json}
    (h : e ∈ boundEntries lower upper) : Dict.get? (boundEntries lower upper) e.1 = some e.2 := by
  refine Dict.get?_of_mem ?_ h
  rw [← boundMembers_eq]
  exact Dict.sorted_ofList _

theorem keeps_range_iff {field : String} {lower upper : Option Bound} {options : Dict Json}
    (hs : Dict.Sorted options) :
    (range field lower upper options).Keeps (range field lower upper options).members ↔
      (range field lower upper options).OptionsGiveWay := by
  have hget : ∀ name, Dict.get? (range field lower upper options).members name =
      (Dict.get? options name).or (Dict.get? (boundEntries lower upper) name) := by
    intro name
    rw [members, Dict.get?_insertAll _ hs, boundMembers_eq]
  constructor
  · intro h e he value hv
    have hkept := h.argument e he
    rw [hget, hv] at hkept
    exact Option.some.inj hkept
  · intro h
    refine ⟨fun e he => ?_, fun name hname => ?_⟩
    · rw [hget, get?_boundEntries he]
      cases hv : Dict.get? options e.1 with
      | none => rfl
      | some value => rw [h e he value hv]; rfl
    · have hnone : Dict.get? (boundEntries lower upper) name = none :=
        Dict.get?_eq_none fun e he hk => hname (List.mem_map.2 ⟨e, he, hk⟩)
      rw [hget, hnone, Option.or_none]
      rfl

/-- **A predicate keeps its argument whatever its options are**, but for a range with an option
under the key of a bound that is given. -/
theorem keepsArgument_iff {p : Predicate} (hs : Dict.Sorted p.options) :
    p.KeepsArgument ↔ p.OptionsGiveWay := by
  rw [keepsArgument_iff_keeps]
  cases p with
  | range field lower upper options => exact keeps_range_iff hs
  | _ => exact iff_of_true (keeps_insert rfl rfl) trivial

/-- The bound has an option of its own value beside it, and there is one for the other key of the
same side. -/
theorem keepsArgument_same_bound :
    let p : Predicate := .range "id" (some ⟨.number (.int 1), true⟩) none
      [("boost", .number (.int 2)), ("gt", .number (.int 7)), ("gte", .number (.int 1))]
    Dict.Sorted p.options ∧ p.KeepsArgument := by
  intro p
  have hs : Dict.Sorted p.options := by decide
  refine ⟨hs, (keepsArgument_iff hs).2 ?_⟩
  simp [p, OptionsGiveWay, boundEntries, Bound.lowerKey, Dict.get?]

/-- An option takes the place of the lower bound. -/
theorem range_option_replaces_bound :
    let p : Predicate := .range "id" (some ⟨.number (.int 1), true⟩) none
      [("gte", .number (.int 5))]
    Dict.Sorted p.options ∧ p.toJson = Json.single "range" (Json.single "id"
      (.object [("gte", .number (.int 5))])) ∧ ¬ p.KeepsArgument := by
  intro p
  refine ⟨by decide, rfl, fun h => ?_⟩
  have hkept := (keepsArgument_iff_keeps.1 h).argument ("gte", .number (.int 1)) (.head _)
  exact absurd (Option.some.inj hkept) (by decide)

end Predicate

end SearchNotation
