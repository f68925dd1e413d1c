import SearchNotation.Proofs.Aggregation.Constructors
import SearchNotation.Proofs.Aggregation.Embedded
import SearchNotation.Proofs.Query.Correspondence
import SearchNotation.Proofs.Registry.Lookup

/-!
# Parameters on their way to the engine

A value gives an aggregation its parameters (`Value.params?`): all that it holds except the reserved
keys. The check counts null as absent (`Lacks`); the body that is sent has every parameter as it
stands, null and unknown ones included, and only a single range becomes a list
(`AggregationKind.sentBody`). `compile_sends` puts the two together for all standard kinds that hold
no queries.
-/

set_option autoImplicit false

namespace SearchNotation

open Aggregation (subKey nameKey plan checkParams)

/-- The parameters that a value stands for. -/
def Value.params? : Value → Option Bag
  | .scalar .null => some []
  | .scalar s => some [("field", .scalar s)]
  | .nested bag => some (Dict.without bag [subKey, nameKey])
  | .array _ | .list _ => none

/-- The value holds sub-aggregations that compile. -/
inductive Value.SubCompiles (registry : Registry) : Value → Prop
  | map {bag : Bag} {children : List Aggregation}
      (h : (Aggregation.compile registry (.map bag)).result = .ok children) :
      SubCompiles registry (.nested bag)
  | list {bags : List Bag} {children : List Aggregation}
      (h : (Aggregation.compile registry (.list bags)).result = .ok children) :
      SubCompiles registry (.list bags)
  | empty : SubCompiles registry (.array [])

/-- What stands under the reserved keys, if anything but null, is a name and sub-aggregations. -/
structure Bag.ReservedOk (registry : Registry) (bag : Bag) : Prop where
  name : ∀ value, bag.present? nameKey = some value → ∃ s, value = .ofString s
  sub : ∀ value, bag.present? subKey = some value → value.SubCompiles registry

/-- The reserved keys of a map are used as they are meant. -/
def Value.ReservedOk (registry : Registry) : Value → Prop
  | .nested bag => Bag.ReservedOk registry bag
  | _ => True

namespace AggregationKind

/-- The parameter that a kind lacks, where null is absent: the first of the required ones, or else
one of the alternatives. -/
inductive Lacks (kind : AggregationKind) (params : Bag) : String → Prop
  | required {before after : List String} {name : String}
      (hsplit : kind.required = before ++ name :: after)
      (hbefore : ∀ other ∈ before, params.hasPresent other = true)
      (hname : params.hasPresent name = false) : Lacks kind params name
  | oneOf (hrequired : ∀ name ∈ kind.required, params.hasPresent name = true)
      (hne : kind.oneOf ≠ []) (hnone : ∀ name ∈ kind.oneOf, params.hasPresent name = false) :
      Lacks kind params (" or ".intercalate kind.oneOf)

/-- What the engine is sent: the parameters, with a list of maps for the ranges of a kind of
ranges. -/
def sentBody (kind : AggregationKind) (params : Bag) : Json :=
  if kind.name ∈ rangeKinds then
    .object (params.map fun e => (e.1,
      if e.1 = "ranges" then .array (e.2.elements.map Bag.toJson) else e.2.toJson))
  else params.toJson

/-- The ranges of a kind of ranges are a map or a list of maps. -/
def RangesGiven (kind : AggregationKind) (params : Bag) : Prop :=
  kind.name ∈ rangeKinds →
    ∃ value, Dict.get? params "ranges" = some value ∧ value.shape ∈ [.object, .list]

/-- An aggregation fails for want of a parameter exactly if one is lacking, and one that compiles
sends its parameters. -/
structure Sends (kind : AggregationKind) (params : Bag)
    (result : Except CompileError (List Aggregation)) : Prop where
  missing : ∀ name argument, result = .error (.missingArgument name argument) ↔
    name = kind.name ∧ kind.Lacks params argument
  body : ∀ siblings, result = .ok siblings → ∃ name children,
    siblings = [⟨kind.name, name, params, children, kind.engineName, kind.sentBody params⟩]
  compiles : (∃ siblings, result = .ok siblings) ↔
    (∀ argument, ¬ kind.Lacks params argument) ∧ kind.RangesGiven params

/-! ## The check of the parameters -/

section
variable {kind : AggregationKind} {params : Bag}

theorem checkParams_eq_error_iff {e : CompileError} : checkParams kind params = .error e ↔
    ∃ argument, kind.Lacks params argument ∧ e = .missingArgument kind.name argument := by
  constructor
  · intro h
    unfold checkParams at h
    split at h
    · next name hfind =>
      cases h
      obtain ⟨hname, before, after, hsplit, hbefore⟩ := List.find?_eq_some_iff_append.1 hfind
      refine ⟨name, .required hsplit ?_ (by simpa using hname), rfl⟩
      intro other hother
      simpa using hbefore other hother
    · next hfind =>
      split at h
      · cases h
      · next hoptions =>
        cases h
        rw [Bool.or_eq_true, not_or, List.isEmpty_iff, List.any_eq_true] at hoptions
        refine ⟨_, .oneOf ?_ hoptions.1 ?_, rfl⟩
        · simpa using hfind
        · intro name hname
          exact Bool.eq_false_iff.2 fun hpresent => hoptions.2 ⟨name, hname, hpresent⟩
  · rintro ⟨argument, hlacks, rfl⟩
    cases hlacks with
    | required hsplit hbefore hname =>
      have hfind : kind.required.find? (fun name => !params.hasPresent name) = some argument := by
        refine List.find?_eq_some_iff_append.2 ⟨by simpa using hname, _, _, hsplit, ?_⟩
        intro other hother
        simpa using hbefore other hother
      rw [checkParams, hfind]
    | oneOf hrequired hne hnone =>
      have hfind : kind.required.find? (fun name => !params.hasPresent name) = none := by
        simpa using hrequired
      have hoptions : ¬ (kind.oneOf.isEmpty || kind.oneOf.any params.hasPresent) = true := by
        rw [Bool.or_eq_true, not_or, List.isEmpty_iff, List.any_eq_true]
        refine ⟨hne, ?_⟩
        rintro ⟨name, hname, hpresent⟩
        rw [hnone name hname] at hpresent
        cases hpresent
      rw [checkParams, hfind]
      exact if_neg hoptions

theorem checkParams_eq_ok_iff :
    checkParams kind params = .ok () ↔ ∀ argument, ¬ kind.Lacks params argument := by
  constructor
  · intro h argument hlacks
    rw [checkParams_eq_error_iff.2 ⟨argument, hlacks, rfl⟩] at h
    cases h
  · intro h
    cases hc : checkParams kind params with
    | ok => rfl
    | error e =>
      obtain ⟨argument, hlacks, -⟩ := checkParams_eq_error_iff.1 hc
      exact absurd hlacks (h argument)

theorem hasPresent_of_required (h : ∀ argument, ¬ kind.Lacks params argument) :
    ∀ name ∈ kind.required, params.hasPresent name = true := by
  have hc := checkParams_eq_ok_iff.2 h
  unfold checkParams at hc
  split at hc
  · cases hc
  · next hfind => simpa using hfind

/-! ## The body -/

theorem buildRanges_of_shape {table : QueryTable} (hs : Dict.Sorted params) {value : Value}
    (h : Dict.get? params "ranges" = some value) (hshape : value.shape ∈ [.object, .list]) :
    (buildRanges table params).result = .ok (.object (params.map fun e => (e.1,
      if e.1 = "ranges" then .array (e.2.elements.map Bag.toJson) else e.2.toJson))) := by
  have hbody : Dict.insert (Bag.toMembers (Dict.without params ["ranges"])) "ranges"
      (.array (value.elements.map Bag.toJson)) = params.map fun e => (e.1,
        if e.1 = "ranges" then .array (e.2.elements.map Bag.toJson) else e.2.toJson) := by
    rw [Bag.toMembers_eq, Dict.insert_without_eq_map hs h]
    refine List.map_congr_left fun e he => ?_
    by_cases hname : e.1 = "ranges"
    · have hheld := Dict.get?_of_mem hs he
      rw [hname, h] at hheld
      cases hheld
      rfl
    · rw [if_neg hname, if_neg hname]
  have hpresent : params.present? "ranges" = some value := by
    refine Bag.present?_eq_some.2 ⟨h, ?_⟩
    cases value with
    | scalar s => cases s <;> simp [Value.shape] at hshape
    | _ => rfl
  rw [← hbody, buildRanges, hpresent]
  cases value with
  | scalar s => cases s <;> simp [Value.shape] at hshape
  | array items => simp [Value.shape] at hshape
  | nested range => rfl
  | list bags => rfl

theorem buildRanges_of_other_shape {table : QueryTable} {value : Value}
    (h : params.present? "ranges" = some value) (hshape : value.shape ∉ [.object, .list]) :
    (buildRanges table params).result =
      .error (.invalidArgument "range" "ranges" .objectOrList value.shape) := by
  rw [buildRanges, h]
  cases value with
  | nested range => simp [Value.shape] at hshape
  | list bags => simp [Value.shape] at hshape
  | _ => rfl

/-- **A kind without queries sends its parameters**, or says what is wrong with the ranges. -/
theorem construct_sends (table : QueryTable) (hk : kind.Constructed)
    (hname : kind.name ∉ ["filter", "filters", "adjacency_matrix"]) (hs : Dict.Sorted params)
    (hcomplete : ∀ argument, ¬ kind.Lacks params argument) :
    (kind.RangesGiven params ∧
      (kind.construct table params).result = .ok (kind.sentBody params)) ∨
    (¬ kind.RangesGiven params ∧ ∃ shape, (kind.construct table params).result =
      .error (.invalidArgument "range" "ranges" .objectOrList shape)) := by
  cases hk with
  | plain hb hout =>
    have hrange : kind.name ∉ rangeKinds := fun h =>
      hout (.tail _ (List.mem_append_right _ h))
    rw [hb, sentBody, if_neg hrange]
    exact .inl ⟨fun h => absurd h hrange, rfl⟩
  | filter hb hfilter => exact absurd (by rw [hfilter]; decide) hname
  | filters hb hfilters =>
    exact absurd ((by decide : ∀ name ∈ filterKinds, name ∈ ["filter", "filters",
      "adjacency_matrix"]) _ hfilters) hname
  | ranges hb hrange hrequired =>
    obtain ⟨value, hpresent⟩ :=
      Option.isSome_iff_exists.1 (hasPresent_of_required hcomplete _ hrequired)
    have hget := (Bag.present?_eq_some.1 hpresent).1
    rw [hb, sentBody, if_pos hrange]
    by_cases hshape : value.shape ∈ [.object, .list]
    · exact .inl ⟨fun _ => ⟨value, hget, hshape⟩, buildRanges_of_shape hs hget hshape⟩
    · refine .inr ⟨fun h => ?_, value.shape, buildRanges_of_other_shape hpresent hshape⟩
      obtain ⟨value', hget', hshape'⟩ := h hrange
      cases hget.symm.trans hget'
      exact hshape hshape'

/-! ### How an aggregation ends -/

/-- Only one parameter is reported. -/
theorem Lacks.unique {argument argument' : String} (h : kind.Lacks params argument)
    (h' : kind.Lacks params argument') : argument = argument' := by
  have hc := checkParams_eq_error_iff.2 ⟨argument, h, rfl⟩
  rw [checkParams_eq_error_iff.2 ⟨argument', h', rfl⟩] at hc
  cases hc
  rfl

theorem Sends.of_lacks {argument : String} (h : kind.Lacks params argument) :
    kind.Sends params (.error (.missingArgument kind.name argument)) where
  missing name other := by
    constructor
    · intro he
      cases he
      exact ⟨rfl, h⟩
    · rintro ⟨rfl, h'⟩
      rw [h.unique h']
  body := nofun
  compiles := iff_of_false nofun fun hcomplete => hcomplete.1 argument h

theorem Sends.of_body (hcomplete : ∀ argument, ¬ kind.Lacks params argument)
    (hranges : kind.RangesGiven params) (name : String) (children : List Aggregation) :
    kind.Sends params (.ok
      [⟨kind.name, name, params, children, kind.engineName, kind.sentBody params⟩]) where
  missing _ argument := iff_of_false nofun fun h => hcomplete argument h.2
  body := by
    rintro siblings ⟨⟩
    exact ⟨name, children, rfl⟩
  compiles := iff_of_true ⟨_, rfl⟩ ⟨hcomplete, hranges⟩

theorem Sends.of_ranges (hcomplete : ∀ argument, ¬ kind.Lacks params argument)
    (hranges : ¬ kind.RangesGiven params) (shape : Shape) :
    kind.Sends params (.error (.invalidArgument "range" "ranges" .objectOrList shape)) where
  missing _ argument := iff_of_false nofun fun h => hcomplete argument h.2
  body := nofun
  compiles := iff_of_false nofun fun h => hranges h.2

end

end AggregationKind

/-! ## One aggregation -/

namespace Aggregation

variable {registry : Registry} (kind : AggregationKind) {params : Bag}

theorem resultName_of_reservedOk {bag : Bag} (h : bag.ReservedOk registry) :
    ∃ name, resultName kind bag = .ok name := by
  unfold resultName
  cases hpresent : bag.present? nameKey with
  | none => exact ⟨_, rfl⟩
  | some value =>
    obtain ⟨name, rfl⟩ := h.name value hpresent
    exact ⟨name, rfl⟩

theorem subOf_of_reservedOk {bag : Bag} (h : bag.ReservedOk registry) : ∃ sub children,
    subOf kind bag = .ok sub ∧ (compile registry sub).result = .ok children := by
  unfold subOf
  cases hget : Dict.get? bag subKey with
  | none => exact ⟨.null, [], rfl, rfl⟩
  | some value =>
    cases hnull : value.isNull with
    | false =>
      cases h.sub value (Bag.present?_eq_some.2 ⟨hget, hnull⟩) with
      | map h => exact ⟨_, _, rfl, h⟩
      | list h => exact ⟨_, _, rfl, h⟩
      | empty => exact ⟨.null, [], rfl, rfl⟩
    | true =>
      cases value with
      | scalar s =>
        cases s <;> cases hnull
        exact ⟨.null, [], rfl, rfl⟩
      | _ => cases hnull

/-- The plan has all parameters that the value holds. -/
theorem plan_of_params? {value : Value} (hp : value.params? = some params)
    (h : value.ReservedOk registry) : ∃ name sub children,
      plan kind value = .ok ⟨name, params, sub⟩ ∧ (compile registry sub).result = .ok children := by
  cases value with
  | scalar s => cases s <;> cases hp <;> exact ⟨kind.name, .null, [], rfl, rfl⟩
  | array items => cases hp
  | list bags => cases hp
  | nested bag =>
    cases hp
    obtain ⟨name, hname⟩ := resultName_of_reservedOk kind h
    obtain ⟨sub, children, hsub, hchildren⟩ := subOf_of_reservedOk kind h
    exact ⟨name, sub, children, plan_nested hname hsub, hchildren⟩

variable {kind}

theorem sorted_of_params? {value : Value} (hv : value.Ordered) (hp : value.params? = some params) :
    Dict.Sorted params := by
  cases value with
  | scalar s =>
    cases s <;> cases hp
    · exact Dict.sorted_nil
    all_goals exact List.pairwise_singleton _ _
  | array items => cases hp
  | list bags => cases hp
  | nested bag =>
    cases hp
    exact Dict.sorted_without hv

/-- The result of an aggregation whose plan and sub-aggregations are fine. -/
theorem result_compile_of_plan (hl : registry.aggregations.lookup? kind.name = some kind)
    {value : Value} {name : String} {sub : Notation} {children : List Aggregation}
    (hp : plan kind value = .ok ⟨name, params, sub⟩)
    (hc : (compile registry sub).result = .ok children) :
    (compile registry (.map [(kind.name, value)])).result =
      (checkParams kind params >>= fun _ => (kind.construct registry.queries params).result.map
        fun body => [⟨kind.name, name, params, children, kind.engineName, body⟩]) := by
  rw [compile_single hl, ofValue_eq, hp, Logged.ofExcept_ok, pure_bind]
  dsimp only
  generalize compile registry sub = below at hc ⊢
  obtain ⟨events, result⟩ := below
  cases hc
  unfold build
  cases checkParams kind params with
  | error e => rfl
  | ok =>
    obtain ⟨events', result'⟩ := kind.construct registry.queries params
    cases result' <;> rfl

/-- **A kind in use without queries sends its parameters**, or fails for want of one. -/
theorem sends_of_lookup? (hk : kind ∈ AggregationKind.standard)
    (hname : kind.name ∉ ["filter", "filters", "adjacency_matrix"])
    (hl : registry.aggregations.lookup? kind.name = some kind) {value : Value}
    (hv : value.Ordered) (hp : value.params? = some params) (hr : value.ReservedOk registry) :
    kind.Sends params (compile registry (.map [(kind.name, value)])).result := by
  obtain ⟨name, sub, children, hplan, hchildren⟩ := plan_of_params? kind hp hr
  rw [result_compile_of_plan hl hplan hchildren]
  cases hc : checkParams kind params with
  | error e =>
    obtain ⟨argument, hlacks, rfl⟩ := AggregationKind.checkParams_eq_error_iff.1 hc
    exact .of_lacks hlacks
  | ok =>
    have hcomplete := AggregationKind.checkParams_eq_ok_iff.1 hc
    obtain ⟨hranges, hb⟩ | ⟨hranges, shape, hb⟩ := AggregationKind.construct_sends
      registry.queries (AggregationKind.constructed_standard kind hk) hname
      (sorted_of_params? hv hp) hcomplete
    · rw [hb]
      exact .of_body hcomplete hranges name children
    · rw [hb]
      exact .of_ranges hcomplete hranges shape

/-- **Parameters reach the engine as they are**: for every standard kind without queries, a value
lacks a parameter or its parameters are the body. -/
theorem compile_sends (hk : kind ∈ AggregationKind.standard)
    (hname : kind.name ∉ ["filter", "filters", "adjacency_matrix"]) :
    (∀ (value : Value) (params : Bag), value.Ordered → value.params? = some params →
      value.ReservedOk Registry.standard →
      kind.Sends params (compile Registry.standard (.map [(kind.name, value)])).result) ∧
    ∀ value : Value, value.params? = none →
      (compile Registry.standard (.map [(kind.name, value)])).result =
        .error (.invalidArgument kind.name "parameters" .fieldOrObject value.shape) := by
  have hl := Registry.aggregations_lookup?_standard hk
  constructor
  · intro value params hv hp hr
    exact sends_of_lookup? hk hname hl hv hp hr
  · intro value hp
    rw [compile_single hl, Logged.result_map_eq_error]
    cases value with
    | scalar s => cases s <;> cases hp
    | array items => rfl
    | list bags => rfl
    | nested bag => cases hp

/-- A date range with a name of its own, a null and averages below sends its one range in a list. A
field alone lacks the ranges, and a list holds no parameters. -/
theorem compile_sends_date_range :
    let kind : AggregationKind :=
      .sameName "date_range" ["field", "ranges"] [] AggregationKind.buildRanges
    let params : Bag := [("field", .ofString "born"), ("keyed", .scalar .null),
      ("ranges", .nested [("to", .ofString "1990")])]
    let value : Value := .nested (("aggregation_key", .ofString "years") :: params ++
      [("sub", .nested [("avg", .ofString "price")])])
    let body : Json := .object [("field", .string "born"), ("keyed", .null),
      ("ranges", .array [.object [("to", .string "1990")]])]
    (kind ∈ AggregationKind.standard ∧
      kind.name ∉ ["filter", "filters", "adjacency_matrix"]) ∧
    (value.Ordered ∧ value.params? = some params ∧ value.ReservedOk Registry.standard) ∧
    (∃ name children, (compile Registry.standard (.map [("date_range", value)])).result =
      .ok [⟨"date_range", name, params, children, "date_range", body⟩]) ∧
    (compile Registry.standard (.map [("date_range", .ofString "born")])).result =
      .error (.missingArgument "date_range" "ranges") ∧
    (compile Registry.standard (.map [("date_range", .list [])])).result =
      .error (.invalidArgument "date_range" "parameters" .fieldOrObject .list) := by
  intro kind params value body
  have hk : kind ∈ AggregationKind.standard := by simp [kind, AggregationKind.standard]
  have hname : kind.name ∉ ["filter", "filters", "adjacency_matrix"] := by decide
  have hv : value.Ordered := by
    change Dict.Sorted _
    decide
  have havg : (compile Registry.standard (.map [("avg", .ofString "price")])).result =
      .ok [⟨"avg", "avg", [("field", .ofString "price")], [], "avg",
        .object [("field", .string "price")]⟩] := by
    have hmetric : AggregationKind.metric "avg" ∈ AggregationKind.standard := by
      simp [AggregationKind.standard]
    have hl := Registry.aggregations_lookup?_standard hmetric
    change Registry.standard.aggregations.lookup? "avg" = _ at hl
    rw [compile_single hl]
    rfl
  have hp : value.params? = some params := rfl
  have hr : value.ReservedOk Registry.standard := by
    constructor
    · rintro _ ⟨⟩
      exact ⟨_, rfl⟩
    · rintro _ ⟨⟩
      exact .map havg
  obtain ⟨hsends, hother⟩ := compile_sends hk hname
  have hvalue := hsends value params hv hp hr
  have hfield := hsends (.ofString "born") [("field", .ofString "born")] trivial rfl trivial
  refine ⟨⟨hk, hname⟩, ⟨hv, hp, hr⟩, ?_, ?_, ?_⟩
  · have hcomplete : ∀ argument, ¬ kind.Lacks params argument :=
      AggregationKind.checkParams_eq_ok_iff.1 rfl
    obtain ⟨siblings, hok⟩ := hvalue.compiles.2 ⟨hcomplete, fun _ => ⟨_, rfl, .head _⟩⟩
    obtain ⟨name, children, rfl⟩ := hvalue.body siblings hok
    exact ⟨name, children, hok⟩
  · have hsplit : kind.required = ["field"] ++ "ranges" :: [] := rfl
    exact (hfield.missing _ _).2 ⟨rfl, .required hsplit (List.forall_mem_singleton.2 rfl) rfl⟩
  · exact hother (.list []) rfl

end Aggregation

end SearchNotation
