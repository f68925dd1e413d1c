import SearchNotation.Proofs.Aggregation.Levels
import SearchNotation.Proofs.Registry.Lookup

/-!
# Disabled aggregation kinds

An entry whose key names no kind in use leaves nothing behind: no aggregation, no name and no error.
`Notation.erasing` takes such entries out of a notation, at the top and, under `subKey`, at every
level below an entry that stays; all other parameters are left alone, whatever their keys are.

To compile with some of the standard kinds disabled is to compile what is left of the notation with
all of them (`Aggregation.compile_standardWithout`). The induction goes over the levels: the plan of
an entry that stays is its plan with less below it (`plan_eraseValue`).
-/

set_option autoImplicit false

namespace SearchNotation

namespace Aggregation

/-! ## Erasing -/

section
variable (unused : String → Bool)

mutual

/-- The entries of a level that stay. -/
def eraseEntries : List (String × Value) → List (String × Value)
  | [] => []
  | (key, value) :: rest =>
    if unused key then eraseEntries rest else (key, eraseValue value) :: eraseEntries rest
  termination_by structural bag => bag

/-- The value of an entry that stays; a map has less under `subKey`. -/
def eraseValue : Value → Value
  | .nested bag => .nested (eraseParams bag)
  | .scalar s => .scalar s
  | .array items => .array items
  | .list bags => .list bags
  termination_by structural value => value

/-- The parameters of an entry that stays. -/
def eraseParams : List (String × Value) → List (String × Value)
  | [] => []
  | (key, value) :: rest =>
    (key, if key = subKey then eraseSub value else value) :: eraseParams rest
  termination_by structural bag => bag

/-- The value under `subKey`. -/
def eraseSub : Value → Value
  | .nested bag => .nested (eraseEntries bag)
  | .list bags => .list (eraseBags bags)
  | .scalar s => .scalar s
  | .array items => .array items
  termination_by structural value => value

/-- The bags of a level. -/
def eraseBags : List (List (String × Value)) → List (List (String × Value))
  | [] => []
  | bag :: rest => eraseEntries bag :: eraseBags rest
  termination_by structural bags => bags

end

end

end Aggregation

open Aggregation

/-- The notation without the entries of unused keys, at every level of aggregations. -/
def Notation.erasing (unused : String → Bool) : Notation → Notation
  | .null => .null
  | .map bag => .map (eraseEntries unused bag)
  | .list bags => .list (eraseBags unused bags)

namespace Aggregation

section
variable {unused : String → Bool}

theorem eraseEntries_append (xs ys : Bag) :
    eraseEntries unused (xs ++ ys) = eraseEntries unused xs ++ eraseEntries unused ys := by
  induction xs with
  | nil => rfl
  | cons e xs ih =>
    rw [List.cons_append, eraseEntries, eraseEntries, ih]
    split <;> rfl

theorem flatten_eraseBags (bags : List Bag) :
    (eraseBags unused bags).flatten = eraseEntries unused bags.flatten := by
  induction bags with
  | nil => rfl
  | cons bag rest ih =>
    rw [eraseBags, List.flatten_cons, List.flatten_cons, eraseEntries_append, ih]

theorem entries_erasing (n : Notation) :
    (n.erasing unused).entries = eraseEntries unused n.entries := by
  cases n with
  | null => rfl
  | map bag =>
    change [eraseEntries unused bag].flatten = eraseEntries unused [bag].flatten
    rw [List.flatten_singleton, List.flatten_singleton]
  | list bags => exact flatten_eraseBags bags

/-! ## Plans of what stays -/

theorem get?_eraseParams (bag : Bag) (name : String) : Dict.get? (eraseParams unused bag) name =
    (Dict.get? bag name).map
      fun value => if name = subKey then eraseSub unused value else value := by
  induction bag with
  | nil => rfl
  | cons e rest ih =>
    obtain ⟨key, value⟩ := e
    rw [eraseParams, Dict.get?_cons, Dict.get?_cons, ih]
    split
    · next hk => rw [hk, Option.map_some]
    · rfl

theorem without_eraseParams (bag : Bag) :
    Dict.without (eraseParams unused bag) [subKey, nameKey] =
      Dict.without bag [subKey, nameKey] := by
  induction bag with
  | nil => rfl
  | cons e rest ih =>
    obtain ⟨key, value⟩ := e
    rw [eraseParams]
    by_cases hk : key ∈ [subKey, nameKey]
    · rw [Dict.without_cons_of_mem hk, Dict.without_cons_of_mem hk, ih]
    · have hne : key ≠ subKey := fun h => hk (h ▸ .head _)
      rw [Dict.without_cons_of_not_mem hk, Dict.without_cons_of_not_mem hk, ih, if_neg hne]

variable {kind : AggregationKind}

theorem resultName_eraseParams (bag : Bag) :
    resultName kind (eraseParams unused bag) = resultName kind bag := by
  have hne : nameKey ≠ subKey := by decide
  have hget : Dict.get? (eraseParams unused bag) nameKey = Dict.get? bag nameKey := by
    simp [get?_eraseParams, hne]
  rw [resultName, resultName, Bag.present?, Bag.present?, hget]

theorem subNotation_eraseSub (value : Value) : subNotation kind (eraseSub unused value) =
    (subNotation kind value).map (Notation.erasing unused) := by
  cases value with
  | scalar s => cases s <;> rfl
  | array items => cases items <;> rfl
  | nested bag => rfl
  | list bags => rfl

theorem subOf_eraseParams (bag : Bag) :
    subOf kind (eraseParams unused bag) = (subOf kind bag).map (Notation.erasing unused) := by
  rw [subOf, subOf, get?_eraseParams]
  cases Dict.get? bag subKey with
  | none => rfl
  | some value => exact subNotation_eraseSub value

/-- The plan with less below it. -/
def Plan.erasing (unused : String → Bool) (p : Plan) : Plan :=
  { p with sub := p.sub.erasing unused }

/-- **The plan of what stays** of a value is its plan with less below it. -/
theorem plan_eraseValue (value : Value) :
    plan kind (eraseValue unused value) = (plan kind value).map (Plan.erasing unused) := by
  cases value with
  | scalar s => cases s <;> rfl
  | array items => rfl
  | list bags => rfl
  | nested bag =>
    rw [eraseValue, plan, plan, resultName_eraseParams, subOf_eraseParams, without_eraseParams]
    cases resultName kind bag with
    | error e => rfl
    | ok name => cases subOf kind bag <;> rfl

end

/-! ## Compiling what stays -/

section
variable {unused : String → Bool} {reduced full : Registry}
  (hqueries : reduced.queries = full.queries)
  (hkinds : ∀ key, reduced.aggregations.lookup? key =
    if unused key then none else full.aggregations.lookup? key)

include hkinds in
/-- Entries compile as those that stay if their values do. -/
theorem result_ofEntries_erase {entries : Bag}
    (h : ∀ e ∈ entries, ∀ kind, (ofValue reduced kind e.2).result =
      (ofValue full kind (eraseValue unused e.2)).result) :
    (ofEntries reduced entries).result = (ofEntries full (eraseEntries unused entries)).result := by
  induction entries with
  | nil => rfl
  | cons e rest ih =>
    obtain ⟨key, value⟩ := e
    obtain ⟨hvalue, hrest⟩ := List.forall_mem_cons.1 h
    have hkey := hkinds key
    rw [eraseEntries]
    split
    · next hu =>
      rw [if_pos hu] at hkey
      rw [ofEntries_unknown hkey, ← ih hrest]
      rfl
    · next hu =>
      rw [if_neg hu] at hkey
      -- An entry that stays may name no kind; both sides then pass over it.
      cases hk : full.aggregations.lookup? key with
      | none =>
        rw [ofEntries_unknown (hkey.trans hk), ofEntries_unknown hk]
        exact Logged.result_bind_congr rfl fun _ => ih hrest
      | some kind =>
        rw [ofEntries_known (hkey.trans hk), ofEntries_known hk]
        exact Logged.result_bind_congr (hvalue kind) fun _ =>
          Logged.result_bind_congr (ih hrest) fun _ => rfl

include hqueries in
/-- A value compiles as what stays of it if what its plan asks for does. -/
theorem result_ofValue_erase {kind : AggregationKind} {value : Value}
    (h : ∀ p, plan kind value = .ok p →
      (compile reduced p.sub).result = (compile full (p.sub.erasing unused)).result) :
    (ofValue reduced kind value).result = (ofValue full kind (eraseValue unused value)).result := by
  rw [ofValue_eq, ofValue_eq, plan_eraseValue]
  cases hp : plan kind value with
  | error e => rfl
  | ok p =>
    rw [Except.map, Logged.ofExcept_ok, Logged.ofExcept_ok, pure_bind, pure_bind]
    refine Logged.result_bind_congr (h p hp) fun children => ?_
    simp only [build, hqueries, Plan.erasing]

include hqueries hkinds in
/-- **Fewer kinds compile a notation as more kinds compile what stays of it.** -/
theorem result_compile_erasing (n : Notation) :
    (compile reduced n).result = (compile full (n.erasing unused)).result := by
  induction n using levelInduction with
  | step n ih =>
  rw [compile_eq, compile_eq, entries_erasing]
  refine Logged.result_bind_congr (result_ofEntries_erase hkinds fun e he kind => ?_) fun _ => rfl
  exact result_ofValue_erase hqueries (ih e he kind)

end

/-- The key is that of a disabled kind, or of no standard kind. -/
def unusedKey (disabled : List String) (key : String) : Bool :=
  disabled.contains key || (AggregationKind.standard? key).isNone

/-- **Disabling kinds is erasing their entries**: the aggregations are those, or the error is that,
of what stays of the notation when the entries of disabled and of unknown kinds are erased. Query
kinds are disabled alike on both sides; with none of them disabled, the right side is compiled by
`Registry.standard`. -/
theorem compile_standardWithout (disabledQueries disabledAggregations : List String)
    (n : Notation) :
    (compile (Registry.standardWithout disabledQueries disabledAggregations).1 n).result =
      (compile (Registry.standardWithout disabledQueries []).1
        (n.erasing (unusedKey disabledAggregations))).result := by
  have hqueries : (Registry.standardWithout disabledQueries disabledAggregations).1.queries =
      (Registry.standardWithout disabledQueries []).1.queries := by
    rw [Registry.queries_standardWithout, Registry.queries_standardWithout]
  refine result_compile_erasing hqueries (fun key => ?_) n
  rw [Registry.aggregations_lookup?_standardWithout, Registry.aggregations_lookup?_standardWithout,
    if_neg List.not_mem_nil, unusedKey]
  by_cases hd : key ∈ disabledAggregations
  · simp [hd]
  · cases AggregationKind.standard? key <;> simp [hd]

/-- A query keeps its field `avg`; the aggregations `avg` go, at the top and below the filter. -/
example : Notation.erasing (unusedKey ["avg"]) (.map [("avg", .ofString "price"),
      ("filter", .nested [("avg", .ofString "x"),
        ("sub", .list [[("avg", .ofString "price"), ("max", .ofString "price")]])])]) =
    .map [("filter", .nested [("avg", .ofString "x"),
      ("sub", .list [[("max", .ofString "price")]])])] := rfl

end Aggregation

end SearchNotation
