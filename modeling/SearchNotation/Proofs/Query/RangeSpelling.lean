import SearchNotation.Proofs.Dict
import SearchNotation.Proofs.Query.Construction
import SearchNotation.Proofs.Query.Resolve
import SearchNotation.Proofs.Registry.Lookup

/-!
# The two spellings of a range

A range on a field is written as a bag under the name of the field, or as that entry under `range`.
Both spellings put the name of the field into the bag and go on as a range with that bag
(`resolve_field`, `resolve_range`), but where the bag has an entry `field` of its own the first
spelling keeps that entry and the second replaces it. `spellings_agree_iff` says when they agree:
without such an entry, if it is the name of the field, or if both fail alike for another reason.
-/

set_option autoImplicit false

namespace SearchNotation

/-! ## The leaf of a range -/

namespace QueryKind

/-- The standard kind of ranges. -/
def ranged : QueryKind := ⟨"range", [], .ternary, "field", false, buildRange⟩

/-- The range of a bag that has a field. -/
def rangeLeaf (bag : Bag) : Except CompileError Leaf := do
  ranged.require bag "field"
  if boundKeys.any bag.hasPresent then
    let predicate ← buildRange bag
    return ⟨"range", bag.presentText? "field", bag, predicate⟩
  else throw (.missingRangeBound ((bag.presentText? "field").getD ""))

theorem ranged_leaf_nested (bag : Bag) :
    ranged.leaf (.nested bag) = rangeLeaf ((expandKeyed? bag).getD bag) := by
  generalize hown : (expandKeyed? bag).getD bag = own
  simp only [leaf, params, ranged, ternaryParams, hown, rangeLeaf, bind_assoc]
  refine congrArg _ (funext fun _ => ?_)
  split <;> rfl

/-- A bag that has something under `field` is not keyed by its field. -/
theorem expandKeyed?_of_field {bag : Bag} {value : Value} (h : Dict.get? bag "field" = some value) :
    expandKeyed? bag = none := by
  unfold expandKeyed?
  split
  · next name inner =>
    rw [Dict.get?_cons] at h
    split at h
    · next hname => exact if_pos (.inl hname)
    · cases h
  · rfl

/-! ### Bounds -/

theorem firstBound_congr {xs ys : Bag} {keys : List BoundKey}
    (h : ∀ k ∈ keys, xs.present? k.key = ys.present? k.key) :
    firstBound xs keys = firstBound ys keys := by
  induction keys with
  | nil => rfl
  | cons k rest ih =>
    obtain ⟨hk, hrest⟩ := List.forall_mem_cons.1 h
    unfold firstBound
    rw [hk, ih hrest]

theorem boundKey_ne_field : ∀ k ∈ upperBoundKeys ++ lowerBoundKeys, k.key ≠ "field" := by decide

/-- The lower and the upper bound of a range. -/
def bounds (bag : Bag) : Except CompileError (Option Bound × Option Bound) := do
  let upper ← firstBound bag upperBoundKeys
  let lower ← firstBound bag lowerBoundKeys
  return (lower, upper)

/-- No bound is at fault for a field. -/
theorem bounds_eq_error {bag : Bag} {e : CompileError} (h : bounds bag = .error e) :
    ∃ key shape, key ≠ "field" ∧ e = .invalidArgument "range" key .scalar shape := by
  unfold bounds at h
  cases hu : firstBound bag upperBoundKeys with
  | error e' =>
    rw [hu] at h
    cases h
    obtain ⟨k, hk, value, -, he⟩ := firstBound_eq_error hu
    exact ⟨k.key, value.shape, boundKey_ne_field k (List.mem_append_left _ hk), he⟩
  | ok upper =>
    rw [hu] at h
    cases hl : firstBound bag lowerBoundKeys with
    | error e' =>
      rw [hl] at h
      cases h
      obtain ⟨k, hk, value, -, he⟩ := firstBound_eq_error hl
      exact ⟨k.key, value.shape, boundKey_ne_field k (List.mem_append_right _ hk), he⟩
    | ok lower =>
      rw [hl] at h
      cases h

/-! ### How a range fails -/

theorem rangeLeaf_missing {bag : Bag} (hf : bag.hasPresent "field" = false) :
    rangeLeaf bag = .error (.missingArgument "range" "field") := by
  rw [rangeLeaf, require, hf]
  rfl

theorem rangeLeaf_unbounded {bag : Bag} (hf : bag.hasPresent "field" = true)
    (hb : boundKeys.any bag.hasPresent = false) :
    rangeLeaf bag = .error (.missingRangeBound ((bag.presentText? "field").getD "")) := by
  rw [rangeLeaf, require_eq_ok.2 hf, hb]
  rfl

/-- A range with a bound fails only if its field or a bound is no scalar. -/
theorem rangeLeaf_bounded {bag : Bag} (hf : bag.hasPresent "field" = true)
    (hb : boundKeys.any bag.hasPresent = true) : rangeLeaf bag = do
      let field ← textArgument "range" bag "field"
      let ends ← bounds bag
      return ⟨"range", bag.presentText? "field", bag,
        .range field ends.1 ends.2 (options bag ("field" :: boundKeys))⟩ := by
  rw [rangeLeaf, require_eq_ok.2 hf, hb, buildRange, bounds]
  cases textArgument "range" bag "field" with
  | error e => rfl
  | ok field =>
    cases hu : firstBound bag upperBoundKeys with
    | error e => rfl
    | ok upper =>
      cases hl : firstBound bag lowerBoundKeys with
      | error e => rfl
      | ok lower =>
        cases upper with
        | some b => cases lower <;> rfl
        | none =>
          cases lower with
          | some b => rfl
          | none =>
            -- then no key of a bound is present, against `hb`
            obtain ⟨key, hkey, hp⟩ := List.any_eq_true.1 hb
            obtain ⟨k, hk, rfl⟩ := List.mem_map.1 hkey
            rcases List.mem_append.1 hk with hk | hk
            · rw [firstBound_eq_none hu k hk] at hp; cases hp
            · rw [firstBound_eq_none hl k hk] at hp; cases hp

end QueryKind

/-! ## Both spellings -/

/-- The bag of a range keyed by its field, where the bag's own field goes first. -/
def fieldBag (key : String) (bag : Bag) : Bag :=
  Dict.insertAll (Dict.ofList [("field", .ofString key)]) bag

theorem get?_fieldBag {key : String} {bag : Bag} (hs : Dict.Sorted bag) :
    Dict.get? (fieldBag key bag) "field" =
      some ((Dict.get? bag "field").getD (.ofString key)) := by
  rw [fieldBag, Dict.get?_insertAll _ hs]
  cases Dict.get? bag "field" <;> rfl

section
variable {table : QueryTable} (hrange : table.lookup? "range" = some QueryKind.ranged)
include hrange

theorem resolve_field {key : String} (hkey : table.lookup? key = none) {bag : Bag}
    (hs : Dict.Sorted bag) : resolve table key (.nested bag) =
      Logged.ofExcept ((QueryKind.rangeLeaf (fieldBag key bag)).map some) := by
  have himplied : Implied.ofValue? key (.nested bag) = some ⟨"range", fieldBag key bag⟩ := rfl
  simp only [resolve, hkey, himplied, hrange, QueryKind.ranged_leaf_nested]
  rw [QueryKind.expandKeyed?_of_field (get?_fieldBag hs), Option.getD_none]

theorem resolve_range {key : String} (hf : key ≠ "field") (hb : key ∉ boundKeys) {bag : Bag}
    (hs : Dict.Sorted bag) : resolve table "range" (.nested [(key, .nested bag)]) =
      Logged.ofExcept
        ((QueryKind.rangeLeaf (Dict.insert bag "field" (.ofString key))).map some) := by
  have hexpand : QueryKind.expandKeyed? [(key, .nested bag)] =
      some (Dict.insert bag "field" (.ofString key)) := by
    rw [QueryKind.expandKeyed?, if_neg (by simp [hf, hb]), Dict.ofList_of_sorted hs]
  rw [resolve_of_lookup? hrange, QueryKind.ranged_leaf_nested, hexpand, Option.getD_some]

end

/-! ## Where they differ -/

/-- The entries agree: the same leaf, on the field of the key, or the same error. -/
def SpellingsAgree (table : QueryTable) (key : String) (bag : Bag) : Prop :=
  ∃ outcome : Except CompileError Leaf,
    resolve table key (.nested bag) = Logged.ofExcept (outcome.map some) ∧
    resolve table "range" (.nested [(key, .nested bag)]) = Logged.ofExcept (outcome.map some) ∧
    ∀ leaf, outcome = .ok leaf → leaf.field = some key

/-- The bag has a field of its own, and a range on it fails as one on the key does: without any
bound the two have the same text, and with one the own field is good and the bounds are at fault. -/
def FailsAlike (key : String) (bag : Bag) : Prop :=
  bag.hasPresent "field" = true ∧
    if boundKeys.any bag.hasPresent then
      (bag.presentText? "field").isSome = true ∧ ∃ e, QueryKind.bounds bag = .error e
    else (bag.presentText? "field").getD "" = key

/-- Equal results come from equal ranges. -/
theorem ofExcept_map_some_inj {x y : Except CompileError Leaf}
    (h : Logged.ofExcept (x.map some) = Logged.ofExcept (y.map some)) : x = y := by
  have h : x.map some = y.map some := congrArg Logged.result h
  cases x <;> cases y <;> cases h <;> rfl

theorem fieldBag_of_own {key : String} {bag : Bag} (hs : Dict.Sorted bag) {own : Value}
    (h : Dict.get? bag "field" = some own) : fieldBag key bag = bag := by
  refine Dict.eq_of_get? (Dict.sorted_insertAll (Dict.sorted_ofList _) bag) hs fun name => ?_
  rw [fieldBag, Dict.get?_insertAll _ hs]
  cases hn : Dict.get? bag name with
  | some value => rfl
  | none =>
    have hne : "field" ≠ name := by
      rintro rfl
      rw [h] at hn
      cases hn
    exact if_neg hne

theorem fieldBag_of_none {key : String} {bag : Bag} (hs : Dict.Sorted bag)
    (h : Dict.get? bag "field" = none) :
    fieldBag key bag = Dict.insert bag "field" (.ofString key) := by
  refine Dict.eq_of_get? (Dict.sorted_insertAll (Dict.sorted_ofList _) bag)
    (Dict.sorted_insert hs _ _) fun name => ?_
  rw [fieldBag, Dict.get?_insertAll _ hs, Dict.get?_insert]
  by_cases hname : "field" = name
  · subst hname
    rw [h]
    rfl
  · rw [if_neg hname]
    cases hn : Dict.get? bag name with
    | some value => rfl
    | none => exact if_neg hname

theorem insert_own_field {key : String} {bag : Bag} (hs : Dict.Sorted bag)
    (h : Dict.get? bag "field" = some (.ofString key)) :
    Dict.insert bag "field" (.ofString key) = bag := by
  refine Dict.eq_of_get? (Dict.sorted_insert hs _ _) hs fun name => ?_
  rw [Dict.get?_insert]
  split
  · next hname => rw [← hname, h]
  · rfl

section
variable (key : String) (bag : Bag)

theorem present?_insert_field {name : String} (hne : name ≠ "field") :
    Bag.present? (Dict.insert bag "field" (.ofString key)) name = Bag.present? bag name := by
  rw [Bag.present?, Dict.get?_insert_of_ne _ _ hne.symm, Bag.present?]

theorem present?_insert_field_self :
    Bag.present? (Dict.insert bag "field" (.ofString key)) "field" = some (.ofString key) := by
  rw [Bag.present?, Dict.get?_insert_self]
  rfl

theorem any_hasPresent_insert_field :
    boundKeys.any (Bag.hasPresent (Dict.insert bag "field" (.ofString key))) =
      boundKeys.any bag.hasPresent := by
  rw [Bool.eq_iff_iff, List.any_eq_true, List.any_eq_true]
  refine exists_congr fun name => and_congr_right fun hn => ?_
  obtain ⟨k, hk, rfl⟩ := List.mem_map.1 hn
  rw [Bag.hasPresent, present?_insert_field key bag (QueryKind.boundKey_ne_field k hk),
    Bag.hasPresent]

theorem bounds_insert_field :
    QueryKind.bounds (Dict.insert bag "field" (.ofString key)) = QueryKind.bounds bag := by
  have hsame : ∀ k ∈ upperBoundKeys ++ lowerBoundKeys,
      Bag.present? (Dict.insert bag "field" (.ofString key)) k.key = bag.present? k.key :=
    fun k hk => present?_insert_field key bag (QueryKind.boundKey_ne_field k hk)
  rw [QueryKind.bounds, QueryKind.bounds,
    QueryKind.firstBound_congr fun k hk => hsame k (List.mem_append_left _ hk),
    QueryKind.firstBound_congr fun k hk => hsame k (List.mem_append_right _ hk)]

/-- A range with the field of the key fails only for its bounds. -/
theorem rangeLeaf_insert_field :
    QueryKind.rangeLeaf (Dict.insert bag "field" (.ofString key)) =
      if boundKeys.any bag.hasPresent then (QueryKind.bounds bag).map fun ends =>
        ⟨"range", some key, Dict.insert bag "field" (.ofString key), .range key ends.1 ends.2
          (QueryKind.options (Dict.insert bag "field" (.ofString key)) ("field" :: boundKeys))⟩
      else .error (.missingRangeBound key) := by
  have hfield := present?_insert_field_self key bag
  have hany := any_hasPresent_insert_field key bag
  have hbounds := bounds_insert_field key bag
  generalize Dict.insert bag "field" (Value.ofString key) = own at hfield hany hbounds ⊢
  have hp : Bag.hasPresent own "field" = true := by rw [Bag.hasPresent, hfield]; rfl
  have htext : Bag.presentText? own "field" = some key := by rw [Bag.presentText?, hfield]; rfl
  have harg : QueryKind.textArgument "range" own "field" = .ok key := by
    rw [QueryKind.textArgument, hfield]
    rfl
  cases hb : boundKeys.any bag.hasPresent with
  | false =>
    rw [QueryKind.rangeLeaf_unbounded hp (hany.trans hb), htext]
    rfl
  | true =>
    rw [QueryKind.rangeLeaf_bounded hp (hany.trans hb), harg, htext, hbounds]
    rfl

/-- Its field is not at fault. -/
theorem rangeLeaf_insert_field_eq_error {e : CompileError}
    (h : QueryKind.rangeLeaf (Dict.insert bag "field" (.ofString key)) = .error e) :
    e = .missingRangeBound key ∨
      ∃ name shape, name ≠ "field" ∧ e = .invalidArgument "range" name .scalar shape := by
  rw [rangeLeaf_insert_field] at h
  split at h
  · cases hb : QueryKind.bounds bag with
    | ok ends => rw [hb] at h; cases h
    | error e' =>
      rw [hb] at h
      cases h
      exact .inr (QueryKind.bounds_eq_error hb)
  · cases h
    exact .inl rfl

end

section
variable {key : String} {bag : Bag} {own : Value} (hown : Dict.get? bag "field" = some own)
  (hne : own ≠ .ofString key)
include hown hne

/-- With a bound, both ranges fail alike if the bag's own field is good and a bound is not. -/
theorem rangeLeaf_eq_insert_field_iff_of_bound (hnull : own.isNull = false)
    (hany : boundKeys.any bag.hasPresent = true) :
    QueryKind.rangeLeaf bag = QueryKind.rangeLeaf (Dict.insert bag "field" (.ofString key)) ↔
      own.scalar?.isSome = true ∧ ∃ e, QueryKind.bounds bag = .error e := by
  have hpresent : bag.present? "field" = some own := by simp [Bag.present?, hown, hnull]
  have hf : bag.hasPresent "field" = true := by rw [Bag.hasPresent, hpresent]; rfl
  rw [QueryKind.rangeLeaf_bounded hf hany, QueryKind.textArgument, hpresent]
  cases own with
  | scalar s =>
    rw [rangeLeaf_insert_field, hany]
    cases hb : QueryKind.bounds bag with
    | error e => exact iff_of_true rfl ⟨rfl, e, rfl⟩
    | ok ends =>
      -- the leaves hold their bags, and these differ in the field
      refine iff_of_false (fun h => ?_) (by simp)
      have hbag : bag = Dict.insert bag "field" (.ofString key) :=
        congrArg Leaf.params (Except.ok.inj h)
      rw [hbag, Dict.get?_insert_self] at hown
      exact hne (Option.some.inj hown).symm
  | _ =>
    refine iff_of_false (fun h => ?_) (by simp [Value.scalar?])
    rcases rangeLeaf_insert_field_eq_error key bag h.symm with he | ⟨name, shape, hname, he⟩
    · cases he
    · cases he
      exact hname rfl

/-- A bag with a field of its own, which is not the key. -/
theorem rangeLeaf_eq_insert_field_iff :
    QueryKind.rangeLeaf bag = QueryKind.rangeLeaf (Dict.insert bag "field" (.ofString key)) ↔
      FailsAlike key bag := by
  unfold FailsAlike
  cases hf : bag.hasPresent "field" with
  | false =>
    refine iff_of_false (fun h => ?_) (by simp)
    rw [QueryKind.rangeLeaf_missing hf] at h
    rcases rangeLeaf_insert_field_eq_error key bag h.symm with he | ⟨name, shape, -, he⟩
    · cases he
    · cases he
  | true =>
    have hnull : own.isNull = false := by simpa [Bag.hasPresent, Bag.present?, hown] using hf
    cases hany : boundKeys.any bag.hasPresent with
    | false =>
      rw [QueryKind.rangeLeaf_unbounded hf hany, rangeLeaf_insert_field, hany]
      simp
    | true =>
      have hpresent : bag.present? "field" = some own := by simp [Bag.present?, hown, hnull]
      have htext : (bag.presentText? "field").isSome = own.scalar?.isSome := by
        rw [Bag.presentText?, hpresent, Option.isSome_map]
        rfl
      rw [rangeLeaf_eq_insert_field_iff_of_bound hown hne hnull hany, htext]
      simp

end

/-! ## Standard kinds -/

theorem lookup?_range {disabledQueries : List String} (disabledAggregations : List String)
    (h : "range" ∉ disabledQueries) :
    (Registry.standardWithout disabledQueries disabledAggregations).1.queries.lookup? "range" =
      some QueryKind.ranged := by
  refine (Registry.lookup?_standardWithout _ _).2 ⟨?_, by decide⟩
  refine (Registry.mem_enabledStandard _).2 ⟨by simp [QueryKind.standard, QueryKind.ranged], ?_⟩
  intro name hn
  have hne : "range" ≠ name := fun he => h (he ▸ hn)
  simp [RegistryBuilder.claims, QueryKind.ranged, hne]

/-- **The spellings of a range agree unless the bag has a field of its own**: another field than
the key makes a difference, except where both ranges fail for another reason. -/
theorem spellings_agree_iff {disabledQueries : List String} (disabledAggregations : List String)
    (hrange : "range" ∉ disabledQueries) {key : String}
    (hkey : (Registry.standardWithout disabledQueries disabledAggregations).1.queries.lookup? key =
      none)
    (hf : key ≠ "field") (hb : key ∉ boundKeys) {bag : Bag} (hs : Dict.Sorted bag) :
    SpellingsAgree (Registry.standardWithout disabledQueries disabledAggregations).1.queries key
        bag ↔
      Dict.get? bag "field" = none ∨ Dict.get? bag "field" = some (.ofString key) ∨
        FailsAlike key bag := by
  have hlookup := lookup?_range disabledAggregations hrange
  have hiff : SpellingsAgree (Registry.standardWithout disabledQueries
      disabledAggregations).1.queries key bag ↔ QueryKind.rangeLeaf (fieldBag key bag) =
        QueryKind.rangeLeaf (Dict.insert bag "field" (.ofString key)) := by
    unfold SpellingsAgree
    rw [resolve_field hlookup hkey hs, resolve_range hlookup hf hb hs]
    constructor
    · rintro ⟨outcome, h1, h2, -⟩
      exact (ofExcept_map_some_inj h1).trans (ofExcept_map_some_inj h2).symm
    · intro h
      refine ⟨_, by rw [h], rfl, fun leaf hl => ?_⟩
      rw [rangeLeaf_insert_field] at hl
      split at hl
      · obtain ⟨ends, -, rfl⟩ := Except.map_eq_ok.1 hl
        rfl
      · cases hl
  rw [hiff]
  cases hown : Dict.get? bag "field" with
  | none => simp [fieldBag_of_none hs hown]
  | some own =>
    rw [fieldBag_of_own hs hown]
    by_cases hne : own = .ofString key
    · subst hne
      rw [insert_own_field hs hown]
      simp
    · rw [rangeLeaf_eq_insert_field_iff hown hne]
      simp [hne]

/-- A field of its own that reads like the key, and no bound. -/
theorem spellings_agree_on_text :
    let table := (Registry.standardWithout ["term"] []).1.queries
    let bag : Bag := [("field", .scalar (.number (.int 5))), ("format", .ofString "x")]
    "range" ∉ ["term"] ∧ table.lookup? "5" = none ∧ "5" ≠ "field" ∧ "5" ∉ boundKeys ∧
      Dict.Sorted bag ∧ SpellingsAgree table "5" bag := by
  intro table bag
  have hrange : "range" ∉ ["term"] := by decide
  have hkey : table.lookup? "5" = none :=
    Registry.lookup?_standardWithout_eq_none _ _ (by decide)
  have hf : "5" ≠ "field" := by decide
  have hb : "5" ∉ boundKeys := by decide
  have hs : Dict.Sorted bag := by decide
  refine ⟨hrange, hkey, hf, hb, hs, (spellings_agree_iff [] hrange hkey hf hb hs).2 ?_⟩
  exact .inr (.inr ⟨rfl, rfl⟩)

/-- The range goes to the field of its own, not to the key that it stands under. -/
theorem spellings_differ_on_own_field :
    let table := (Registry.standardWithout [] []).1.queries
    let bag : Bag := [("field", .ofString "other"), ("gte", .scalar (.number (.int 1)))]
    "range" ∉ ([] : List String) ∧ table.lookup? "age" = none ∧ "age" ≠ "field" ∧
      "age" ∉ boundKeys ∧ Dict.Sorted bag ∧ ¬ SpellingsAgree table "age" bag := by
  intro table bag
  have hrange : "range" ∉ ([] : List String) := by decide
  have hkey : table.lookup? "age" = none :=
    Registry.lookup?_standardWithout_eq_none _ _ (by decide)
  have hs : Dict.Sorted bag := by decide
  refine ⟨hrange, hkey, by decide, by decide, hs, ?_⟩
  rintro ⟨outcome, h, -, hfield⟩
  have hleaf : QueryKind.rangeLeaf (fieldBag "age" bag) = .ok ⟨"range", some "other", bag,
    .range "other" (some ⟨.number (.int 1), true⟩) none []⟩ := rfl
  rw [resolve_field (lookup?_range [] hrange) hkey hs] at h
  have hother := hfield _ ((ofExcept_map_some_inj h).symm.trans hleaf)
  exact absurd (Option.some.inj hother) (by decide)

end SearchNotation
