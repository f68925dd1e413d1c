import Mathlib.Data.List.Find
import SearchNotation.Proofs.Dict
import SearchNotation.Registry.Builder

/-!
# Looking up what was registered

`QueryTable.Holds table kinds`: a name is looked up in `table` as the first of `kinds` that claims
it, and the dictionaries of the table fit together (kinds stand under their own names, no other
name is the name of a kind). Registering keeps this (`Holds.register`): a candidate that is
accepted comes after the earlier ones, any other changes nothing. So a table built from candidates
holds the accepted ones (`Holds.registerAll`), and a registry of standard kinds has, under each
name, the standard kind that claims it unless it is disabled (`lookup?_standardWithout`).

An aggregation kind has one name and is found under it if it was the first to be registered
(`AggregationTable.lookup?_registerAll`, `aggregations_lookup?_standardWithout`).
-/

set_option autoImplicit false

namespace SearchNotation

open RegistryBuilder (claims)

theorem RegistryBuilder.claims_iff {kind : QueryKind} {name : String} :
    claims kind name = true ↔ name = kind.name ∨ name ∈ kind.aliases := by
  simp [claims, eq_comm (a := kind.name)]

namespace QueryTable

/-- The dictionaries of a table fit together. -/
structure Linked (table : QueryTable) : Prop where
  named : ∀ {name kind}, Dict.get? table.kinds name = some kind → kind.name = name
  /-- Another name of a kind is not itself the name of a kind. -/
  otherName : ∀ {other name}, Dict.get? table.aliases other = some name →
    Dict.get? table.kinds other = none ∧ (Dict.get? table.kinds name).isSome

/-- `table` came from the accepted candidates `kinds`. -/
structure Holds (table : QueryTable) (kinds : List QueryKind) : Prop extends Linked table where
  /-- The first kind that claims a name is found under it. -/
  lookup : ∀ name, table.lookup? name = kinds.find? (claims · name)

theorem linked_empty : Linked empty := ⟨fun h => (by cases h), fun h => (by cases h)⟩

theorem holds_empty : Holds empty [] := ⟨linked_empty, fun _ => rfl⟩

theorem lookup?_of_alias {table : QueryTable} {other name : String}
    (h : Dict.get? table.aliases other = some name) :
    table.lookup? other = Dict.get? table.kinds name := by
  simp [lookup?, h]

theorem lookup?_of_no_alias {table : QueryTable} {name : String}
    (h : Dict.get? table.aliases name = none) :
    table.lookup? name = Dict.get? table.kinds name := by
  simp [lookup?, h]

section
variable {table : QueryTable} (hT : Linked table)
include hT

/-- A name that is not in use belongs to no dictionary of the table. -/
theorem Linked.unused {name : String} (h : table.lookup? name = none) :
    Dict.get? table.aliases name = none ∧ Dict.get? table.kinds name = none := by
  cases ha : Dict.get? table.aliases name with
  | none => exact ⟨rfl, by rwa [lookup?_of_no_alias ha] at h⟩
  | some owner =>
    have hsome := (hT.otherName ha).2
    rw [← lookup?_of_alias ha, h] at hsome
    cases hsome

/-- A kind of the table is found under its name. -/
theorem Linked.lookup?_of_get? {name : String} {kind : QueryKind}
    (h : Dict.get? table.kinds name = some kind) : table.lookup? name = some kind := by
  cases ha : Dict.get? table.aliases name with
  | none => rwa [lookup?_of_no_alias ha]
  | some owner =>
    have hnone := (hT.otherName ha).1
    rw [h] at hnone
    cases hnone

/-- **A kind that is found is found under its own name.** -/
theorem Linked.lookup?_name {name : String} {kind : QueryKind}
    (h : table.lookup? name = some kind) :
    table.lookup? kind.name = some kind := by
  have hk : Dict.get? table.kinds kind.name = some kind := by
    have := hT.named h
    rwa [this]
  exact hT.lookup?_of_get? hk

end

/-! ## Registering -/

theorem lookup?_insert_alias (table : QueryTable) (other owner name : String) :
    QueryTable.lookup? { table with aliases := Dict.insert table.aliases other owner } name =
      if name = other then Dict.get? table.kinds owner else table.lookup? name := by
  split
  · next hn =>
    subst hn
    exact lookup?_of_alias (Dict.get?_insert_self _ _ _)
  · next hn => rw [lookup?, lookup?, Dict.get?_insert_of_ne _ _ (Ne.symm hn)]

/-- A name that was not in use becomes another name of a kind of the table. -/
theorem Linked.insert_alias {table : QueryTable} (hT : Linked table) {kind : QueryKind}
    (hk : Dict.get? table.kinds kind.name = some kind) {other : String}
    (ho : table.lookup? other = none) :
    Linked { table with aliases := Dict.insert table.aliases other kind.name } := by
  refine ⟨hT.named, fun {other' name} h => ?_⟩
  simp only [Dict.get?_insert] at h
  split at h
  · next he =>
    cases h
    subst he
    exact ⟨(hT.unused ho).2, by simp [hk]⟩
  · exact hT.otherName h

/-- **Other names are registered** unless they are in use. -/
theorem Linked.registerOtherNames (kind : QueryKind) :
    ∀ (others : List String) {table : QueryTable}, Linked table →
      Dict.get? table.kinds kind.name = some kind →
      Linked (table.registerOtherNames kind.name others).1 ∧ ∀ name,
        (table.registerOtherNames kind.name others).1.lookup? name =
          (table.lookup? name).or (if name ∈ others then some kind else none)
  | [], table, hT, _ => ⟨hT, fun name => by simp [QueryTable.registerOtherNames]⟩
  | other :: rest, table, hT, hk => by
    unfold QueryTable.registerOtherNames
    split
    · next hused =>
      obtain ⟨hl, hlook⟩ := registerOtherNames kind rest hT hk
      refine ⟨hl, fun name => ?_⟩
      rw [hlook]
      by_cases hn : name = other
      · subst hn
        obtain ⟨owner, ho⟩ := Option.isSome_iff_exists.1 hused
        simp [ho]
      · simp [hn]
    · next hfree =>
      have ho : table.lookup? other = none := by simpa using hfree
      obtain ⟨hl, hlook⟩ := registerOtherNames kind rest (hT.insert_alias hk ho) hk
      refine ⟨hl, fun name => ?_⟩
      rw [hlook, lookup?_insert_alias]
      by_cases hn : name = other
      · subst hn
        simp [ho, hk]
      · simp [hn]

/-- A kind takes a name that was not in use. -/
theorem Linked.insert_kind {table : QueryTable} (hT : Linked table) {kind : QueryKind}
    (hfree : table.lookup? kind.name = none) (builders : Dict String) :
    let table' : QueryTable :=
      ⟨Dict.insert table.kinds kind.name kind, table.aliases, builders⟩
    Linked table' ∧ ∀ name,
      table'.lookup? name = if name = kind.name then some kind else table.lookup? name := by
  obtain ⟨hna, hnk⟩ := hT.unused hfree
  refine ⟨⟨fun {name kind'} h => ?_, fun {other name} h => ?_⟩, fun name => ?_⟩
  · simp only [Dict.get?_insert] at h
    split at h
    · next he => cases h; exact he
    · exact hT.named h
  · obtain ⟨hno, hsome⟩ := hT.otherName h
    have hne : kind.name ≠ other := by
      rintro rfl
      rw [hna] at h
      cases h
    refine ⟨by rw [Dict.get?_insert_of_ne _ _ hne, hno], ?_⟩
    rw [Dict.get?_insert]
    split
    · rfl
    · exact hsome
  · by_cases hn : name = kind.name
    · subst hn
      simp [lookup?, hna, Dict.get?_insert_self]
    · have hne : kind.name ≠ (Dict.get? table.aliases name).getD name := by
        cases ha : Dict.get? table.aliases name with
        | none => exact Ne.symm hn
        | some owner =>
          rintro rfl
          have hsome := (hT.otherName ha).2
          simp [hnk] at hsome
      simp [lookup?, Dict.get?_insert_of_ne _ _ hne, hn]

/-- Whether a candidate is registered after `kinds`. -/
def Acceptable (kinds : List QueryKind) (kind : QueryKind) : Prop :=
  kind.name ≠ "" ∧ kinds.find? (claims · kind.name) = none

instance (kinds : List QueryKind) (kind : QueryKind) : Decidable (Acceptable kinds kind) :=
  inferInstanceAs (Decidable (_ ∧ _))

section
variable {table : QueryTable} {kinds : List QueryKind} (hT : Holds table kinds) {kind : QueryKind}
include hT

theorem Holds.acceptable_iff :
    Acceptable kinds kind ↔ kind.name ≠ "" ∧ table.lookup? kind.name = none := by
  rw [hT.lookup, Acceptable]

theorem Holds.register_of_not_acceptable (h : ¬ Acceptable kinds kind) :
    (table.register kind).1 = table := by
  rw [hT.acceptable_iff] at h
  unfold QueryTable.register
  split
  · rfl
  split
  · rfl
  next hname hfree => exact absurd ⟨hname, by simpa using hfree⟩ h

/-- An acceptable candidate is stored under its name, with its builder, and then its other names. -/
theorem Holds.register_of_acceptable (h : Acceptable kinds kind) :
    (table.register kind).1 = (QueryTable.registerOtherNames
      ⟨Dict.insert table.kinds kind.name kind, table.aliases,
        Dict.insert table.builders (QueryKind.builderName kind.name) kind.name⟩
      kind.name kind.aliases).1 := by
  obtain ⟨hname, hfree⟩ := hT.acceptable_iff.1 h
  rw [QueryTable.register, if_neg hname, if_neg (by simp [hfree])]

end

/-- **An acceptable candidate comes after the earlier ones**; any other changes nothing. -/
theorem Holds.register {table : QueryTable} {kinds : List QueryKind} (hT : Holds table kinds)
    (kind : QueryKind) :
    Holds (table.register kind).1 (if Acceptable kinds kind then kinds ++ [kind] else kinds) := by
  by_cases h : Acceptable kinds kind
  · have hfree : table.lookup? kind.name = none := (hT.acceptable_iff.1 h).2
    rw [if_pos h, hT.register_of_acceptable h]
    obtain ⟨hl, hlook⟩ := hT.toLinked.insert_kind hfree
      (Dict.insert table.builders (QueryKind.builderName kind.name) kind.name)
    obtain ⟨hl', hlook'⟩ :=
      hl.registerOtherNames kind kind.aliases (Dict.get?_insert_self _ _ _)
    refine ⟨hl', fun name => ?_⟩
    rw [hlook', hlook, List.find?_append, ← hT.lookup, List.find?_singleton]
    by_cases hn : name = kind.name
    · subst hn
      simp [hfree, RegistryBuilder.claims_iff]
    · simp [hn, RegistryBuilder.claims_iff]
  · rwa [if_neg h, hT.register_of_not_acceptable h]

/-- The candidates that are registered after `earlier`, with those. -/
def accepted (earlier : List QueryKind) : List QueryKind → List QueryKind
  | [] => earlier
  | kind :: rest =>
    accepted (if Acceptable earlier kind then earlier ++ [kind] else earlier) rest

theorem Holds.registerAll {table : QueryTable} {earlier : List QueryKind}
    (hT : Holds table earlier) (kinds : List QueryKind) :
    Holds (table.registerAll kinds).1 (accepted earlier kinds) := by
  induction kinds generalizing table earlier with
  | nil => exact hT
  | cons kind rest ih => exact ih (hT.register kind)

/-- **A registry holds the accepted candidates** of its builder. -/
theorem holds_build (builder : RegistryBuilder) :
    Holds builder.build.1.queries (accepted [] builder.enabledQueries) :=
  holds_empty.registerAll _

/-- Candidates that do not share a name are all accepted. -/
theorem accepted_eq_append {kinds : List QueryKind}
    (hne : ∀ kind ∈ kinds, kind.name ≠ "") :
    ∀ {earlier : List QueryKind},
      (earlier ++ kinds).Pairwise (fun a b => claims a b.name = false) →
      accepted earlier kinds = earlier ++ kinds := by
  induction kinds with
  | nil => intro earlier _; simp [accepted]
  | cons kind rest ih =>
    intro earlier hp
    have hacc : Acceptable earlier kind := by
      refine ⟨hne kind (.head _), List.find?_eq_none.2 fun a ha => ?_⟩
      simp [(List.pairwise_append.1 hp).2.2 a ha kind (.head _)]
    rw [accepted, if_pos hacc, ih (fun k hk => hne k (.tail _ hk)) (by simpa using hp)]
    simp

end QueryTable

/-! ## Aggregation kinds -/

namespace AggregationTable

/-- What is found after a kind is registered: what was there before, or the kind. -/
theorem lookup?_register (table : AggregationTable) (kind : AggregationKind) (name : String) :
    (table.register kind).1.lookup? name = (table.lookup? name).or
      (if kind.name ≠ "" ∧ kind.name = name then some kind else none) := by
  unfold AggregationTable.register
  split
  · next hempty => simp [hempty]
  · next hne =>
    split
    · next hused =>
      by_cases hn : kind.name = name
      · subst hn
        obtain ⟨owner, ho⟩ := Option.isSome_iff_exists.1 hused
        simp [ho]
      · simp [hn]
    · next hfree =>
      rw [lookup?, Dict.get?_insert]
      by_cases hn : kind.name = name
      · subst hn
        have hnone : table.lookup? kind.name = none := by simpa using hfree
        simp [hnone, hne]
      · simp [hn, lookup?]

/-- **What is found under a name**: the first kind that was registered under it. -/
theorem lookup?_registerAll (table : AggregationTable) (kinds : List AggregationKind)
    (name : String) : (table.registerAll kinds).1.lookup? name = (table.lookup? name).or
      (kinds.find? fun kind => kind.name ≠ "" ∧ kind.name = name) := by
  induction kinds generalizing table with
  | nil => simp [AggregationTable.registerAll]
  | cons kind rest ih =>
    rw [AggregationTable.registerAll]
    simp only
    rw [ih, lookup?_register, Option.or_assoc]
    by_cases h : kind.name ≠ "" ∧ kind.name = name
    · rw [if_pos h, List.find?_cons_of_pos (by simpa using h), Option.some_or]
    · rw [if_neg h, List.find?_cons_of_neg (by simpa using h), Option.none_or]

theorem lookup?_build (builder : RegistryBuilder) (name : String) :
    builder.build.1.aggregations.lookup? name =
      builder.enabledAggregations.find? fun kind => kind.name ≠ "" ∧ kind.name = name := by
  have hbuilt : builder.build.1.aggregations =
      (AggregationTable.registerAll [] builder.enabledAggregations).1 := rfl
  rw [hbuilt, lookup?_registerAll, lookup?, Dict.get?_nil, Option.none_or]

/-- Kinds are found under their own names. -/
def Named (table : AggregationTable) : Prop :=
  ∀ {name kind}, table.lookup? name = some kind → kind.name = name

theorem named_build (builder : RegistryBuilder) : Named builder.build.1.aggregations := by
  intro name kind h
  rw [lookup?_build] at h
  have hfound := List.find?_some h
  simp only [decide_eq_true_eq] at hfound
  exact hfound.2

end AggregationTable

/-! ## Registries of standard kinds -/

namespace Registry

open QueryTable

/-- No two standard kinds share a name. -/
theorem standard_disjoint : QueryKind.standard.Pairwise fun a b =>
    ∀ name, claims a name = true → claims b name = false := by
  have h : QueryKind.standard.Pairwise fun a b =>
      ((a.name :: a.aliases).all fun name => !claims b name) = true := by decide
  refine h.imp fun {a b} hab name hn => ?_
  have := List.all_eq_true.1 hab name (List.mem_cons.2 (RegistryBuilder.claims_iff.1 hn))
  simpa using this

theorem standard_name_ne : ∀ kind ∈ QueryKind.standard, kind.name ≠ "" := by decide

variable (disabledQueries disabledAggregations : List String)

/-- The standard query kinds that are not disabled. -/
def enabledStandard : List QueryKind :=
  QueryKind.standard.filter fun kind => !disabledQueries.any (claims kind)

theorem mem_enabledStandard {kind : QueryKind} : kind ∈ enabledStandard disabledQueries ↔
    kind ∈ QueryKind.standard ∧ ∀ name ∈ disabledQueries, claims kind name = false := by
  simp [enabledStandard]

theorem enabledStandard_disjoint : (enabledStandard disabledQueries).Pairwise fun a b =>
    ∀ name, claims a name = true → claims b name = false :=
  standard_disjoint.sublist List.filter_sublist

theorem queries_standardWithout :
    (standardWithout disabledQueries disabledAggregations).1.queries =
      (QueryTable.empty.registerAll (enabledStandard disabledQueries)).1 := rfl

/-- **A registry of standard kinds** holds those that are not disabled. -/
theorem holds_standardWithout :
    Holds (standardWithout disabledQueries disabledAggregations).1.queries
      (enabledStandard disabledQueries) := by
  have hne : ∀ kind ∈ enabledStandard disabledQueries, kind.name ≠ "" :=
    fun kind hk => standard_name_ne kind ((mem_enabledStandard _).1 hk).1
  have hp : ([] ++ enabledStandard disabledQueries).Pairwise
      fun a b => claims a b.name = false := by
    refine (enabledStandard_disjoint disabledQueries).imp fun {a b} hab => ?_
    have hself : claims b b.name = true := RegistryBuilder.claims_iff.2 (.inl rfl)
    cases hc : claims a b.name with
    | false => rfl
    | true => rw [hab b.name hc] at hself; cases hself
  have h := holds_build { RegistryBuilder.standard with disabledQueries, disabledAggregations }
  rwa [show RegistryBuilder.enabledQueries _ = enabledStandard disabledQueries from rfl,
    accepted_eq_append hne hp] at h

/-- **What is found under a name** in a registry of standard kinds: the one that claims it. -/
theorem lookup?_standardWithout {name : String} {kind : QueryKind} :
    (standardWithout disabledQueries disabledAggregations).1.queries.lookup? name = some kind ↔
      kind ∈ enabledStandard disabledQueries ∧ claims kind name = true := by
  rw [(holds_standardWithout disabledQueries disabledAggregations).lookup]
  refine ⟨fun h => ⟨List.mem_of_find?_eq_some h, by simpa using List.find?_some h⟩, ?_⟩
  rintro ⟨hmem, hclaims⟩
  obtain ⟨before, after, hsplit⟩ := List.append_of_mem hmem
  refine List.find?_eq_some_iff_append.2 ⟨hclaims, before, after, hsplit, fun a ha => ?_⟩
  -- a kind before it that claims the name as well would share the name with it
  have hp := enabledStandard_disjoint disabledQueries
  rw [hsplit] at hp
  cases hc : claims a name with
  | false => rfl
  | true =>
    rw [(List.pairwise_append.1 hp).2.2 a ha kind (.head _) name hc] at hclaims
    cases hclaims

/-- With nothing disabled every standard kind is found under its names. -/
theorem lookup?_standard {name : String} {kind : QueryKind} :
    standard.queries.lookup? name = some kind ↔
      kind ∈ QueryKind.standard ∧ claims kind name = true := by
  rw [standard, lookup?_standardWithout, mem_enabledStandard]
  simp

/-- Standard kinds that share a name are the same. -/
theorem eq_of_claims {a b : QueryKind} (ha : a ∈ QueryKind.standard) (hb : b ∈ QueryKind.standard)
    {name : String} (hna : claims a name = true) (hnb : claims b name = true) : a = b := by
  have hfound := lookup?_standard.2 ⟨ha, hna⟩
  rw [lookup?_standard.2 ⟨hb, hnb⟩] at hfound
  exact (Option.some.inj hfound).symm

/-- Nothing is found under a name that no standard kind claims. -/
theorem lookup?_standardWithout_eq_none {name : String}
    (h : ∀ kind ∈ QueryKind.standard, claims kind name = false) :
    (standardWithout disabledQueries disabledAggregations).1.queries.lookup? name = none := by
  refine Option.eq_none_iff_forall_ne_some.2 fun kind hk => ?_
  obtain ⟨hmem, hclaims⟩ := (lookup?_standardWithout _ _).1 hk
  rw [h kind ((mem_enabledStandard _).1 hmem).1] at hclaims
  cases hclaims

theorem standard_aggregation_name_ne :
    ∀ kind ∈ AggregationKind.standard, kind.name ≠ "" := by decide

/-- **What aggregation kind is found under a name** in a registry of standard kinds. -/
theorem aggregations_lookup?_standardWithout (name : String) :
    (standardWithout disabledQueries disabledAggregations).1.aggregations.lookup? name =
      if name ∈ disabledAggregations then none else AggregationKind.standard? name := by
  rw [standardWithout, AggregationTable.lookup?_build, RegistryBuilder.enabledAggregations,
    List.find?_filter]
  split
  · next hd =>
    refine List.find?_eq_none.2 fun kind _ => ?_
    simp only [Bool.not_eq_true', List.contains_eq_mem, decide_eq_false_iff_not,
      decide_eq_true_eq, not_and]
    rintro hout - rfl
    exact hout hd
  · next hd =>
    refine List.find?_congr fun kind hk => ?_
    have hne := standard_aggregation_name_ne kind hk
    by_cases hn : kind.name = name
    · subst hn
      simp [hd, hne]
    · simp [hn]

theorem standard_aggregation_names_nodup : (AggregationKind.standard.map (·.name)).Nodup := by
  decide

/-- Every standard aggregation kind is found under its name. -/
theorem aggregations_lookup?_standard {kind : AggregationKind}
    (hk : kind ∈ AggregationKind.standard) :
    standard.aggregations.lookup? kind.name = some kind := by
  rw [standard, aggregations_lookup?_standardWithout, if_neg List.not_mem_nil]
  obtain ⟨before, after, hsplit⟩ := List.append_of_mem hk
  refine List.find?_eq_some_iff_append.2 ⟨by simp, before, after, hsplit, fun other hother => ?_⟩
  have hnodup := List.pairwise_map.1 standard_aggregation_names_nodup
  rw [hsplit] at hnodup
  simpa using (List.pairwise_append.1 hnodup).2.2 other hother kind (.head _)

end Registry

end SearchNotation
