import SearchNotation.Proofs.Registry.Lookup

/-!
# What a built registry holds

`RegistryBuilder.accepted`: the candidates that are taken, in the order in which they were added.
One is taken unless one of its names is disabled, its own name is empty, or a candidate taken
before it claims that name (`RegistryBuilder.Accepts`).

The main statement is `RegistryBuilder.build_registers`: the table that is built finds, under each
name, the first accepted candidate that claims it, and its three dictionaries agree with each other
and with the list of kinds (`QueryTable.Registers`). It rests on two invariants of registration:
`Holds` about lookups and `Catalogs` about entries. The kinds are the accepted ones in the order of
their names, and the name of a builder leads to the *last* accepted kind with such a builder, so a
kind is found by it unless a later one took it over (`lookupBuilder?_builderName_iff`).
-/

set_option autoImplicit false

namespace SearchNotation

open RegistryBuilder (claims)

/-! ## Accepted candidates -/

namespace RegistryBuilder

/-- A candidate is accepted after the candidates `earlier` were. -/
structure Accepts (builder : RegistryBuilder) (earlier : List QueryKind) (kind : QueryKind) :
    Prop where
  enabled : ∀ name ∈ builder.disabledQueries, claims kind name = false
  named : kind.name ≠ ""
  unclaimed : ∀ other ∈ earlier, claims other kind.name = false

theorem accepts_iff {builder : RegistryBuilder} {earlier : List QueryKind} {kind : QueryKind} :
    builder.Accepts earlier kind ↔ (∀ name ∈ builder.disabledQueries, claims kind name = false) ∧
      QueryTable.Acceptable earlier kind := by
  rw [QueryTable.Acceptable, List.find?_eq_none]
  constructor
  · rintro ⟨h1, h2, h3⟩
    exact ⟨h1, h2, by simpa using h3⟩
  · rintro ⟨h1, h2, h3⟩
    exact ⟨h1, h2, by simpa using h3⟩

instance (builder : RegistryBuilder) (earlier : List QueryKind) (kind : QueryKind) :
    Decidable (builder.Accepts earlier kind) :=
  decidable_of_iff' _ accepts_iff

/-- The accepted candidates in the order in which they were added. -/
def accepted (builder : RegistryBuilder) : List QueryKind :=
  builder.queryKinds.foldl
    (fun earlier kind => if builder.Accepts earlier kind then earlier ++ [kind] else earlier) []

/-- Leaving the disabled candidates out first makes no difference. -/
theorem accepted_eq (builder : RegistryBuilder) :
    builder.accepted = QueryTable.accepted [] builder.enabledQueries := by
  suffices ∀ (kinds earlier : List QueryKind),
      kinds.foldl (fun earlier kind =>
        if builder.Accepts earlier kind then earlier ++ [kind] else earlier) earlier =
      QueryTable.accepted earlier
        (kinds.filter fun kind => !builder.disabledQueries.any (claims kind)) from this _ _
  intro kinds
  induction kinds with
  | nil => intro earlier; rfl
  | cons kind rest ih =>
    intro earlier
    rw [List.foldl_cons, ih]
    by_cases hd : ∀ name ∈ builder.disabledQueries, claims kind name = false
    · have hiff : builder.Accepts earlier kind ↔ QueryTable.Acceptable earlier kind := by
        rw [accepts_iff, and_iff_right hd]
      rw [List.filter_cons_of_pos (by simpa using hd), QueryTable.accepted]
      simp only [hiff]
    · rw [if_neg fun h => hd h.enabled, List.filter_cons_of_neg (by simpa using hd)]

end RegistryBuilder

/-! ## The entries of a table -/

namespace QueryTable

/-- Registering other names changes the other names only. -/
theorem registerOtherNames_frame (table : QueryTable) (name : String) (others : List String) :
    (table.registerOtherNames name others).1 =
      { table with aliases := (table.registerOtherNames name others).1.aliases } := by
  induction others generalizing table with
  | nil => rfl
  | cons other rest ih =>
    unfold registerOtherNames
    split
    · exact ih table
    · exact ih _

@[simp] theorem kinds_registerOtherNames (table : QueryTable) (name : String)
    (others : List String) : (table.registerOtherNames name others).1.kinds = table.kinds := by
  rw [registerOtherNames_frame]

@[simp] theorem builders_registerOtherNames (table : QueryTable) (name : String)
    (others : List String) :
    (table.registerOtherNames name others).1.builders = table.builders := by
  rw [registerOtherNames_frame]

/-- The last of some kinds with a builder of a name. -/
def lastBuilt? (kinds : List QueryKind) (builder : String) : Option QueryKind :=
  kinds.reverse.find? fun kind => QueryKind.builderName kind.name = builder

theorem lastBuilt?_append_single (kinds : List QueryKind) (kind : QueryKind) (builder : String) :
    lastBuilt? (kinds ++ [kind]) builder =
      if QueryKind.builderName kind.name = builder then some kind
      else lastBuilt? kinds builder := by
  rw [lastBuilt?, List.reverse_append, List.reverse_singleton, List.singleton_append,
    List.find?_cons]
  by_cases h : QueryKind.builderName kind.name = builder
  · simp [h]
  · simp [h, lastBuilt?]

theorem lastBuilt?_eq_some_iff {kinds : List QueryKind} {builder : String} {kind : QueryKind} :
    lastBuilt? kinds builder = some kind ↔ QueryKind.builderName kind.name = builder ∧
      ∃ before after, kinds = before ++ kind :: after ∧
        ∀ later ∈ after, QueryKind.builderName later.name ≠ builder := by
  rw [lastBuilt?, List.find?_eq_some_iff_append, decide_eq_true_eq]
  refine and_congr_right fun _ => ⟨?_, ?_⟩
  · rintro ⟨after, before, hsplit, hafter⟩
    refine ⟨before.reverse, after.reverse, ?_, by simpa using hafter⟩
    rw [List.reverse_eq_iff] at hsplit
    simpa using hsplit
  · rintro ⟨before, after, rfl, hafter⟩
    exact ⟨after.reverse, before.reverse, by simp, by simpa using hafter⟩

/-- The entries of `table` came from the accepted candidates `kinds`. -/
structure Catalogs (table : QueryTable) (kinds : List QueryKind) : Prop where
  sorted : Dict.Sorted table.kinds
  listed : table.toList.Perm kinds
  builders : ∀ builder,
    Dict.get? table.builders builder = (lastBuilt? kinds builder).map (·.name)

theorem catalogs_empty : Catalogs empty [] := ⟨Dict.sorted_nil, .nil, fun _ => rfl⟩

/-- **An accepted candidate gets an entry and takes over the name of its builder.** -/
theorem Catalogs.register {table : QueryTable} {kinds : List QueryKind} (hT : Holds table kinds)
    (hC : Catalogs table kinds) (kind : QueryKind) :
    Catalogs (table.register kind).1
      (if Acceptable kinds kind then kinds ++ [kind] else kinds) := by
  by_cases h : Acceptable kinds kind
  · have hnew : ∀ e ∈ table.kinds, e.1 ≠ kind.name :=
      Dict.ne_of_get?_eq_none (hT.toLinked.unused (hT.acceptable_iff.1 h).2).2
    rw [if_pos h, hT.register_of_acceptable h]
    refine ⟨?_, ?_, fun builder => ?_⟩
    · rw [kinds_registerOtherNames]
      exact Dict.sorted_insert hC.sorted _ _
    · rw [toList, kinds_registerOtherNames]
      have hperm : ((Dict.insert table.kinds kind.name kind).map (·.2)).Perm
          (kind :: table.toList) := (Dict.perm_insert hnew kind).map (·.2)
      exact (hperm.trans (hC.listed.cons kind)).trans (List.perm_append_singleton kind kinds).symm
    · rw [builders_registerOtherNames, Dict.get?_insert, hC.builders, lastBuilt?_append_single]
      split <;> rfl
  · rwa [if_neg h, hT.register_of_not_acceptable h]

theorem Catalogs.registerAll {table : QueryTable} {earlier : List QueryKind}
    (hT : Holds table earlier) (hC : Catalogs table earlier) (kinds : List QueryKind) :
    Catalogs (table.registerAll kinds).1 (QueryTable.accepted earlier kinds) := by
  induction kinds generalizing table earlier with
  | nil => exact hC
  | cons kind rest ih => exact ih (hT.register kind) (Catalogs.register hT hC kind)

/-! ## Agreement of the dictionaries -/

section
variable {table : QueryTable} {kinds : List QueryKind} (hT : Linked table)
  (hC : Catalogs table kinds)
include hT hC

theorem Catalogs.mem_toList_iff {kind : QueryKind} :
    kind ∈ table.toList ↔ Dict.get? table.kinds kind.name = some kind := by
  constructor
  · intro h
    obtain ⟨⟨name, kind'⟩, he, rfl⟩ := List.mem_map.1 h
    have hget := Dict.get?_of_mem hC.sorted he
    rwa [hT.named hget]
  · intro h
    exact List.mem_map.2 ⟨_, Dict.mem_of_get? h, rfl⟩

theorem Catalogs.ordered : table.toList.Pairwise fun a b => a.name < b.name := by
  refine List.pairwise_map.2 (hC.sorted.imp_of_mem fun {a b} ha hb hlt => ?_)
  rw [hT.named (Dict.get?_of_mem hC.sorted ha), hT.named (Dict.get?_of_mem hC.sorted hb)]
  exact hlt

/-- **A builder's name finds the last accepted kind** with such a builder. -/
theorem Catalogs.lookupBuilder? (builder : String) :
    table.lookupBuilder? builder = lastBuilt? kinds builder := by
  rw [QueryTable.lookupBuilder?, hC.builders]
  cases hlast : lastBuilt? kinds builder with
  | none => rfl
  | some kind =>
    have hmem : kind ∈ table.toList :=
      hC.listed.mem_iff.2 (List.mem_reverse.1 (List.mem_of_find?_eq_some hlast))
    exact (hC.mem_toList_iff hT).1 hmem

end

/-! ## The table of a registry -/

/-- `table` is the table of the accepted candidates `kinds`, and its dictionaries agree. -/
structure Registers (table : QueryTable) (kinds : List QueryKind) : Prop where
  /-- The first candidate that claims a name is found under it, and nothing if none does. -/
  lookup : ∀ name, table.lookup? name = kinds.find? (claims · name)
  disjoint : ∀ name, ¬ (Dict.contains table.kinds name = true ∧
    Dict.contains table.aliases name = true)
  otherNames : ∀ other name, Dict.get? table.aliases other = some name →
    ∃ kind ∈ table.toList, kind.name = name ∧ other ∈ kind.aliases ∧
      table.lookup? other = some kind
  builderNames : ∀ builder name, Dict.get? table.builders builder = some name →
    ∃ kind ∈ table.toList, kind.name = name ∧ QueryKind.builderName name = builder ∧
      table.lookupBuilder? builder = some kind
  found : ∀ kind ∈ table.toList, table.lookup? kind.name = some kind
  ordered : table.toList.Pairwise fun a b => a.name < b.name
  listed : table.toList.Perm kinds

theorem Holds.lookup_otherName {table : QueryTable} {kinds : List QueryKind}
    (hT : Holds table kinds) {other name : String} (h : Dict.get? table.aliases other = some name) :
    ∃ kind, Dict.get? table.kinds name = some kind ∧ other ∈ kind.aliases ∧
      table.lookup? other = some kind := by
  obtain ⟨hnone, hsome⟩ := hT.otherName h
  obtain ⟨kind, hk⟩ := Option.isSome_iff_exists.1 hsome
  have hlook : table.lookup? other = some kind := by rw [lookup?_of_alias h, hk]
  refine ⟨kind, hk, ?_, hlook⟩
  have hclaims : claims kind other = true := by
    rw [hT.lookup] at hlook
    simpa using List.find?_some hlook
  refine (RegistryBuilder.claims_iff.1 hclaims).resolve_left fun he => ?_
  -- under its own name the kind has an entry among the kinds, and another name has none
  have hname := hT.named hk
  rw [he, hname, hk] at hnone
  cases hnone

theorem Holds.registers {table : QueryTable} {kinds : List QueryKind} (hT : Holds table kinds)
    (hC : Catalogs table kinds) : Registers table kinds where
  lookup := hT.lookup
  disjoint := by
    rintro name ⟨hk, ha⟩
    obtain ⟨owner, ho⟩ := Option.isSome_iff_exists.1 ha
    rw [Dict.contains, (hT.otherName ho).1] at hk
    cases hk
  otherNames := by
    intro other name h
    obtain ⟨kind, hk, hmem, hlook⟩ := hT.lookup_otherName h
    have hname := hT.named hk
    subst hname
    exact ⟨kind, (hC.mem_toList_iff hT.toLinked).2 hk, rfl, hmem, hlook⟩
  builderNames := by
    intro builder name h
    rw [hC.builders] at h
    obtain ⟨kind, hlast, rfl⟩ := Option.map_eq_some_iff.1 h
    have hmem : kind ∈ kinds := List.mem_reverse.1 (List.mem_of_find?_eq_some hlast)
    refine ⟨kind, hC.listed.mem_iff.2 hmem, rfl, by simpa using List.find?_some hlast, ?_⟩
    rw [hC.lookupBuilder? hT.toLinked, hlast]
  found := by
    intro kind h
    exact hT.lookup?_of_get? ((hC.mem_toList_iff hT.toLinked).1 h)
  ordered := hC.ordered hT.toLinked
  listed := hC.listed

theorem catalogs_build (builder : RegistryBuilder) :
    Catalogs builder.build.1.queries builder.accepted := by
  rw [builder.accepted_eq]
  exact Catalogs.registerAll holds_empty catalogs_empty _

end QueryTable

namespace RegistryBuilder

/-- **The first registration wins, in all dictionaries alike.** -/
theorem build_registers (builder : RegistryBuilder) :
    builder.build.1.queries.Registers builder.accepted := by
  have hT := QueryTable.holds_build builder
  rw [← builder.accepted_eq] at hT
  exact hT.registers (QueryTable.catalogs_build builder)

/-- The second kind is named like an alias of the first, which has its own name and an alias twice
among its aliases. -/
example :
    let kind (name : String) (aliases : List String) : QueryKind :=
      { QueryKind.binary .term aliases with name }
    let builder : RegistryBuilder :=
      { queryKinds := [kind "a" ["b", "a", "b"], kind "b" ["c"], kind "" [], kind "d" ["a", "c"]]
        disabledQueries := ["e"] }
    builder.accepted.map (·.name) = ["a", "d"] ∧
      builder.build.1.queries.aliases = [("b", "a"), ("c", "d")] := by
  decide

/-! ## Kinds by their builders -/

/-- **A kind is found by the name of its builder** exactly if it is accepted and no kind that is
accepted after it has a builder of the same name: there the last registration wins. -/
theorem lookupBuilder?_builderName_iff (builder : RegistryBuilder) (kind : QueryKind) :
    builder.build.1.queries.lookupBuilder? (QueryKind.builderName kind.name) = some kind ↔
      ∃ before after, builder.accepted = before ++ kind :: after ∧
        ∀ later ∈ after, QueryKind.builderName later.name ≠ QueryKind.builderName kind.name := by
  have hT := QueryTable.holds_build builder
  rw [(QueryTable.catalogs_build builder).lookupBuilder? hT.toLinked,
    QueryTable.lastBuilt?_eq_some_iff]
  simp

/-- A kind named `Term` takes the builder of the kind `term`, which stays registered, and nothing
warns of it. -/
theorem builder_of_term_taken :
    let term := QueryKind.binary .term []
    let built := RegistryBuilder.build { queryKinds := [term, { term with name := "Term" }] }
    term ∈ built.1.queries.toList ∧ built.2 = [] ∧
      built.1.queries.lookupBuilder? (QueryKind.builderName term.name) ≠ some term := by
  let term := QueryKind.binary .term []
  let other : QueryKind := { term with name := "Term" }
  let builder : RegistryBuilder := { queryKinds := [term, other] }
  have hacc : builder.accepted = [term] ++ [other] := by
    rw [accepted_eq]
    exact QueryTable.accepted_eq_append (by decide) (by decide)
  have hT := QueryTable.holds_build builder
  have hC := QueryTable.catalogs_build builder
  rw [hacc] at hC
  refine ⟨hC.listed.mem_iff.2 (.head _), by decide, fun h => ?_⟩
  have hsame : QueryKind.builderName other.name = QueryKind.builderName term.name := by decide
  rw [hC.lookupBuilder? hT.toLinked, QueryTable.lastBuilt?_append_single, if_pos hsame] at h
  have hnames : other.name = term.name := congrArg QueryKind.name (Option.some.inj h)
  exact absurd hnames (by decide)

end RegistryBuilder

end SearchNotation
