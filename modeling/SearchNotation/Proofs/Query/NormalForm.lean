import SearchNotation.Proofs.Query.Correspondence
import SearchNotation.Proofs.Registry.Lookup

/-!
# The normal form of queries

In a query that compiles every joined query has a clause, what matches every document stands alone,
and every leaf is named for a kind in use, by the kind's own name, and written under that name
(`Query.compile_normal`).

The shape of the tree does not depend on the kinds: whatever occurs in a query that stands for an
item stands for an item itself (`Stands.of_occurs`), so it is a leaf or has a clause. The name of a
leaf comes from the table, and the constructor of a standard kind builds the predicate that the kind
is named for (`QueryKind.construct_name`).
-/

set_option autoImplicit false

namespace SearchNotation

open RegistryBuilder (claims)

/-! ## Parts of a query -/

namespace Query

/-- A query occurs in itself; with a joined query its clauses occur. -/
inductive Occurs (query : Query) : Query → Prop
  | self : Occurs query query
  | clause {clauses : Clauses Query} {join : Join} {clause : Query} :
      Occurs query (.bool clauses) → clause ∈ clauses.get join → Occurs query clause

/-- Every joined query has a clause, and what matches every document stands alone. -/
structure Reduced (query : Query) : Prop where
  clauses : ∀ clauses, query.Occurs (.bool clauses) → ∃ join, clauses.get join ≠ []
  matchAll : query.Occurs .matchAll → query = .matchAll

end Query

/-- A leaf is named for a kind of the table, by the kind's own name, and written under it. -/
structure Leaf.Canonical (table : QueryTable) (disabled : List String) (l : Leaf) : Prop where
  inUse : ∃ kind, table.lookup? l.kind = some kind ∧ kind.name = l.kind
  /-- A standard kind that has the name has it for its own, and no name of the kind is disabled. -/
  ownName : ∀ kind ∈ QueryKind.standard, claims kind l.kind = true →
    kind.name = l.kind ∧ ∀ name ∈ disabled, claims kind name = false
  predicate : l.predicate.name = l.kind
  written : l.predicate.toJson = Json.single l.kind l.predicate.body

/-- The normal form of a query over standard kinds, some of which are disabled. -/
structure Query.Normal (table : QueryTable) (disabled : List String) (query : Query) : Prop
    extends query.Reduced where
  leaves : ∀ l, query.Occurs (.leaf l) → l.Canonical table disabled

/-! ## What occurs in a query that stands for an item -/

section
variable {table : QueryTable}

theorem Fills.exists_stands {items : List Item} {queries : List Query} {query : Query}
    (h : Fills table items queries) (hq : query ∈ queries) : ∃ item, Stands table item query := by
  induction items generalizing queries with
  | nil => cases h; cases hq
  | cons item items ih =>
    cases h with
    | drop _ hf => exact ih hf hq
    | keep hs hf =>
      rcases List.mem_cons.1 hq with rfl | hq
      · exact ⟨item, hs⟩
      · exact ih hf hq

/-- **What occurs in a query that stands for an item** stands for an item. -/
theorem Stands.of_occurs {item : Item} {query part : Query} (h : Stands table item query)
    (ho : query.Occurs part) : ∃ item, Stands table item part := by
  induction ho with
  | self => exact ⟨item, h⟩
  | clause _ hc ih =>
    obtain ⟨_, hs⟩ := ih
    cases hs with
    | joined _ hf => exact (hf _).exists_stands hc

theorem Stands.exists_clause {item : Item} {clauses : Clauses Query}
    (h : Stands table item (.bool clauses)) : ∃ join, clauses.get join ≠ [] := by
  cases h with
  | joined hne _ =>
    by_contra hall
    have hempty := Clauses.isEmpty_iff.2 fun join => not_not.1 (not_exists.1 hall join)
    rw [hne] at hempty
    cases hempty

theorem Query.occurs_matchAll {part : Query} (h : Query.matchAll.Occurs part) :
    part = .matchAll := by
  induction h with
  | self => rfl
  | clause _ _ ih => cases ih

/-- What occurs in the query of a notation is the whole of it or stands for an item. -/
theorem Query.StandsFor.of_occurs {n : Notation} {query part : Query} (h : query.StandsFor table n)
    (ho : query.Occurs part) :
    query = .matchAll ∧ part = .matchAll ∨ ∃ item, Stands table item part := by
  rcases h with h | ⟨-, rfl⟩
  · exact .inr (h.of_occurs ho)
  · exact .inl ⟨rfl, occurs_matchAll ho⟩

theorem Query.StandsFor.reduced {n : Notation} {query : Query} (h : query.StandsFor table n) :
    query.Reduced where
  clauses := by
    intro clauses ho
    rcases h.of_occurs ho with ⟨-, he⟩ | ⟨item, hs⟩
    · cases he
    · exact hs.exists_clause
  matchAll := by
    intro ho
    rcases h.of_occurs ho with ⟨rfl, -⟩ | ⟨item, hs⟩
    · rfl
    · cases hs

theorem Query.StandsFor.exists_entry {n : Notation} {query : Query} {l : Leaf}
    (h : query.StandsFor table n) (ho : query.Occurs (.leaf l)) :
    ∃ key value, resolved? table key value = some l := by
  rcases h.of_occurs ho with ⟨-, he⟩ | ⟨item, hs⟩
  · cases he
  · cases hs with
    | entry hl => exact ⟨_, _, hl⟩

end

/-! ## Predicates of standard kinds -/

namespace QueryKind

/-- A constructor builds predicates of one name. -/
def Builds (construct : Bag → Except CompileError Predicate) (name : String) : Prop :=
  ∀ bag p, construct bag = .ok p → p.name = name

theorem builds_ofText {name : String} (key : String) {build : Bag → String → Predicate}
    (h : ∀ bag text, (build bag text).name = name) :
    Builds (fun bag => do return build bag (← textArgument name bag key)) name := by
  intro bag p hp
  obtain ⟨text, -, hp⟩ := Except.bind_eq_ok.1 hp
  cases hp
  exact h bag text

theorem builds_ids : Builds buildIds "ids" := by
  intro bag p hp
  unfold buildIds at hp
  split at hp
  · cases hp
    rfl
  · cases hp
    rfl
  · cases hp
  · cases hp

theorem builds_fieldTest (test : FieldTest) : Builds (buildFieldTest test) test.name := by
  intro bag p hp
  obtain ⟨field, -, hp⟩ := Except.bind_eq_ok.1 hp
  split at hp
  · cases hp
    rfl
  · cases hp
  · cases hp

theorem builds_terms : Builds buildTerms "terms" := by
  intro bag p hp
  obtain ⟨field, -, hp⟩ := Except.bind_eq_ok.1 hp
  split at hp
  · cases hp
    rfl
  · cases hp
    rfl
  · cases hp
  · cases hp

theorem builds_range : Builds buildRange "range" := by
  intro bag p hp
  obtain ⟨field, -, hp⟩ := Except.bind_eq_ok.1 hp
  obtain ⟨upper, -, hp⟩ := Except.bind_eq_ok.1 hp
  obtain ⟨lower, -, hp⟩ := Except.bind_eq_ok.1 hp
  split at hp
  · cases hp
  · cases hp
    rfl

/-- **A standard kind builds the predicate that it is named for.** -/
theorem construct_name : ∀ kind ∈ standard, Builds kind.construct kind.name := by
  simp only [standard, List.forall_mem_cons, List.not_mem_nil, false_implies, implies_true,
    and_true]
  exact ⟨builds_ofText _ fun _ _ => rfl, builds_ids, builds_ofText _ fun _ _ => rfl,
    builds_ofText _ fun _ _ => rfl, builds_ofText _ fun _ _ => rfl, builds_fieldTest _,
    builds_fieldTest _, builds_fieldTest _, builds_fieldTest _, builds_fieldTest _, builds_terms,
    builds_fieldTest _, builds_fieldTest _, builds_fieldTest _, builds_fieldTest _, builds_range⟩

end QueryKind

/-! ## Leaves of standard kinds -/

namespace Query

open Registry (standardWithout)

section
variable (disabledQueries disabledAggregations : List String)

theorem canonical_of_resolved? {key : String} {value : Value} {l : Leaf}
    (h : resolved? (standardWithout disabledQueries disabledAggregations).1.queries key value =
      some l) :
    l.Canonical (standardWithout disabledQueries disabledAggregations).1.queries
      disabledQueries := by
  obtain ⟨kind, argument, ha, hleaf⟩ := resolve_eq_some (resolve_of_resolved? h)
  obtain ⟨name, hk⟩ := ha.exists_lookup?
  obtain ⟨hname, -, -, hbuilt⟩ := QueryKind.leaf_eq_ok_iff.1 hleaf
  have hT := Registry.holds_standardWithout disabledQueries disabledAggregations
  obtain ⟨hstandard, henabled⟩ := (Registry.mem_enabledStandard _).1
    ((Registry.lookup?_standardWithout _ _).1 hk).1
  have hpredicate : l.predicate.name = l.kind :=
    (QueryKind.construct_name kind hstandard _ _ hbuilt).trans hname.symm
  refine ⟨⟨kind, hname ▸ hT.lookup?_name hk, hname.symm⟩, fun other ho hclaims => ?_, hpredicate,
    hpredicate ▸ rfl⟩
  -- Names of standard kinds do not overlap, so any kind of that name is the one looked up.
  have hclaims' : claims kind l.kind = true := RegistryBuilder.claims_iff.2 (.inl hname)
  have hsame : other = kind := Registry.eq_of_claims ho hstandard hclaims hclaims'
  subst hsame
  exact ⟨hname.symm, henabled⟩

/-- **Every compiled query is in normal form.** -/
theorem compile_normal {n : Notation} {query : Query}
    (h : (compile (standardWithout disabledQueries disabledAggregations).1.queries n).result =
      .ok query) :
    query.Normal (standardWithout disabledQueries disabledAggregations).1.queries
      disabledQueries := by
  have hstands := compile_stands h
  refine { hstands.reduced with leaves := fun l ho => ?_ }
  obtain ⟨key, value, hl⟩ := hstands.exists_entry ho
  exact canonical_of_resolved? disabledQueries disabledAggregations hl

end

/-- Nothing is left of the joined element. In the other one, `common` is a field: the kind of that
name is disabled by its alias. -/
theorem compile_normal_disabled_alias :
    let n : Notation := .map [("filter", .list [[("must", .nested [("gone", .scalar .null)])],
      [("common", .ofString "the"), ("query_string", .ofString "x")]])]
    let query : Query := .bool { filter := [
      .leaf ⟨"term", some "common", [("field", .ofString "common"), ("query", .ofString "the")],
        .onField .term "common" (.string "the") []⟩,
      .leaf ⟨"query_string", none, [("query", .ofString "x")], .queryString "x" []⟩] }
    let table := (standardWithout ["common_terms"] []).1.queries
    (compile table n).result = .ok query ∧ query.Normal table ["common_terms"] := by
  intro n query table
  have h : (compile table n).result = .ok query := rfl
  exact ⟨h, compile_normal ["common_terms"] [] h⟩

end Query

end SearchNotation
