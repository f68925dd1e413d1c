import SearchNotation.Proofs.Query.Correspondence
import SearchNotation.Proofs.Registry.Lookup

/-!
# Writing a query back

`Query.toNotation` writes a query as explicit notation: every leaf under the name of its kind with
its own parameters, every clause list under its key. Compiling what was written gives the query
again and leaves nothing out (`compile_toNotation`), for every query that compiles over standard
kinds.

The induction follows what the query stands for (`Stands`, `Fills`): a leaf is the leaf of its own
parameters (`leaf_nested_params`), and the entries of a written clause list fill the same list
again (`joinedClauses_clauseEntries`).
-/

set_option autoImplicit false

namespace SearchNotation

namespace Query

/-! ## The notation of a query -/

/-- The entry of a clause list, none if it is empty. -/
def clauseEntry (clauses : Clauses Bag) (join : Join) : Bag :=
  if (clauses.get join).isEmpty then [] else [(join.key, .list (clauses.get join))]

/-- The map of four clause lists. -/
def clauseEntries (clauses : Clauses Bag) : Bag :=
  Dict.ofList (Join.all.flatMap (clauseEntry clauses))

mutual

/-- The map that a query is written as; no map in a clause list matches everything. -/
def toBag : Query → Bag
  | .matchAll => []
  | .leaf l => [(l.kind, .nested l.params)]
  | .bool clauses => clauseEntries (clausesToBags clauses)
  termination_by structural query => query

/-- The maps of four clause lists. -/
def clausesToBags : Clauses Query → Clauses Bag
  | ⟨must, mustNot, should, filter⟩ =>
    ⟨listToBags must, listToBags mustNot, listToBags should, listToBags filter⟩
  termination_by structural clauses => clauses

/-- The maps of several queries. -/
def listToBags : List Query → List Bag
  | [] => []
  | query :: rest => toBag query :: listToBags rest
  termination_by structural queries => queries

end

/-- The notation that a query is written as. -/
def toNotation : Query → Notation
  | .matchAll => .null
  | query => .map query.toBag

theorem get_clausesToBags (clauses : Clauses Query) (join : Join) :
    (clausesToBags clauses).get join = listToBags (clauses.get join) := by
  obtain ⟨must, mustNot, should, filter⟩ := clauses
  cases join <;> rfl

/-- The entries stand in the order of their keys. -/
theorem clauseEntries_eq (clauses : Clauses Bag) : clauseEntries clauses =
    clauseEntry clauses .filter ++ (clauseEntry clauses .must ++
      (clauseEntry clauses .mustNot ++ (clauseEntry clauses .should ++ []))) := by
  obtain ⟨must, mustNot, should, filter⟩ := clauses
  cases must <;> cases mustNot <;> cases should <;> cases filter <;>
    simp only [clauseEntries, clauseEntry, Join.all, Join.key, Clauses.get, Dict.ofList,
      Dict.insertAll, Dict.insert, List.flatMap_cons, List.flatMap_nil, List.isEmpty_nil,
      List.isEmpty_cons, List.nil_append, List.cons_append, List.append_nil, List.foldl_nil,
      List.foldl_cons, ↓reduceIte, Bool.false_eq_true, String.reduceLT, String.reduceEq]

theorem hasJoin_clauseEntries {clauses : Clauses Query} (h : clauses.isEmpty = false) :
    (clauseEntries (clausesToBags clauses)).hasJoin = true := by
  obtain ⟨join, hne⟩ : ∃ join, clauses.get join ≠ [] := by
    apply Classical.byContradiction
    intro hc
    have he := Clauses.isEmpty_iff.2 fun join => Classical.byContradiction fun hj => hc ⟨join, hj⟩
    rw [h] at he
    cases he
  have hentry : clauseEntry (clausesToBags clauses) join =
      [(join.key, .list (listToBags (clauses.get join)))] := by
    rw [clauseEntry, get_clausesToBags]
    cases hl : clauses.get join with
    | nil => exact absurd hl hne
    | cons query rest => rfl
  rw [Bag.hasJoin, List.any_eq_true]
  refine ⟨(join.key, .list (listToBags (clauses.get join))), ?_, by simp⟩
  rw [clauseEntries_eq]
  cases join <;> simp [hentry]

/-! ## Compiling it again -/

/-- Every leaf of the table is the leaf of its own parameters, under a name that does not join. -/
def LeavesRebuild (table : QueryTable) : Prop :=
  ∀ {key : String} {value : Value} {l : Leaf}, resolved? table key value = some l →
    resolve table l.kind (.nested l.params) = pure (some l) ∧ Join.ofKey? l.kind = none

section
variable {table : QueryTable}

/-- The entry of a clause list fills it with its elements. -/
theorem joinedClauses_clauseEntry {clauses : Clauses Query} {join : Join}
    (h : elements table (listToBags (clauses.get join)) = pure (clauses.get join)) (rest : Bag) :
    joinedClauses table (clauseEntry (clausesToBags clauses) join ++ rest) =
      (fun others => others.set join (clauses.get join ++ others.get join)) <$>
        joinedClauses table rest := by
  rw [clauseEntry, get_clausesToBags]
  cases hc : clauses.get join with
  | nil => simp [listToBags]
  | cons query queries =>
    rw [hc] at h
    rw [if_neg (by simp [listToBags]), List.singleton_append,
      joinedClauses_join table (Join.ofKey?_key join), joinedQueries_list, h, pure_bind,
      bind_pure_comp]

theorem joinedClauses_clauseEntries {clauses : Clauses Query}
    (h : ∀ join, elements table (listToBags (clauses.get join)) = pure (clauses.get join)) :
    joinedClauses table (clauseEntries (clausesToBags clauses)) = pure clauses := by
  rw [clauseEntries_eq, joinedClauses_clauseEntry (h .filter), joinedClauses_clauseEntry (h .must),
    joinedClauses_clauseEntry (h .mustNot), joinedClauses_clauseEntry (h .should), joinedClauses]
  obtain ⟨must, mustNot, should, filter⟩ := clauses
  simp [Clauses.set, Clauses.get]

mutual

/-- A clause is the only clause of the map that it is written as. -/
theorem element_toBag (hT : LeavesRebuild table) : ∀ {item : Item} {query : Query},
    Stands table item query → element table query.toBag = pure [query]
  | _, _, .entry hl => by
    obtain ⟨hr, hj⟩ := hT hl
    rw [toBag, element, Bag.hasJoin_single hj, entryLeaves, hr, pure_bind, entryLeaves, pure_bind]
    rfl
  | _, _, .joined hne hf => by
    rw [toBag, element, if_pos (hasJoin_clauseEntries hne),
      joinedClauses_clauseEntries fun join => elements_listToBags hT (hf join), map_pure,
      asElement, hne]
    rfl

/-- Clauses are the clauses of the maps that they are written as. -/
theorem elements_listToBags (hT : LeavesRebuild table) :
    ∀ {items : List Item} {queries : List Query}, Fills table items queries →
      elements table (listToBags queries) = pure queries
  | _, _, .nil => by rw [listToBags, elements]
  | _, _, .keep hs hf => by
    rw [listToBags, elements_cons, element_toBag hT hs, pure_bind, elements_listToBags hT hf,
      pure_bind]
    rfl
  | _, _, .drop _ hf => elements_listToBags hT hf

end

theorem compile_toNotation_of_standsFor (hT : LeavesRebuild table) {n : Notation} {query : Query}
    (h : query.StandsFor table n) : compile table query.toNotation = pure query := by
  rcases h with h | ⟨-, rfl⟩
  · generalize n.item = item at h
    cases h with
    | entry hl =>
      obtain ⟨hr, hj⟩ := hT hl
      simp only [toNotation, toBag, compile, compileMap, Bag.hasJoin_single hj, hr, pure_bind]
      rfl
    | joined hne hf =>
      simp only [toNotation, toBag, compile, compileMap]
      rw [if_pos (hasJoin_clauseEntries hne),
        joinedClauses_clauseEntries fun join => elements_listToBags hT (hf join), map_pure,
        ofClauses, hne]
      rfl
  · rfl

/-- Kinds are found under their own names, so their leaves rebuild if no name joins. -/
theorem leavesRebuild_of_linked (hT : table.Linked)
    (hj : ∀ {name kind}, table.lookup? name = some kind → Join.ofKey? kind.name = none) :
    LeavesRebuild table := by
  intro key value l hl
  obtain ⟨kind, argument, ha, hleaf⟩ := resolve_eq_some (resolve_of_resolved? hl)
  obtain ⟨name, hk⟩ := ha.exists_lookup?
  have hname := (QueryKind.leaf_eq_ok_iff.1 hleaf).1
  rw [hname, resolve_of_lookup? (hT.lookup?_name hk), QueryKind.leaf_nested_params hleaf]
  exact ⟨rfl, hj hk⟩

end

/-! ## Standard kinds -/

theorem standard_name_joins_nothing :
    ∀ kind ∈ QueryKind.standard, Join.ofKey? kind.name = none := by decide

/-- **A query over standard kinds is written back and compiled again without a difference**, and
nothing is left out on the way. -/
theorem compile_toNotation (disabledQueries disabledAggregations : List String) {n : Notation}
    {query : Query}
    (h : (compile (Registry.standardWithout disabledQueries disabledAggregations).1.queries
      n).result = .ok query) :
    compile (Registry.standardWithout disabledQueries disabledAggregations).1.queries
      query.toNotation = pure query := by
  have hT := Registry.holds_standardWithout disabledQueries disabledAggregations
  refine compile_toNotation_of_standsFor (leavesRebuild_of_linked hT.toLinked ?_)
    (compile_stands h)
  intro name kind hk
  rw [Registry.lookup?_standardWithout, Registry.mem_enabledStandard] at hk
  exact standard_name_joins_nothing kind hk.1.1

/-- A map under a joining key, another name of a kind, a range by the shape of its value, and an
entry that is dropped as `term` is disabled. -/
def mixedNotation : Notation :=
  .map [("should", .list [
    [("must_not", .nested [("common_terms", .nested
      [("field", .ofString "body"), ("query", .ofString "the")])])],
    [("age", .nested [("gte", .ofString "18")]), ("name", .ofString "x")]])]

/-- What it compiles to. -/
def mixedQuery : Query :=
  .bool { should := [
    .bool { mustNot := [.leaf ⟨"common", some "body",
      [("field", .ofString "body"), ("query", .ofString "the")],
      .onField .commonTerms "body" (.string "the") []⟩] },
    .leaf ⟨"range", some "age", [("field", .ofString "age"), ("gte", .ofString "18")],
      .range "age" (some ⟨.string "18", true⟩) none []⟩] }

theorem compile_toNotation_mixed :
    (compile (Registry.standardWithout ["term"] []).1.queries
      mixedNotation).result = .ok mixedQuery ∧
    compile (Registry.standardWithout ["term"] []).1.queries
      mixedQuery.toNotation = pure mixedQuery := by
  have h : (compile (Registry.standardWithout ["term"] []).1.queries
      mixedNotation).result = .ok mixedQuery := rfl
  exact ⟨h, compile_toNotation ["term"] [] h⟩

end Query

end SearchNotation
