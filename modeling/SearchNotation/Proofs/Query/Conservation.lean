import SearchNotation.Proofs.Query.Visits

/-!
# No predicate is lost

Every entry that the compiler comes to is a leaf or an event, and there are no other leaves and
events (`compile_accounts`). The leaves are those of the entries, each once (`leaves`), and under
every path of joining keys they stand in the order of the entries below these keys
(`Query.leavesUnder`).

Leaves are counted along what a query stands for (`Stands`, `Fills`): the visits of a map that
joins are those of its items (`filterMap_ofJoined`), so its leaves below one key are those of the
items under it (`filterMap_ofJoined_under`), and all of them those under the four keys
(`filterMap_ofJoined_perm`).
-/

set_option autoImplicit false

namespace SearchNotation

/-! ## What becomes of a visit -/

/-- The leaf that the entry resolves to. -/
def Reached.leaf? (table : QueryTable) (r : Reached) : Option Leaf := resolved? table r.key r.value

/-- What is logged if the entry resolves to nothing. -/
def Reached.dropEvent (r : Reached) : Event :=
  match Implied.ofValue? r.key r.value with
  | none => .unmatchedEntry r.key r.value.shape
  | some implied => .unregisteredKind r.key implied.kind

namespace Visit

/-- The leaf that comes of the visit. -/
def leaf? (table : QueryTable) (visit : Visit) : Option Leaf :=
  visit.reached?.bind (Reached.leaf? table)

/-- The leaf that comes of the visit of an entry below these joining keys. -/
def leafUnder? (table : QueryTable) (joins : List Join) (visit : Visit) : Option Leaf :=
  visit.reached?.bind fun r => if r.joins = joins then r.leaf? table else none

/-- The event that comes of the visit. -/
def event? (table : QueryTable) : Visit → Option Event
  | .entry r => if (r.leaf? table).isSome then none else some r.dropEvent
  | .strayKey key => some (.strayKey key)
  | .strayJoin join value => some (.strayJoin join.key value.shape)

end Visit

/-- The leaves in the clause lists that a path of joining keys leads to, from left to right. -/
def Query.leavesUnder : List Join → Query → List Leaf
  | [], .leaf l => [l]
  | join :: joins, .bool clauses => (clauses.get join).flatMap (leavesUnder joins)
  | _, _ => []

/-- The query and the events account for all that the compiler came to. -/
structure Accounts (table : QueryTable) (n : Notation) (query : Query) (events : List Event) :
    Prop where
  /-- No entry that is reached fails. -/
  resolves : ∀ r ∈ n.reached, ∃ leaf, (resolve table r.key r.value).result = .ok leaf
  stands : query.StandsFor table n
  leaves : query.leaves.Perm (n.reached.filterMap (Reached.leaf? table))
  placed : ∀ joins, query.leavesUnder joins =
    (n.reached.filter (·.joins = joins)).filterMap (Reached.leaf? table)
  events : events = n.visits.filterMap (Visit.event? table)

section
variable {table : QueryTable}

/-! ## Events -/

theorem events_resolve {key : String} {value : Value} {leaf : Option Leaf}
    (h : (resolve table key value).result = .ok leaf) (joins : List Join) :
    (resolve table key value).events =
      if leaf.isSome then [] else [(Reached.mk joins key value).dropEvent] := by
  have hkind : ∀ {kind : QueryKind} {argument : Value},
      (Logged.ofExcept ((kind.leaf argument).map some)).result = .ok leaf → leaf.isSome = true := by
    intro kind argument h
    obtain ⟨l, -, rfl⟩ := Except.map_eq_ok.1 h
    rfl
  unfold resolve at h ⊢
  unfold Reached.dropEvent
  cases hk : table.lookup? key with
  | some kind =>
    rw [hk] at h
    rw [if_pos (hkind h)]
    rfl
  | none =>
    rw [hk] at h
    cases hi : Implied.ofValue? key value with
    | none =>
      rw [hi] at h
      cases h
      rfl
    | some implied =>
      rw [hi] at h
      cases hn : table.lookup? implied.kind with
      | some kind =>
        simp only [hn] at h ⊢
        rw [if_pos (hkind h)]
        rfl
      | none =>
        simp only [hn] at h ⊢
        cases h
        rfl

theorem Visit.events_run {visit : Visit} (h : (visit.run table).result = .ok ()) :
    (visit.run table).events = (visit.event? table).toList := by
  cases visit with
  | strayKey key => rfl
  | strayJoin join value => rfl
  | entry r =>
    obtain ⟨leaf, hl⟩ := Logged.result_trace_eq_ok.1 h
    rw [Visit.run, Logged.events_trace, events_resolve hl r.joins, Visit.event?, Reached.leaf?,
      resolved?_of_ok hl]
    split <;> rfl

/-! ## Leaves of visits -/

theorem Visit.leaf?_comp_under (join : Join) :
    leaf? table ∘ under join = leaf? table := by
  funext visit
  cases visit <;> rfl

/-- Below another key than the first of a path nothing is under the path. -/
theorem Visit.leafUnder?_comp_under (join own : Join) (joins : List Join) :
    leafUnder? table (own :: joins) ∘ under join =
      if join = own then leafUnder? table joins else fun _ => none := by
  funext visit
  by_cases h : join = own
  · cases visit <;> simp [under, leafUnder?, reached?, Reached.leaf?, h]
  · cases visit <;> simp [under, leafUnder?, reached?, h]

theorem Visit.leafUnder?_root_comp_under (join : Join) :
    leafUnder? table [] ∘ under join = fun _ => none := by
  funext visit
  cases visit <;> simp [under, leafUnder?, reached?]

theorem visits_ofElement (bag : Bag) :
    (Item.ofElement bag).flatMap Item.visits = Visit.ofElement bag := by
  unfold Item.ofElement Visit.ofElement
  split
  · simp [Item.visits]
  · rw [Item.ofEntries, List.flatMap_map, Visit.ofEntries, List.map_eq_flatMap]
    rfl

theorem visits_ofElements (bags : List Bag) :
    (bags.flatMap Item.ofElement).flatMap Item.visits = Visit.ofElements bags := by
  induction bags with
  | nil => rfl
  | cons bag rest ih =>
    rw [List.flatMap_cons, List.flatMap_append, visits_ofElement, ih, Visit.ofElements_cons]

/-- The visits of the value of a joining key are those of its items, as far as entries go. -/
theorem filterMap_ofValue {α : Type} {f : Visit → Option α}
    (hf : ∀ join value, f (.strayJoin join value) = none) (join : Join) (value : Value) :
    (Visit.ofValue join value).filterMap f =
      ((Item.ofValue value).flatMap Item.visits).filterMap (f ∘ Visit.under join) := by
  cases value with
  | list bags =>
    rw [Visit.ofValue_list, List.filterMap_map, ← visits_ofElements]
    rfl
  | nested bag =>
    rw [Visit.ofValue_nested, List.filterMap_map, Item.ofValue_nested, visits_ofElement]
  | array items => cases items <;> simp [Visit.ofValue, Item.ofValue, Value.elements, hf]
  | scalar s => simp [Visit.ofValue, Item.ofValue, Value.elements, hf]

/-- The visits of a map that joins are those of its items, entry by entry. -/
theorem filterMap_ofJoined {α : Type} {f : Visit → Option α}
    (hkey : ∀ key, f (.strayKey key) = none)
    (hjoin : ∀ join value, f (.strayJoin join value) = none) (bag : Bag) :
    (Visit.ofJoined bag).filterMap f = bag.flatMap fun e =>
      match Join.ofKey? e.1 with
      | none => []
      | some join =>
        ((Item.ofValue e.2).flatMap Item.visits).filterMap (f ∘ Visit.under join) := by
  induction bag with
  | nil => rfl
  | cons e rest ih =>
    obtain ⟨key, value⟩ := e
    rw [List.flatMap_cons, ← ih]
    cases hk : Join.ofKey? key with
    | none =>
      rw [Visit.ofJoined_stray hk, List.filterMap_cons, hkey]
      rfl
    | some join => rw [Visit.ofJoined_join hk, List.filterMap_append, filterMap_ofValue hjoin]

/-- The leaves of the items. -/
def Item.leavesOf (table : QueryTable) (items : List Item) : List Leaf :=
  (items.flatMap Item.visits).filterMap (Visit.leaf? table)

/-- The leaves of a map that joins are those of its items under the four keys. -/
theorem filterMap_ofJoined_perm (bag : Bag) :
    ((Visit.ofJoined bag).filterMap (Visit.leaf? table)).Perm
      (Item.leavesOf table (Item.under .must bag) ++ Item.leavesOf table (Item.under .mustNot bag)
        ++ Item.leavesOf table (Item.under .should bag)
        ++ Item.leavesOf table (Item.under .filter bag)) := by
  rw [List.perm_iff_count]
  intro l
  induction bag with
  | nil => rfl
  | cons e rest ih =>
    obtain ⟨key, value⟩ := e
    simp only [Item.under_cons]
    cases hk : Join.ofKey? key with
    | none =>
      rw [Visit.ofJoined_stray hk]
      exact ih
    | some join =>
      rw [Visit.ofJoined_join hk, List.filterMap_append, filterMap_ofValue fun _ _ => rfl,
        Visit.leaf?_comp_under, List.count_append, ih]
      cases join <;>
        simp only [Item.leavesOf, Option.some.injEq, reduceCtorEq, ↓reduceIte, List.nil_append,
          List.flatMap_append, List.filterMap_append, List.count_append] <;>
        omega

/-- The leaves of a map that joins below one of its keys are those of the items under the key. -/
theorem filterMap_ofJoined_under (join : Join) (joins : List Join) (bag : Bag) :
    (Visit.ofJoined bag).filterMap (Visit.leafUnder? table (join :: joins)) =
      ((Item.under join bag).flatMap Item.visits).filterMap (Visit.leafUnder? table joins) := by
  rw [filterMap_ofJoined (fun _ => rfl) (fun _ _ => rfl), Item.under, List.flatMap_assoc,
    List.filterMap_flatMap]
  refine congrArg (bag.flatMap ·) (funext fun e => ?_)
  cases Join.ofKey? e.1 with
  | none => rfl
  | some own =>
    simp only [Visit.leafUnder?_comp_under, Option.some.injEq]
    by_cases h : own = join
    · rw [if_pos h, if_pos h]
    · rw [if_neg h, if_neg h]
      exact List.filterMap_eq_nil_iff.2 fun _ _ => rfl

theorem filterMap_ofJoined_root (bag : Bag) :
    (Visit.ofJoined bag).filterMap (Visit.leafUnder? table []) = [] := by
  rw [filterMap_ofJoined (fun _ => rfl) (fun _ _ => rfl)]
  refine List.flatMap_eq_nil_iff.2 fun e _ => ?_
  split
  · rfl
  · rw [Visit.leafUnder?_root_comp_under]
    exact List.filterMap_eq_nil_iff.2 fun _ _ => rfl

theorem Dropped.leaf?_eq_none {item : Item} (h : Dropped table item) :
    ∀ visit ∈ item.visits, visit.leaf? table = none := by
  induction h with
  | entry hl =>
    intro visit hv
    cases List.mem_singleton.1 hv
    exact hl
  | @joined bag _ ih =>
    have hnil : ∀ join, Item.leavesOf table (Item.under join bag) = [] := by
      intro join
      refine List.filterMap_eq_nil_iff.2 fun visit hv => ?_
      obtain ⟨item, hi, hv⟩ := List.mem_flatMap.1 hv
      exact ih join item hi visit hv
    have hperm : ((Visit.ofJoined bag).filterMap (Visit.leaf? table)).Perm _ :=
      filterMap_ofJoined_perm bag
    rw [hnil, hnil, hnil, hnil] at hperm
    exact List.filterMap_eq_nil_iff.1 hperm.eq_nil

theorem Dropped.filterMap_leafUnder? {item : Item} (h : Dropped table item) (joins : List Join) :
    item.visits.filterMap (Visit.leafUnder? table joins) = [] := by
  refine List.filterMap_eq_nil_iff.2 fun visit hv => ?_
  have hl := h.leaf?_eq_none visit hv
  unfold Visit.leaf? at hl
  unfold Visit.leafUnder?
  cases hr : visit.reached? with
  | none => rfl
  | some r =>
    rw [hr] at hl
    exact ite_eq_right_iff.2 fun _ => hl

/-! ## Leaves of queries -/

mutual

/-- A query has the leaves of what it is built for, each once. -/
theorem Stands.leaves_perm : ∀ {item : Item} {query : Query}, Stands table item query →
    query.leaves.Perm (item.visits.filterMap (Visit.leaf? table))
  | _, _, .entry hl => by
    simp [Query.leaves, Item.visits, Visit.leaf?, Visit.reached?, Reached.leaf?, hl]
  | .joined bag, .bool ⟨must, mustNot, should, filter⟩, .joined _ hf =>
    ((((Fills.leaves_perm (hf .must)).append (Fills.leaves_perm (hf .mustNot))).append
      (Fills.leaves_perm (hf .should))).append (Fills.leaves_perm (hf .filter))).trans
      (filterMap_ofJoined_perm bag).symm

theorem Fills.leaves_perm : ∀ {items : List Item} {queries : List Query},
    Fills table items queries → (Query.listLeaves queries).Perm (Item.leavesOf table items)
  | _, _, .nil => .nil
  | _, _, .keep hs hf => by
    rw [Query.listLeaves, Item.leavesOf, List.flatMap_cons, List.filterMap_append]
    exact (Stands.leaves_perm hs).append (Fills.leaves_perm hf)
  | _, _, .drop hd hf => by
    rw [Item.leavesOf, List.flatMap_cons, List.filterMap_append,
      List.filterMap_eq_nil_iff.2 hd.leaf?_eq_none]
    exact Fills.leaves_perm hf

end

mutual

/-- Under a path of joining keys, a query has the leaves of the entries below them, in their
order. -/
theorem Stands.leavesUnder_eq : ∀ {item : Item} {query : Query}, Stands table item query →
    ∀ joins, query.leavesUnder joins = item.visits.filterMap (Visit.leafUnder? table joins)
  | _, _, .entry hl, joins => by
    cases joins <;>
      simp [Query.leavesUnder, Item.visits, Visit.leafUnder?, Visit.reached?, Reached.leaf?, hl]
  | .joined bag, _, .joined _ _, [] => (filterMap_ofJoined_root bag).symm
  | .joined bag, _, .joined _ hf, join :: joins => by
    rw [Query.leavesUnder, Fills.leavesUnder_eq (hf join) joins, Item.visits,
      filterMap_ofJoined_under]

theorem Fills.leavesUnder_eq : ∀ {items : List Item} {queries : List Query},
    Fills table items queries → ∀ joins, queries.flatMap (Query.leavesUnder joins) =
      (items.flatMap Item.visits).filterMap (Visit.leafUnder? table joins)
  | _, _, .nil, _ => rfl
  | _, _, .keep hs hf, joins => by
    rw [List.flatMap_cons, List.flatMap_cons, List.filterMap_append, Stands.leavesUnder_eq hs joins,
      Fills.leavesUnder_eq hf joins]
  | _, _, .drop hd hf, joins => by
    rw [List.flatMap_cons, List.filterMap_append, hd.filterMap_leafUnder? joins,
      Fills.leavesUnder_eq hf joins, List.nil_append]

end

theorem Query.StandsFor.leaves_perm {n : Notation} {query : Query} (h : query.StandsFor table n) :
    query.leaves.Perm (n.visits.filterMap (Visit.leaf? table)) := by
  rcases h with h | ⟨h, rfl⟩
  · exact h.leaves_perm
  · rw [Notation.visits, List.filterMap_eq_nil_iff.2 h.leaf?_eq_none]
    exact .nil

theorem Query.StandsFor.leavesUnder_eq {n : Notation} {query : Query}
    (h : query.StandsFor table n) (joins : List Join) :
    query.leavesUnder joins = n.visits.filterMap (Visit.leafUnder? table joins) := by
  rcases h with h | ⟨h, rfl⟩
  · exact h.leavesUnder_eq joins
  · rw [Notation.visits, h.filterMap_leafUnder? joins]
    cases joins <;> rfl

/-! ## The account -/

theorem Notation.reached_leaf? (n : Notation) :
    n.reached.filterMap (Reached.leaf? table) = n.visits.filterMap (Visit.leaf? table) := by
  rw [reached, List.filterMap_filterMap]
  rfl

theorem Notation.reached_leafUnder? (n : Notation) (joins : List Join) :
    (n.reached.filter (·.joins = joins)).filterMap (Reached.leaf? table) =
      n.visits.filterMap (Visit.leafUnder? table joins) := by
  rw [reached, List.filterMap_filter, List.filterMap_filterMap]
  simp only [decide_eq_true_eq]
  rfl

/-- **A compilation that succeeds accounts for everything it comes to**: every entry is one leaf or
one event, and there are no other leaves and events. -/
theorem compile_accounts {table : QueryTable} {n : Notation} {query : Query} {events : List Event}
    (h : Query.compile table n = ⟨events, .ok query⟩) : Accounts table n query events := by
  have hstands : query.StandsFor table n := compile_stands (by rw [h])
  have hrun : (forM n.visits (Visit.run table)).result = .ok () := by
    rw [← trace_compile, Logged.result_trace_eq_ok, h]
    exact ⟨query, rfl⟩
  exact {
    resolves := by
      intro r hr
      obtain ⟨visit, hv, hr⟩ := List.mem_filterMap.1 hr
      cases visit with
      | entry r' =>
        cases hr
        exact Logged.result_trace_eq_ok.1 (Logged.result_forM_eq_ok.1 hrun _ hv)
      | _ => cases hr
    stands := hstands
    leaves := by rw [n.reached_leaf?]; exact hstands.leaves_perm
    placed := fun joins => by rw [n.reached_leafUnder?]; exact hstands.leavesUnder_eq joins
    events := by
      rw [← Logged.events_forM (fun _ => Visit.events_run) hrun, ← trace_compile,
        Logged.events_trace, h] }

end

/-- Ranges and sets of values are the only kinds. -/
def rangesAndSets : QueryTable where
  kinds := [("range", ⟨"range", [], .ternary, "field", false, QueryKind.buildRange⟩),
    ("terms", ⟨"terms", [], .binary, "query", true, QueryKind.buildTerms⟩)]
  aliases := []
  builders := []

/-- Three leaves, of which one is two joining keys deep, and an event of every kind. -/
theorem compile_accounts_scattered :
    let n : Notation := .map [
      ("colour", .ofString "red"),
      ("filter", .ofString "x"),
      ("must", .nested [("age", .nested [("gte", .ofString "18")]), ("gone", .scalar .null),
        ("name", .ofString "x")]),
      ("should", .list [[("must_not", .nested [("id", .array [.string "1", .string "2"])])],
        [("id", .array [.string "3"])], [("must", .nested [("gone", .scalar .null)])]])]
    let terms (ids : List Scalar) : Query := .leaf ⟨"terms", some "id",
      [("field", .ofString "id"), ("query", .array ids)], .terms "id" (ids.map Scalar.toJson) []⟩
    let query : Query := .bool {
      must := [.leaf ⟨"range", some "age", [("field", .ofString "age"), ("gte", .ofString "18")],
        .range "age" (some ⟨.string "18", true⟩) none []⟩]
      should := [.bool { mustNot := [terms [.string "1", .string "2"]] }, terms [.string "3"]] }
    let events : List Event := [.strayKey "colour", .strayJoin "filter" .scalar,
      .unmatchedEntry "gone" .null, .unregisteredKind "name" "term", .unmatchedEntry "gone" .null]
    Query.compile rangesAndSets n = ⟨events, .ok query⟩ ∧
      Accounts rangesAndSets n query events := by
  intro n terms query events
  have h : Query.compile rangesAndSets n = ⟨events, .ok query⟩ := rfl
  exact ⟨h, compile_accounts h⟩

end SearchNotation
