import SearchNotation.Proofs.Query.Visits
import SearchNotation.Proofs.Registry.Lookup

/-!
# Disabled kinds and the queries that do not use them

A compilation depends on the table only through the entries that it comes to: tables by which every
entry resolves alike compile a notation alike (`Query.compile_congr`). An entry resolves alike where
both tables have the same kind under its key and, if that is none, under the kind that the shape of
its value implies (`resolve_congr`).

So disabling standard kinds makes no difference to a notation in which no entry is named for one of
them or implies one (`Query.compile_of_unused`): the query or the error stays, and so do the events.
-/

set_option autoImplicit false

namespace SearchNotation

open RegistryBuilder (claims)

/-! ## Tables that agree on what is reached -/

/-- The entry that is visited resolves alike by both tables. -/
def Visit.Agrees (table table' : QueryTable) : Visit → Prop
  | .entry r => resolve table r.key r.value = resolve table' r.key r.value
  | .strayKey _ | .strayJoin _ _ => True

section
variable {table table' : QueryTable}

@[simp] theorem Visit.agrees_under {join : Join} {visit : Visit} :
    (visit.under join).Agrees table table' ↔ visit.Agrees table table' := by
  cases visit <;> rfl

theorem Visit.forall_agrees_under {join : Join} {visits : List Visit}
    (h : ∀ visit ∈ visits.map (under join), visit.Agrees table table') :
    ∀ visit ∈ visits, visit.Agrees table table' :=
  fun _ hv => agrees_under.1 (h _ (List.mem_map_of_mem hv))

namespace Query

theorem entryLeaves_congr {bag : Bag}
    (h : ∀ visit ∈ Visit.ofEntries bag, visit.Agrees table table') :
    entryLeaves table bag = entryLeaves table' bag := by
  induction bag with
  | nil => rfl
  | cons e rest ih =>
    obtain ⟨hfirst, hrest⟩ := List.forall_mem_cons.1 h
    have hresolve : resolve table e.1 e.2 = resolve table' e.1 e.2 := hfirst
    rw [entryLeaves, entryLeaves, hresolve, ih hrest]

/-- Tables agree on an element if they agree on the clauses that its joining keys fill. -/
theorem element_congr_table {bag : Bag}
    (hj : (∀ visit ∈ Visit.ofJoined bag, visit.Agrees table table') →
      joinedClauses table bag = joinedClauses table' bag)
    (h : ∀ visit ∈ Visit.ofElement bag, visit.Agrees table table') :
    element table bag = element table' bag := by
  unfold element
  unfold Visit.ofElement at h
  split at h
  · next hjoin => rw [if_pos hjoin, if_pos hjoin, hj h]
  · next hjoin => rw [if_neg hjoin, if_neg hjoin, entryLeaves_congr h]

mutual

theorem joinedClauses_congr : ∀ bag : List (String × Value),
    (∀ visit ∈ Visit.ofJoined bag, visit.Agrees table table') →
      joinedClauses table bag = joinedClauses table' bag
  | [], _ => rfl
  | (key, value) :: rest, h => by
    cases hk : Join.ofKey? key with
    | none =>
      rw [Visit.ofJoined_stray hk] at h
      rw [joinedClauses_stray table hk, joinedClauses_stray table' hk,
        joinedClauses_congr rest (List.forall_mem_cons.1 h).2]
    | some join =>
      rw [Visit.ofJoined_join hk, List.forall_mem_append] at h
      rw [joinedClauses_join table hk, joinedClauses_join table' hk,
        joinedQueries_congr join value h.1, joinedClauses_congr rest h.2]

theorem joinedQueries_congr (join : Join) : ∀ value : Value,
    (∀ visit ∈ Visit.ofValue join value, visit.Agrees table table') →
      joinedQueries table join value = joinedQueries table' join value
  | .list bags, h => elements_congr bags (Visit.forall_agrees_under h)
  | .nested bag, h =>
    element_congr_table (joinedClauses_congr bag) (Visit.forall_agrees_under h)
  | .array [], _ => rfl
  | .array (_ :: _), _ => rfl
  | .scalar _, _ => rfl

theorem elements_congr : ∀ bags : List (List (String × Value)),
    (∀ visit ∈ Visit.ofElements bags, visit.Agrees table table') →
      elements table bags = elements table' bags
  | [], _ => rfl
  | bag :: rest, h => by
    rw [Visit.ofElements_cons, List.forall_mem_append] at h
    rw [elements_cons, elements_cons, element_congr_table (joinedClauses_congr bag) h.1,
      elements_congr rest h.2]

end

end Query

theorem Notation.agrees_of_reached {n : Notation}
    (h : ∀ r ∈ n.reached, resolve table r.key r.value = resolve table' r.key r.value) :
    ∀ visit ∈ n.visits, visit.Agrees table table' := by
  intro visit hv
  cases visit with
  | entry r => exact h r (List.mem_filterMap.2 ⟨_, hv, rfl⟩)
  | strayKey key => trivial
  | strayJoin join value => trivial

/-- **A compilation depends on the table only through what it comes to.** -/
theorem Query.compile_congr {n : Notation}
    (h : ∀ r ∈ n.reached, resolve table r.key r.value = resolve table' r.key r.value) :
    compile table n = compile table' n := by
  replace h := Notation.agrees_of_reached h
  unfold Notation.visits at h
  cases n with
  | null => rfl
  | list bags =>
    rw [Notation.item, visits_must, Visit.ofValue_list] at h
    rw [compile, compile, elements_congr bags (Visit.forall_agrees_under h)]
  | map bag =>
    by_cases hj : bag.hasJoin = true
    · rw [Notation.item_joined hj] at h
      rw [compile_joined table hj, compile_joined table' hj, joinedClauses_congr bag h]
    by_cases hlen : bag.length = 1
    · obtain ⟨⟨key, value⟩, rfl⟩ := List.length_eq_one_iff.1 hlen
      rw [Notation.item_entry hj] at h
      have hresolve : resolve table key value = resolve table' key value := h _ (.head _)
      have hnone : Join.ofKey? key = none := by simpa [Bag.hasJoin] using hj
      rw [compile_entry table hnone, compile_entry table' hnone, hresolve]
    · have hmany : ∀ key value, bag = [(key, value)] → False := fun _ _ he => hlen (he ▸ rfl)
      have hnone : bag.hasJoin = false := by simpa using hj
      rw [Notation.item_entries hj hmany, visits_must, Visit.ofValue_nested, Visit.ofElement,
        if_neg hj] at h
      rw [compile_entries table hnone hlen, compile_entries table' hnone hlen,
        entryLeaves_congr (Visit.forall_agrees_under h)]

/-! ## Entries that resolve alike -/

/-- An entry resolves alike by tables that have the same kind under its key and, where that is none,
under the kind that the shape of its value implies. -/
theorem resolve_congr {key : String} {value : Value}
    (hkey : table.lookup? key = table'.lookup? key)
    (himplied : table.lookup? key = none → ∀ implied, Implied.ofValue? key value = some implied →
      table.lookup? implied.kind = table'.lookup? implied.kind) :
    resolve table key value = resolve table' key value := by
  unfold resolve
  rw [← hkey]
  cases hk : table.lookup? key with
  | some kind => rfl
  | none =>
    cases hi : Implied.ofValue? key value with
    | none => rfl
    | some implied => simp only [himplied hk implied hi]

end

/-! ## Disabled standard kinds -/

/-- The name is one of a standard kind that is disabled, by the same or by another of its names. -/
def Disables (disabled : List String) (name : String) : Prop :=
  ∃ kind ∈ QueryKind.standard, claims kind name = true ∧
    ∃ other ∈ disabled, claims kind other = true

/-- The entry is named for a disabled kind; or it is named for no kind, and the shape of its value
implies a disabled one. -/
def Reached.Uses (disabled : List String) (r : Reached) : Prop :=
  Disables disabled r.key ∨ (∀ kind ∈ QueryKind.standard, claims kind r.key = false) ∧
    ∃ implied ∈ Implied.ofValue? r.key r.value, Disables disabled implied.kind

instance (disabled : List String) (name : String) : Decidable (Disables disabled name) :=
  inferInstanceAs (Decidable (∃ _ ∈ _, _))

instance (disabled : List String) (r : Reached) : Decidable (r.Uses disabled) :=
  inferInstanceAs (Decidable (_ ∨ _))

namespace Registry

variable (disabledQueries disabledAggregations : List String)

theorem lookup?_of_not_disables {name : String} (h : ¬ Disables disabledQueries name) :
    (standardWithout disabledQueries disabledAggregations).1.queries.lookup? name =
      standard.queries.lookup? name := by
  refine Option.ext fun kind => ?_
  rw [lookup?_standard, lookup?_standardWithout, mem_enabledStandard]
  constructor
  · rintro ⟨⟨hs, -⟩, hc⟩
    exact ⟨hs, hc⟩
  · rintro ⟨hs, hc⟩
    refine ⟨⟨hs, fun other ho => ?_⟩, hc⟩
    by_contra hclaims
    exact h ⟨kind, hs, hc, other, ho, by simpa using hclaims⟩

end Registry

namespace Query

/-- **Disabled kinds do not matter to a query that does not use them**: with and without them the
query is the same, or the error, and so are the events. -/
theorem compile_of_unused (disabledQueries disabledAggregations : List String) {n : Notation}
    (h : ∀ r ∈ n.reached, ¬ r.Uses disabledQueries) :
    compile (Registry.standardWithout disabledQueries disabledAggregations).1.queries n =
      compile Registry.standard.queries n := by
  refine (compile_congr fun r hr => ?_).symm
  obtain ⟨hkey, himplied⟩ := not_or.1 (h r hr)
  refine resolve_congr (Registry.lookup?_of_not_disables _ _ hkey).symm
    fun hnone implied hi => (Registry.lookup?_of_not_disables _ _ fun hd => ?_).symm
  -- The key finds nothing in the full table, so it names no standard kind at all.
  refine himplied ⟨fun kind hk => ?_, implied, hi, hd⟩
  by_contra hclaims
  rw [Registry.lookup?_standard.2 ⟨hk, by simpa using hclaims⟩] at hnone
  cases hnone

/-- No entry is named for common terms or for identifiers, since a key `ids` beside `must` is passed
over; the two leaves are of implied kinds, and the null implies none. -/
theorem compile_of_unused_implied :
    let n : Notation := .map [
      ("ids", .array [.string "1"]),
      ("must", .list [[("gone", .scalar .null), ("name", .ofString "x")],
        [("must_not", .nested [("age", .nested [("gte", .ofString "18")])])]])]
    let query : Query := .bool { must := [
      .leaf ⟨"term", some "name", [("field", .ofString "name"), ("query", .ofString "x")],
        .onField .term "name" (.string "x") []⟩,
      .bool { mustNot := [
        .leaf ⟨"range", some "age", [("field", .ofString "age"), ("gte", .ofString "18")],
          .range "age" (some ⟨.string "18", true⟩) none []⟩] }] }
    let disabled := ["common_terms", "ids"]
    (∀ r ∈ n.reached, ¬ r.Uses disabled) ∧
      compile (Registry.standardWithout disabled []).1.queries n =
        compile Registry.standard.queries n ∧
      compile Registry.standard.queries n =
        ⟨[.strayKey "ids", .unmatchedEntry "gone" .null], .ok query⟩ := by
  intro n query disabled
  have h : ∀ r ∈ n.reached, ¬ r.Uses disabled := by decide
  exact ⟨h, compile_of_unused disabled [] h, rfl⟩

end Query

end SearchNotation
