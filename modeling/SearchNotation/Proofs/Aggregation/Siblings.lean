import SearchNotation.Proofs.Aggregation.Blame
import SearchNotation.Proofs.Query.Failure

/-!
# Siblings and their names

Siblings are written as one object with a member for each name, so a name that occurs twice would
cost an aggregation. The compiler refuses such siblings: in a tree that compiles the names at every
level are different (`sound_of_level`), and then the object of a level has one member for each of
the siblings (`Sound.written`).

Conversely, a repeated name is reported only where two entries at one level of the notation get that
name (`repeated_of_compile_eq_error`). The constructors of the standard kinds report errors about
arguments and nothing else (`construct_standard`); what another constructor makes of the parameters
that it is handed is its own affair (`Notation.ForeignError`).
-/

set_option autoImplicit false

namespace SearchNotation

open Aggregation (plan known checkParams)

/-! ## Levels -/

/-- The levels of a tree: the siblings at the top, and the children of each aggregation. -/
inductive Aggregation.Level (roots : List Aggregation) : List Aggregation → Prop
  | top : Level roots roots
  | children {siblings : List Aggregation} {a : Aggregation} :
      Level roots siblings → a ∈ siblings → Level roots a.children

/-- The levels of a notation: the top, and what the plan of an entry of a kind in use asks for. -/
inductive Notation.Level (registry : Registry) (n : Notation) : Notation → Prop
  | top : Level registry n n
  | sub {m : Notation} {key : String} {value : Value} {kind : AggregationKind}
      {p : Aggregation.Plan} : Level registry n m → (key, value) ∈ m.entries →
      registry.aggregations.lookup? key = some kind → plan kind value = .ok p →
      Level registry n p.sub

/-- The name that a value gives to an aggregation of a kind. -/
def AggregationKind.givenName? (kind : AggregationKind) (value : Value) : Option String :=
  match plan kind value with
  | .ok p => some p.name
  | .error _ => none

/-- The names that the entries of kinds in use get at the top level, in their order. -/
def Notation.givenNames (registry : Registry) (n : Notation) : List String :=
  (known registry n.entries).filterMap fun e => e.1.givenName? e.2

theorem Aggregation.Level.cases_top {roots siblings : List Aggregation}
    (h : Level roots siblings) :
    siblings = roots ∨ ∃ a ∈ roots, Level a.children siblings := by
  induction h with
  | top => exact .inl rfl
  | @children siblings a _ ha ih =>
    rcases ih with rfl | ⟨r, hr, hl⟩
    · exact .inr ⟨a, ha, .top⟩
    · exact .inr ⟨r, hr, hl.children ha⟩

theorem Notation.Level.trans {registry : Registry} {n m k : Notation}
    (h : n.Level registry m) (h' : m.Level registry k) : n.Level registry k := by
  induction h' with
  | top => exact h
  | sub _ he hl hp ih => exact .sub ih he hl hp

/-! ## Trees that compile -/

namespace Aggregation

/-- The siblings have different names, and each is of a kind in use. -/
structure Sound (registry : Registry) (siblings : List Aggregation) : Prop where
  names : (siblings.map name).Nodup
  kinds : ∀ a ∈ siblings, ∃ key kind, registry.aggregations.lookup? key = some kind ∧
    a.engineName = kind.engineName

/-- Nothing is lost in writing: the object of the siblings has one member for each of them, and each
holds its body and, if it has children, their object. -/
structure Written (siblings : List Aggregation) : Prop where
  names : (siblings.map name).Nodup
  members : ∃ members, siblingsToJson siblings = .object members ∧
    members.Perm (siblings.map fun a => (a.name, a.toJson))
  own : ∀ a ∈ siblings, ∃ members, a.toJson = .object members ∧
    members.Perm ((a.engineName, a.body) ::
      if a.children.isEmpty then [] else [("aggs", siblingsToJson a.children)])

variable {registry : Registry}

/-- **The siblings at every level have different names.** -/
theorem sound_of_level (n : Notation) : ∀ {roots : List Aggregation},
    (compile registry n).result = .ok roots →
      ∀ {siblings}, Level roots siblings → Sound registry siblings := by
  induction n using levelInduction with
  | step n ih =>
  intro roots h siblings hl
  obtain ⟨ho, hn⟩ := compile_eq_ok_iff.1 h
  rcases hl.cases_top with rfl | ⟨a, ha, hl⟩
  · refine ⟨hn, fun a ha => ?_⟩
    obtain ⟨key, value, kind, p, -, hk, -, hr⟩ := exists_plan_of_mem ho ha
    exact ⟨key, kind, hk, hr.engineName⟩
  · obtain ⟨key, value, kind, p, he, -, hp, hr⟩ := exists_plan_of_mem ho ha
    exact ih (key, value) he kind p hp hr.children hl

theorem membersOf_eq_map (siblings : List Aggregation) :
    membersOf siblings = siblings.map fun a => (a.name, a.toJson) := by
  induction siblings with
  | nil => rfl
  | cons a rest ih => rw [membersOf, ih, List.map_cons]

theorem toJson_eq (a : Aggregation) : a.toJson = .object (
    if a.children.isEmpty then [(a.engineName, a.body)]
    else Dict.insert [(a.engineName, a.body)] "aggs" (siblingsToJson a.children)) := by
  obtain ⟨kind, name, params, children, engineName, body⟩ := a
  cases children <;> rfl

/-- Different names are all kept, and no engine's name is in the way of the children. -/
theorem Sound.written {siblings : List Aggregation} (h : Sound registry siblings)
    (hE : ∀ key kind, registry.aggregations.lookup? key = some kind → kind.engineName ≠ "aggs") :
    Written siblings := by
  refine ⟨h.names, ⟨_, rfl, ?_⟩, fun a ha => ⟨_, a.toJson_eq, ?_⟩⟩
  · have hkeys : (Dict.keys (membersOf siblings)).Nodup := by
      rw [membersOf_eq_map, Dict.keys, List.map_map]
      exact h.names
    rw [← membersOf_eq_map]
    exact Dict.perm_ofList hkeys
  · obtain ⟨key, kind, hk, he⟩ := h.kinds a ha
    have hne : ∀ e ∈ [(a.engineName, a.body)], e.1 ≠ "aggs" := by
      rw [List.forall_mem_singleton, he]
      exact hE key kind hk
    split
    · exact .refl _
    · exact (Dict.perm_insert hne _).trans (.swap _ _ _)

end Aggregation

/-! ## Errors of constructors -/

/-- An error that names a kind is about an argument of it. -/
theorem CompileError.isArgument_of_kind? {e : CompileError} {name : String}
    (h : e.kind? = some name) : e.IsArgument := by
  cases e <;> first
    | exact trivial
    | cases h

namespace AggregationKind

variable {table : QueryTable} {params : Bag} {e : CompileError}

/-- **The standard constructors report errors about arguments**, and those that embedded queries
fail with in the constructors of their kinds. -/
theorem construct_standard : ∀ kind ∈ AggregationKind.standard,
    (kind.construct table params).result = .error e →
      e.IsArgument ∨ ∃ bag ∈ kind.queriesIn params, ∃ query,
        (Notation.map bag).FailsIn table query e := by
  intro kind hk h
  obtain ⟨before, bag, after, hsplit, -, hfails⟩ | hkind := construct_blame hk h
  · refine (Query.compile_eq_error hfails).imp_right fun hquery => ⟨bag, ?_, hquery⟩
    rw [hsplit]
    exact List.mem_append_right _ (.head _)
  · exact .inl (CompileError.isArgument_of_kind? hkind)

/-- The constructor is none of the standard ones. -/
def Foreign (kind : AggregationKind) : Prop :=
  ∀ standard ∈ AggregationKind.standard, standard.construct ≠ kind.construct

theorem not_foreign_of_mem {kind : AggregationKind} (h : kind ∈ AggregationKind.standard) :
    ¬ kind.Foreign := fun hforeign => hforeign kind h rfl

end AggregationKind

namespace Notation

variable {registry : Registry} {n : Notation} {kind : AggregationKind} {params : Bag}
  {e : CompileError}

/-- An entry at a level of the notation hands parameters to the constructor of a kind in use. -/
inductive Hands (registry : Registry) (n : Notation) : AggregationKind → Bag → Prop
  | entry {m : Notation} {key : String} {value : Value} {kind : AggregationKind}
      {p : Aggregation.Plan} (hm : n.Level registry m) (he : (key, value) ∈ m.entries)
      (hl : registry.aggregations.lookup? key = some kind) (hp : plan kind value = .ok p)
      (hc : checkParams kind p.params = .ok ()) : Hands registry n kind p.params

/-- A constructor that is none of the standard ones makes the error from parameters that the
notation hands to it: that of an aggregation, or that of a query which a standard aggregation
holds. -/
inductive ForeignError (registry : Registry) (n : Notation) (e : CompileError) : Prop
  | aggregation {kind : AggregationKind} {params : Bag} (h : n.Hands registry kind params)
      (hforeign : kind.Foreign)
      (he : (kind.construct registry.queries params).result = .error e)
  | query {kind standard : AggregationKind} {params bag : Bag} {query : QueryKind}
      (h : n.Hands registry kind params) (hstandard : standard ∈ AggregationKind.standard)
      (hsame : standard.construct = kind.construct) (hbag : bag ∈ standard.queriesIn params)
      (hforeign : query.Foreign) (he : (Notation.map bag).FailsIn registry.queries query e)

theorem Hands.foreignError (h : n.Hands registry kind params)
    (hc : (kind.construct registry.queries params).result = .error e) (he : ¬ e.IsArgument) :
    n.ForeignError registry e := by
  by_cases hs : ∃ standard ∈ AggregationKind.standard, standard.construct = kind.construct
  · obtain ⟨standard, hstandard, hsame⟩ := hs
    rw [← hsame] at hc
    obtain ha | ⟨bag, hbag, query, hquery⟩ :=
      AggregationKind.construct_standard standard hstandard hc
    · exact absurd ha he
    · exact .query h hstandard hsame hbag (hquery.foreign he) hquery
  · exact .aggregation h (fun standard hstandard hsame => hs ⟨standard, hstandard, hsame⟩) hc

/-- What is handed over below an entry is handed over. -/
theorem Hands.of_sub {key : String} {value : Value} {above : AggregationKind}
    {p : Aggregation.Plan} (h : p.sub.Hands registry kind params) (he : (key, value) ∈ n.entries)
    (hl : registry.aggregations.lookup? key = some above) (hp : plan above value = .ok p) :
    n.Hands registry kind params := by
  cases h with
  | entry hm he' hl' hp' hc => exact .entry ((Level.sub .top he hl hp).trans hm) he' hl' hp' hc

theorem ForeignError.of_sub {key : String} {value : Value} {p : Aggregation.Plan}
    (h : p.sub.ForeignError registry e) (he : (key, value) ∈ n.entries)
    (hl : registry.aggregations.lookup? key = some kind) (hp : plan kind value = .ok p) :
    n.ForeignError registry e := by
  cases h with
  | aggregation h hforeign hc => exact .aggregation (h.of_sub he hl hp) hforeign hc
  | query h hstandard hsame hbag hforeign hc =>
    exact .query (h.of_sub he hl hp) hstandard hsame hbag hforeign hc

/-- **With standard constructors alone** there is no such error. -/
theorem not_foreignError
    (hqueries : ∀ name kind, registry.queries.lookup? name = some kind → ¬ kind.Foreign)
    (haggregations : ∀ key kind, registry.aggregations.lookup? key = some kind → ¬ kind.Foreign) :
    ¬ n.ForeignError registry e := by
  intro h
  cases h with
  | aggregation h hforeign =>
    cases h with
    | entry _ _ hl => exact haggregations _ _ hl hforeign
  | query _ _ _ _ hforeign h =>
    obtain ⟨r, -, argument, params, hassigns, -⟩ := h
    obtain ⟨name, hl⟩ := hassigns.exists_lookup?
    exact hqueries name _ hl hforeign

end Notation

/-! ## Repeated names -/

namespace Aggregation

variable {registry : Registry}

theorem plan_argumentErrors (kind : AggregationKind) (value : Value) :
    ArgumentErrors (plan kind value) := by
  intro e h
  exact CompileError.isArgument_of_kind? (kind?_of_plan_eq_error h)

theorem checkParams_argumentErrors (kind : AggregationKind) (params : Bag) :
    ArgumentErrors (checkParams kind params) := by
  intro e h
  exact CompileError.isArgument_of_kind? (kind?_of_checkParams_eq_error h)

/-- The siblings have the names that their entries get. -/
theorem map_name_eq_givenNames {n : Notation} {siblings : List Aggregation}
    (h : (ofEntries registry n.entries).result = .ok siblings) :
    siblings.map name = n.givenNames registry := by
  rw [Notation.givenNames]
  replace h := ofEntries_eq_ok_iff.1 h
  generalize known registry n.entries = entries at h
  induction h with
  | nil => rfl
  | cons hv _ ih =>
    obtain ⟨p, hp, hr⟩ := ofValue_eq_ok_iff.1 hv
    rw [List.map_cons, ih, List.filterMap_cons, AggregationKind.givenName?, hp]
    simp only [hr.name]

/-- **The error of a repeated name** comes up where a level has two entries of that name. -/
theorem repeated_of_compile_eq_error {repeated : String} {n : Notation}
    (h : (compile registry n).result = .error (.duplicateName repeated)) :
      (∃ m, n.Level registry m ∧ 2 ≤ (m.givenNames registry).count repeated) ∨
        n.ForeignError registry (.duplicateName repeated) := by
  induction n using levelInduction with
  | step n ih =>
  rw [compile_eq] at h
  rcases Logged.result_bind_eq_error.1 h with h | ⟨siblings, ho, h⟩
  · obtain ⟨key, value, kind, he, hl, hv⟩ := ofEntries_eq_error h
    rcases ofValue_eq_error hv with hv | ⟨p, hp, hsub | hcheck | ⟨hcheck, hbuild⟩⟩
    · cases plan_argumentErrors kind value _ hv
    · refine (ih (key, value) he kind p hp hsub).imp ?_ fun h => h.of_sub he hl hp
      rintro ⟨m, hm, hcount⟩
      exact ⟨m, (Notation.Level.sub .top he hl hp).trans hm, hcount⟩
    · cases checkParams_argumentErrors kind p.params _ hcheck
    · have hhands : n.Hands registry kind p.params := .entry .top he hl hp hcheck
      exact .inr (hhands.foreignError hbuild nofun)
  · obtain ⟨name, hname, hcount⟩ := distinct_eq_error h
    cases hname
    rw [map_name_eq_givenNames ho] at hcount
    exact .inl ⟨n, .top, hcount⟩

/-- **No aggregation is lost in writing**, at any level of a tree that compiles; and a notation is
refused for a repeated name only if it has one, unless a constructor from elsewhere says so of what
the notation hands to it. -/
theorem compile_written {registry : Registry}
    (hE : ∀ key kind, registry.aggregations.lookup? key = some kind → kind.engineName ≠ "aggs")
    (n : Notation) :
    (∀ roots, (compile registry n).result = .ok roots →
      ∀ siblings, Level roots siblings → Written siblings) ∧
    ∀ repeated, (compile registry n).result = .error (.duplicateName repeated) →
      (∃ m, n.Level registry m ∧ 2 ≤ (m.givenNames registry).count repeated) ∨
        n.ForeignError registry (.duplicateName repeated) :=
  ⟨fun _ h _ hl => (sound_of_level n h hl).written hE,
    fun _ h => repeated_of_compile_eq_error h⟩

/-- Averages and terms are the only kinds. -/
def averagesAndTerms : Registry :=
  ⟨.empty, [("avg", .metric "avg"), ("terms", .metric "terms")]⟩

/-- Two averages below and one beside terms, of which one has a name of its own; without that name
the two below have one name. -/
theorem compile_written_averages :
    let cost : Value := .nested [("aggregation_key", .ofString "cost"), ("field", .ofString "cost")]
    let terms (average : Value) : Bag := [("terms", .nested [("field", .ofString "brand"),
      ("sub", .list [[("avg", .ofString "price")], [("avg", average)]])])]
    let average (name field : String) : Aggregation := ⟨"avg", name, [("field", .ofString field)],
      [], "avg", .object [("field", .string field)]⟩
    let below : List Aggregation := [average "avg" "price", average "cost" "cost"]
    let roots : List Aggregation := [⟨"terms", "terms", [("field", .ofString "brand")], below,
      "terms", .object [("field", .string "brand")]⟩, average "avg" "price"]
    let repeated : Notation := .map (terms (.ofString "cost"))
    (∀ key kind, averagesAndTerms.aggregations.lookup? key = some kind →
      kind.engineName ≠ "aggs") ∧
    ((compile averagesAndTerms (.list [terms cost, [("avg", .ofString "price")]])).result =
      .ok roots ∧ Level roots below ∧ Written roots ∧ Written below) ∧
    (compile averagesAndTerms repeated).result = .error (.duplicateName "avg") ∧
    ∃ m, repeated.Level averagesAndTerms m ∧ 2 ≤ (m.givenNames averagesAndTerms).count "avg" := by
  intro cost terms average below roots repeated
  have hE : ∀ key kind, averagesAndTerms.aggregations.lookup? key = some kind →
      kind.engineName ≠ "aggs" := by
    intro key kind h
    have hall : ∀ e ∈ averagesAndTerms.aggregations, e.2.engineName ≠ "aggs" := by decide
    exact hall _ (Dict.mem_of_get? h)
  have hok : (compile averagesAndTerms (.list [terms cost, [("avg", .ofString "price")]])).result =
      .ok roots := rfl
  have hrepeated : (compile averagesAndTerms repeated).result = .error (.duplicateName "avg") := rfl
  have hbelow : Level roots below := .children .top (.head _)
  have hwritten :=
    (compile_written hE (.list [terms cost, [("avg", .ofString "price")]])).1 roots hok
  have hforeign : ¬ repeated.ForeignError averagesAndTerms (.duplicateName "avg") := by
    refine Notation.not_foreignError (fun _ _ h => by cases h) fun key kind h => ?_
    have hall : ∀ e ∈ averagesAndTerms.aggregations, e.2 ∈ AggregationKind.standard := by
      simp [averagesAndTerms, AggregationKind.standard]
    exact AggregationKind.not_foreign_of_mem (hall _ (Dict.mem_of_get? h))
  exact ⟨hE, ⟨hok, hbelow, hwritten roots .top, hwritten below hbelow⟩, hrepeated,
    ((compile_written hE repeated).2 "avg" hrepeated).resolve_right hforeign⟩

end Aggregation

end SearchNotation
