import SearchNotation.Aggregation.Compile
import SearchNotation.Proofs.Dict
import SearchNotation.Proofs.Logged

/-!
# The levels of aggregations

Siblings come from the entries of all maps at one level of a notation (`Notation.entries`), and the
value of an entry is a plan: a name for the result, parameters, and the notation of the next level
(`Aggregation.plan`). In these words the compiler is three equations: siblings are compiled entry by
entry and must have different names (`compile_eq`), an entry is its plan carried out (`ofValue_eq`),
and a level does not depend on how its entries are spread over maps (`ofBags_eq`).

Every notation is reached from below (`levelInduction`), so what holds of a level if it holds
of the levels that its plans ask for holds of every notation.
-/

set_option autoImplicit false

namespace SearchNotation

/-- The entries of the bags at the root, one bag after the other. -/
def Notation.entries (n : Notation) : Bag := n.bags.flatten

namespace Aggregation

/-! ## Plans -/

/-- What an entry asks for. -/
structure Plan where
  /-- The name of the result. -/
  name : String
  params : Bag
  /-- The notation of the sub-aggregations. -/
  sub : Notation

/-- The notation that a value under `subKey` stands for. -/
def subNotation (kind : AggregationKind) : Value → Except CompileError Notation
  | .scalar .null | .array [] => .ok .null
  | .nested bag => .ok (.map bag)
  | .list bags => .ok (.list bags)
  | other => .error (.invalidArgument kind.name subKey .objectOrList other.shape)

/-- The notation that a bag holds under `subKey`, if anything. -/
def subOf (kind : AggregationKind) (bag : Bag) : Except CompileError Notation :=
  match Dict.get? bag subKey with
  | none => .ok .null
  | some value => subNotation kind value

/-- The plan that a value stands for. -/
def plan (kind : AggregationKind) : Value → Except CompileError Plan
  | .scalar .null => .ok ⟨kind.name, [], .null⟩
  | .scalar s => .ok ⟨kind.name, [("field", .scalar s)], .null⟩
  | .nested bag => do
    let name ← resultName kind bag
    let sub ← subOf kind bag
    return ⟨name, Dict.without bag [subKey, nameKey], sub⟩
  | other => .error (.invalidArgument kind.name "parameters" .fieldOrObject other.shape)

variable {registry : Registry} {kind : AggregationKind}

theorem plan_nested {bag : Bag} {name : String} {sub : Notation}
    (hname : resultName kind bag = .ok name) (hsub : subOf kind bag = .ok sub) :
    plan kind (.nested bag) = .ok ⟨name, Dict.without bag [subKey, nameKey], sub⟩ := by
  rw [plan, hname, hsub]
  rfl

/-! ## The compiler level by level -/

theorem ofEntries_unknown {key : String} (h : registry.aggregations.lookup? key = none)
    (value : Value) (rest : Bag) : ofEntries registry ((key, value) :: rest) =
      Logged.after (.unknownAggregation key) () >>= fun _ => ofEntries registry rest := by
  rw [ofEntries, h]

theorem ofEntries_known {key : String} (h : registry.aggregations.lookup? key = some kind)
    (value : Value) (rest : Bag) : ofEntries registry ((key, value) :: rest) = do
      let first ← ofValue registry kind value
      let others ← ofEntries registry rest
      return first :: others := by
  rw [ofEntries, h]

theorem ofEntries_append (xs ys : Bag) : ofEntries registry (xs ++ ys) = do
    let first ← ofEntries registry xs
    let others ← ofEntries registry ys
    return first ++ others := by
  induction xs with
  | nil => simp [ofEntries]
  | cons e xs ih =>
    obtain ⟨key, value⟩ := e
    cases h : registry.aggregations.lookup? key with
    | none => rw [List.cons_append, ofEntries_unknown h, ofEntries_unknown h, ih, bind_assoc]
    | some kind =>
      rw [List.cons_append, ofEntries_known h, ofEntries_known h, ih]
      simp only [bind_assoc, pure_bind, List.cons_append]

/-- **A level does not depend on how its entries are spread over maps.** -/
theorem ofBags_eq (bags : List Bag) : ofBags registry bags = ofEntries registry bags.flatten := by
  induction bags with
  | nil => rw [ofBags, List.flatten_nil, ofEntries]
  | cons bag rest ih => rw [ofBags, ih, List.flatten_cons, ofEntries_append]

theorem compile_eq (n : Notation) : compile registry n =
    (ofEntries registry n.entries >>= fun siblings => Logged.ofExcept (distinct siblings)) := by
  cases n with
  | null => rfl
  | map bag => simp only [compile, Notation.entries, Notation.bags, List.flatten_singleton]
  | list bags => simp only [compile, Notation.entries, Notation.bags, ofBags_eq]

theorem subValue_eq (value : Value) : subValue registry kind value =
    (Logged.ofExcept (subNotation kind value) >>= compile registry) := by
  cases value with
  | scalar s => cases s <;> rfl
  | array items => cases items <;> rfl
  | nested bag => rfl
  | list bags => rfl

theorem subAggregations_eq (bag : Bag) : subAggregations registry kind bag =
    (Logged.ofExcept (subOf kind bag) >>= compile registry) := by
  induction bag with
  | nil => rfl
  | cons e rest ih =>
    obtain ⟨key, value⟩ := e
    rw [subAggregations, subOf, Dict.get?_cons]
    split
    · exact subValue_eq value
    · exact ih

/-- **An entry is its plan carried out.** -/
theorem ofValue_eq (value : Value) : ofValue registry kind value =
    (Logged.ofExcept (plan kind value) >>= fun p => compile registry p.sub >>= fun children =>
      build registry kind p.name p.params children) := by
  cases value with
  | scalar s => cases s <;> rfl
  | array items => rfl
  | list bags => rfl
  | nested bag =>
    rw [ofValue, subAggregations_eq, plan]
    cases resultName kind bag with
    | error e => rfl
    | ok name =>
      cases subOf kind bag with
      | error e => rfl
      | ok sub => rfl

/-! ## What a compilation that succeeds has built -/

/-- The aggregation is what a kind makes of a plan. -/
structure Realizes (registry : Registry) (kind : AggregationKind) (p : Plan) (a : Aggregation) :
    Prop where
  kindName : a.kind = kind.name
  name : a.name = p.name
  params : a.params = p.params
  children : (compile registry p.sub).result = .ok a.children
  engineName : a.engineName = kind.engineName
  checked : checkParams kind p.params = .ok ()
  body : (kind.construct registry.queries p.params).result = .ok a.body

theorem ofValue_eq_ok_iff {value : Value} {a : Aggregation} :
    (ofValue registry kind value).result = .ok a ↔
      ∃ p, plan kind value = .ok p ∧ Realizes registry kind p a := by
  simp only [ofValue_eq, build, Logged.result_bind_eq_ok, Logged.result_ofExcept,
    Logged.result_pure]
  constructor
  · rintro ⟨p, hp, children, hc, ⟨⟩, hk, body, hb, h⟩
    cases h
    exact ⟨p, hp, rfl, rfl, rfl, hc, rfl, hk, hb⟩
  · obtain ⟨kind', name, params, children, engineName, body⟩ := a
    rintro ⟨p, hp, rfl, rfl, rfl, hc, rfl, hk, hb⟩
    exact ⟨p, hp, children, hc, (), hk, body, hb, rfl⟩

/-- The kinds in use that entries name, each with the value of its entry. -/
def known (registry : Registry) (entries : Bag) : List (AggregationKind × Value) :=
  entries.filterMap fun e => (registry.aggregations.lookup? e.1).map (·, e.2)

theorem known_of_lookup? {key : String} (h : registry.aggregations.lookup? key = some kind)
    (value : Value) (rest : Bag) :
    known registry ((key, value) :: rest) = (kind, value) :: known registry rest := by
  simp [known, h]

theorem known_of_unknown {key : String} (h : registry.aggregations.lookup? key = none)
    (value : Value) (rest : Bag) : known registry ((key, value) :: rest) = known registry rest := by
  simp [known, h]

theorem mem_known {entries : Bag} {value : Value} (h : (kind, value) ∈ known registry entries) :
    ∃ key, (key, value) ∈ entries ∧ registry.aggregations.lookup? key = some kind := by
  obtain ⟨⟨key, value'⟩, he, hk⟩ := List.mem_filterMap.1 h
  obtain ⟨kind', hl, hv⟩ := Option.map_eq_some_iff.1 hk
  cases hv
  exact ⟨key, he, hl⟩

/-- The entries of kinds in use are compiled one after the other; the others add nothing. -/
theorem result_ofEntries (entries : Bag) : (ofEntries registry entries).result =
    ((known registry entries).mapM fun e => ofValue registry e.1 e.2).result := by
  induction entries with
  | nil => rfl
  | cons e rest ih =>
    obtain ⟨key, value⟩ := e
    cases h : registry.aggregations.lookup? key with
    | none =>
      rw [ofEntries_unknown h, known_of_unknown h, ← ih]
      rfl
    | some kind =>
      rw [ofEntries_known h, known_of_lookup? h, List.mapM_cons]
      exact Logged.result_bind_congr rfl fun first => Logged.result_bind_congr ih fun _ => rfl

/-- **One aggregation for each entry of a kind in use**, in their order. -/
theorem ofEntries_eq_ok_iff {entries : Bag} {siblings : List Aggregation} :
    (ofEntries registry entries).result = .ok siblings ↔
      List.Forall₂ (fun e a => (ofValue registry e.1 e.2).result = .ok a)
        (known registry entries) siblings := by
  rw [result_ofEntries, Logged.result_mapM_eq_ok]

/-- What was built for a level realizes the plan of one of its entries. -/
theorem exists_plan_of_mem {entries : Bag} {siblings : List Aggregation} {a : Aggregation}
    (h : (ofEntries registry entries).result = .ok siblings) (ha : a ∈ siblings) :
    ∃ key value kind p, (key, value) ∈ entries ∧
      registry.aggregations.lookup? key = some kind ∧ plan kind value = .ok p ∧
      Realizes registry kind p a := by
  obtain ⟨⟨kind, value⟩, hk, hv⟩ := exists_of_forall₂_of_mem (ofEntries_eq_ok_iff.1 h) ha
  obtain ⟨key, he, hl⟩ := mem_known hk
  obtain ⟨p, hp, hr⟩ := ofValue_eq_ok_iff.1 hv
  exact ⟨key, value, kind, p, he, hl, hp, hr⟩

/-! ## Different names -/

theorem repeatedName?_eq_none_iff {seen : List String} {siblings : List Aggregation} :
    repeatedName? seen siblings = none ↔
      (siblings.map name).Nodup ∧ ∀ a ∈ siblings, a.name ∉ seen := by
  induction siblings generalizing seen with
  | nil => simp [repeatedName?]
  | cons a rest ih =>
    rw [repeatedName?]
    split
    · next hs => simp [hs]
    · next hs =>
      simp only [ih, List.map_cons, List.nodup_cons, List.mem_map, List.mem_cons, not_or]
      grind

/-- A name that is repeated was there before or occurs twice. -/
theorem two_le_count_of_repeatedName? {seen : List String} {siblings : List Aggregation}
    {repeated : String} (h : repeatedName? seen siblings = some repeated) :
    2 ≤ (seen ++ siblings.map name).count repeated := by
  induction siblings generalizing seen with
  | nil => cases h
  | cons a rest ih =>
    rw [repeatedName?] at h
    split at h
    · next hs =>
      cases h
      have hseen : 1 ≤ seen.count a.name := List.one_le_count_iff.2 hs
      rw [List.count_append, List.map_cons, List.count_cons_self]
      omega
    · have hrest := ih h
      simp only [List.count_append, List.map_cons, List.count_cons] at hrest ⊢
      omega

theorem distinct_eq_ok_iff {siblings siblings' : List Aggregation} :
    distinct siblings = .ok siblings' ↔ (siblings.map name).Nodup ∧ siblings = siblings' := by
  have hnone := @repeatedName?_eq_none_iff [] siblings
  unfold distinct
  cases h : repeatedName? [] siblings with
  | none => simp_all
  | some name => simp_all

theorem distinct_eq_error {siblings : List Aggregation} {e : CompileError}
    (h : distinct siblings = .error e) :
    ∃ repeated, e = .duplicateName repeated ∧ 2 ≤ (siblings.map name).count repeated := by
  unfold distinct at h
  split at h
  · next repeated hr =>
    cases h
    exact ⟨repeated, rfl, by simpa using two_le_count_of_repeatedName? hr⟩
  · cases h

/-- **A level that compiles**: its entries do, and their names are different. -/
theorem compile_eq_ok_iff {n : Notation} {siblings : List Aggregation} :
    (compile registry n).result = .ok siblings ↔
      (ofEntries registry n.entries).result = .ok siblings ∧ (siblings.map name).Nodup := by
  simp only [compile_eq, Logged.result_bind_eq_ok, Logged.result_ofExcept, distinct_eq_ok_iff]
  constructor
  · rintro ⟨siblings', h, hn, rfl⟩
    exact ⟨h, hn⟩
  · rintro ⟨h, hn⟩
    exact ⟨siblings, h, hn, rfl⟩

/-! ## Where a compilation fails -/

theorem ofEntries_eq_error {entries : Bag} {e : CompileError}
    (h : (ofEntries registry entries).result = .error e) :
    ∃ key value kind, (key, value) ∈ entries ∧ registry.aggregations.lookup? key = some kind ∧
      (ofValue registry kind value).result = .error e := by
  rw [result_ofEntries] at h
  obtain ⟨before, ⟨kind, value⟩, after, hsplit, -, hv⟩ := Logged.result_mapM_eq_error.1 h
  have hmem : (kind, value) ∈ known registry entries := by
    rw [hsplit]
    exact List.mem_append_right _ (.head _)
  obtain ⟨key, he, hl⟩ := mem_known hmem
  exact ⟨key, value, kind, he, hl, hv⟩

/-- An entry fails in its plan, below it, in the check of its parameters or in its constructor. -/
theorem ofValue_eq_error {value : Value} {e : CompileError}
    (h : (ofValue registry kind value).result = .error e) :
    plan kind value = .error e ∨ ∃ p, plan kind value = .ok p ∧
      ((compile registry p.sub).result = .error e ∨ checkParams kind p.params = .error e ∨
        checkParams kind p.params = .ok () ∧
          (kind.construct registry.queries p.params).result = .error e) := by
  rw [ofValue_eq] at h
  rcases Logged.result_bind_eq_error.1 h with h | ⟨p, hp, h⟩
  · exact .inl h
  refine .inr ⟨p, hp, ?_⟩
  rcases Logged.result_bind_eq_error.1 h with h | ⟨children, -, h⟩
  · exact .inl h
  rcases Logged.result_bind_eq_error.1 h with h | ⟨_, hc, h⟩
  · exact .inr (.inl h)
  rcases Logged.result_bind_eq_error.1 h with h | ⟨body, -, h⟩
  · exact .inr (.inr ⟨hc, h⟩)
  · cases h

/-! ## Induction on levels -/

/-- What holds of the notations that the plans of a level ask for holds of the level. -/
def Hereditary (motive : Notation → Prop) : Prop :=
  ∀ n : Notation, (∀ e ∈ n.entries, ∀ kind p, plan kind e.2 = .ok p → motive p.sub) → motive n

/-- It holds of the notations below a value: that of its plan, and that which it stands for under
`subKey`. -/
def HoldsBelow (motive : Notation → Prop) (value : Value) : Prop :=
  (∀ kind p, plan kind value = .ok p → motive p.sub) ∧
    ∀ kind sub, subNotation kind value = .ok sub → motive sub

section
variable {motive : Notation → Prop}

theorem Hereditary.null (step : Hereditary motive) : motive .null := step .null nofun

mutual

theorem Hereditary.holdsBelow (step : Hereditary motive) : ∀ value : Value,
    HoldsBelow motive value
  | .scalar s => by
    constructor
    · intro kind p h
      cases s <;> cases h <;> exact step.null
    · intro kind sub h
      cases s <;> cases h
      exact step.null
  | .array items => by
    constructor
    · intro kind p h
      cases h
    · intro kind sub h
      cases items <;> cases h
      exact step.null
  | .nested bag => by
    have hbag := Hereditary.holdsBelowBag step bag
    constructor
    · intro kind p h
      obtain ⟨name, -, h⟩ := Except.bind_eq_ok.1 h
      obtain ⟨sub, hs, h⟩ := Except.bind_eq_ok.1 h
      cases h
      unfold subOf at hs
      split at hs
      · cases hs
        exact step.null
      · next value hv => exact (hbag _ (Dict.mem_of_get? hv)).2 kind sub hs
    · intro kind sub h
      cases h
      refine step _ fun e he => (hbag e ?_).1
      simpa [Notation.entries, Notation.bags] using he
  | .list bags => by
    have hbags := Hereditary.holdsBelowBags step bags
    constructor
    · intro kind p h
      cases h
    · intro kind sub h
      cases h
      refine step _ fun e he => ?_
      obtain ⟨bag, hb, he⟩ := List.mem_flatten.1 he
      exact (hbags bag hb e he).1

theorem Hereditary.holdsBelowBag (step : Hereditary motive) : ∀ bag : List (String × Value),
    ∀ e ∈ bag, HoldsBelow motive e.2
  | [], e, he => by cases he
  | (key, value) :: rest, e, he => by
    rcases List.mem_cons.1 he with rfl | he
    · exact Hereditary.holdsBelow step value
    · exact Hereditary.holdsBelowBag step rest e he

theorem Hereditary.holdsBelowBags (step : Hereditary motive) :
    ∀ bags : List (List (String × Value)), ∀ bag ∈ bags, ∀ e ∈ bag, HoldsBelow motive e.2
  | [], bag, hb => by cases hb
  | first :: rest, bag, hb => by
    rcases List.mem_cons.1 hb with he | hb
    · rw [he]
      exact Hereditary.holdsBelowBag step first
    · exact Hereditary.holdsBelowBags step rest bag hb

end

/-- **Induction on levels**: every notation is reached from below. -/
@[elab_as_elim]
theorem levelInduction (step : ∀ n : Notation,
    (∀ e ∈ n.entries, ∀ kind p, plan kind e.2 = .ok p → motive p.sub) → motive n)
    (n : Notation) : motive n := by
  refine step n fun e he => ?_
  obtain ⟨bag, hb, he⟩ := List.mem_flatten.1 he
  exact (Hereditary.holdsBelowBags step n.bags bag hb e he).1

end

end Aggregation

end SearchNotation
