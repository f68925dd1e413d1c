import SearchNotation.Proofs.Logged
import SearchNotation.Proofs.Notation.Bag
import SearchNotation.Query.Standard

/-!
# What the standard constructors build

`Built bag p`: the predicate `p` comes from the parameters `bag`. There is a case for each form of
predicate, with what was read under the names of its arguments; everything else is an option. A
side of a range has the bound under the first of its keys that is present (`IsFirstBound`).
`built_of_construct` says that the standard constructors build nothing else.
-/

set_option autoImplicit false

namespace SearchNotation

namespace QueryKind

/-! ## What is read -/

/-- The bound of one side of a range, if a key of the side is present. -/
inductive IsFirstBound (bag : Bag) (keys : List BoundKey) : Option Bound → Prop
  | absent (hkeys : ∀ k ∈ keys, bag.present? k.key = none) : IsFirstBound bag keys none
  | present {before after : List BoundKey} {k : BoundKey} {s : Scalar}
      (hkeys : keys = before ++ k :: after)
      (hbefore : ∀ k' ∈ before, bag.present? k'.key = none)
      (hk : bag.present? k.key = some (.scalar s)) :
      IsFirstBound bag keys (some ⟨s.toJson, k.inclusive⟩)

/-- A predicate with the parameters that it is built from. -/
inductive Built (bag : Bag) : Predicate → Prop
  | onField {test : FieldTest} {field : String} {s : Scalar}
      (hfield : bag.presentText? "field" = some field)
      (hquery : bag.present? "query" = some (.scalar s)) :
      Built bag (.onField test field s.toJson (options bag ["field", "query"]))
  | terms {field : String} {value : Value} {items : List Scalar}
      (hfield : bag.presentText? "field" = some field)
      (hquery : bag.present? "query" = some value) (hitems : value.items? = some items) :
      Built bag (.terms field (items.map Scalar.toJson) (options bag ["field", "query"]))
  | range {field : String} {lower upper : Option Bound}
      (hfield : bag.presentText? "field" = some field)
      (hlower : IsFirstBound bag lowerBoundKeys lower)
      (hupper : IsFirstBound bag upperBoundKeys upper)
      (hbounded : lower ≠ none ∨ upper ≠ none) :
      Built bag (.range field lower upper (options bag ("field" :: boundKeys)))
  | fieldExists {field : String} (hfield : bag.presentText? "field" = some field) :
      Built bag (.fieldExists field (options bag ["field"]))
  | ids {value : Value} {items : List Scalar} (hvalues : bag.present? "values" = some value)
      (hitems : value.items? = some items) :
      Built bag (.ids ((items.filter (!·.isNull)).map Scalar.plainText) (options bag ["values"]))
  | queryString {text : String} (htext : bag.presentText? "query" = some text) :
      Built bag (.queryString text (options bag ["query"]))
  | simpleQueryString {text : String} (htext : bag.presentText? "query" = some text) :
      Built bag (.simpleQueryString text (options bag ["query"]))
  | mappingType {text : String} (htext : bag.presentText? "value" = some text) :
      Built bag (.mappingType text (options bag ["value"]))

/-! ## What is built -/

section
variable {bag : Bag} {p : Predicate}

theorem textArgument_eq_ok {kind key text : String} :
    textArgument kind bag key = .ok text ↔ bag.presentText? key = some text := by
  rw [Bag.presentText?_eq_some]
  unfold textArgument
  split
  · next s hs => simp [hs]
  · next other hne ho =>
    simp only [ho, reduceCtorEq, Option.some.injEq, false_iff, not_exists, not_and]
    rintro s rfl
    exact (hne s rfl).elim
  · next hnone => simp [hnone]

theorem firstBound_eq_ok {keys : List BoundKey} {bound : Option Bound}
    (h : firstBound bag keys = .ok bound) : IsFirstBound bag keys bound := by
  induction keys with
  | nil =>
    cases h
    exact .absent nofun
  | cons k rest ih =>
    unfold firstBound at h
    split at h
    · next hk =>
      cases ih h with
      | absent hrest => exact .absent (List.forall_mem_cons.2 ⟨hk, hrest⟩)
      | present hkeys hbefore hs =>
        subst hkeys
        exact .present (List.cons_append ..).symm (List.forall_mem_cons.2 ⟨hk, hbefore⟩) hs
    · next s hs =>
      cases h
      exact .present (List.nil_append _).symm nofun hs
    · cases h

theorem firstBound_eq_none {keys : List BoundKey} (h : firstBound bag keys = .ok none) :
    ∀ k ∈ keys, bag.hasPresent k.key = false := by
  cases firstBound_eq_ok h with
  | absent hkeys => exact fun k hk => Bag.hasPresent_eq_false.2 (hkeys k hk)

/-- The first bound that is present fails if it is no scalar. -/
theorem firstBound_eq_error {keys : List BoundKey} {e : CompileError}
    (h : firstBound bag keys = .error e) : ∃ k ∈ keys, ∃ value,
      bag.present? k.key = some value ∧ e = .invalidArgument "range" k.key .scalar value.shape := by
  induction keys with
  | nil => cases h
  | cons k rest ih =>
    unfold firstBound at h
    split at h
    · obtain ⟨k', hk', hvalue⟩ := ih h
      exact ⟨k', .tail _ hk', hvalue⟩
    · cases h
    · next value _ hvalue =>
      cases h
      exact ⟨k, .head _, value, hvalue, rfl⟩

theorem built_of_exists (h : buildExists bag = .ok p) : Built bag p := by
  obtain ⟨field, hfield, h⟩ := Except.bind_eq_ok.1 h
  cases h
  exact .fieldExists (textArgument_eq_ok.1 hfield)

theorem built_of_ids (h : buildIds bag = .ok p) : Built bag p := by
  unfold buildIds at h
  split at h
  · next s hs =>
    cases h
    have hnull : s.isNull = false := (Bag.present?_eq_some.1 hs).2
    have hids := Built.ids hs rfl
    simpa [hnull] using hids
  · next items hs =>
    cases h
    exact .ids hs rfl
  · cases h
  · cases h

theorem built_of_queryString (h : buildQueryString bag = .ok p) : Built bag p := by
  obtain ⟨text, htext, h⟩ := Except.bind_eq_ok.1 h
  cases h
  exact .queryString (textArgument_eq_ok.1 htext)

theorem built_of_simpleQueryString (h : buildSimpleQueryString bag = .ok p) : Built bag p := by
  obtain ⟨text, htext, h⟩ := Except.bind_eq_ok.1 h
  cases h
  exact .simpleQueryString (textArgument_eq_ok.1 htext)

theorem built_of_mappingType (h : buildMappingType bag = .ok p) : Built bag p := by
  obtain ⟨text, htext, h⟩ := Except.bind_eq_ok.1 h
  cases h
  exact .mappingType (textArgument_eq_ok.1 htext)

theorem built_of_fieldTest {test : FieldTest} (h : buildFieldTest test bag = .ok p) :
    Built bag p := by
  obtain ⟨field, hfield, h⟩ := Except.bind_eq_ok.1 h
  split at h
  · next s hs =>
    cases h
    exact .onField (textArgument_eq_ok.1 hfield) hs
  · cases h
  · cases h

theorem built_of_terms (h : buildTerms bag = .ok p) : Built bag p := by
  obtain ⟨field, hfield, h⟩ := Except.bind_eq_ok.1 h
  split at h
  · next s hs =>
    cases h
    exact .terms (textArgument_eq_ok.1 hfield) hs rfl
  · next items hs =>
    cases h
    exact .terms (textArgument_eq_ok.1 hfield) hs rfl
  · cases h
  · cases h

theorem built_of_range (h : buildRange bag = .ok p) : Built bag p := by
  obtain ⟨field, hfield, h⟩ := Except.bind_eq_ok.1 h
  obtain ⟨upper, hupper, h⟩ := Except.bind_eq_ok.1 h
  obtain ⟨lower, hlower, h⟩ := Except.bind_eq_ok.1 h
  split at h
  · cases h
  · next hopen =>
    cases h
    have hbounded : lower ≠ none ∨ upper ≠ none := by
      cases lower <;> cases upper <;> simp_all
    exact .range (textArgument_eq_ok.1 hfield) (firstBound_eq_ok hlower) (firstBound_eq_ok hupper)
      hbounded

/-- **The standard constructors** build what their parameters say. -/
theorem built_of_construct :
    ∀ kind ∈ standard, ∀ {bag p}, kind.construct bag = .ok p → Built bag p := by
  simp only [standard, List.forall_mem_cons, List.not_mem_nil, false_implies, implies_true,
    and_true]
  exact ⟨built_of_exists, built_of_ids, built_of_queryString, built_of_simpleQueryString,
    built_of_mappingType, built_of_fieldTest, built_of_fieldTest, built_of_fieldTest,
    built_of_fieldTest, built_of_fieldTest, built_of_terms, built_of_fieldTest, built_of_fieldTest,
    built_of_fieldTest, built_of_fieldTest, built_of_range⟩

end

end QueryKind

end SearchNotation
