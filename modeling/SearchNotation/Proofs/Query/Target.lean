import SearchNotation.Proofs.Query.Construction
import SearchNotation.Proofs.Query.NormalForm

/-!
# The field that a leaf tests

A leaf reads its field from the parameter `field`, and a predicate on a field is built from the same
parameter, so the two agree (`QueryKind.Built.presentText?_field`). Identifiers, query texts and
mapping types test no field, and `field` is an option for them like any other: a leaf of such a kind
has a field if it is given that option (`StrayField`), and only then does its field differ from the
one that is tested (`field_eq_target_iff`).
-/

set_option autoImplicit false

namespace SearchNotation

open RegistryBuilder (claims)

/-- The field that a predicate tests, if it tests one. -/
def Predicate.target? : Predicate → Option String
  | .onField _ field _ _ | .terms field _ _ | .range field _ _ _ | .fieldExists field _ =>
    some field
  | .ids .. | .queryString .. | .simpleQueryString .. | .mappingType .. => none

/-- The kinds that test no field. -/
def fieldless : List String := ["ids", "query_string", "simple_query_string", "type"]

/-- A kind that tests no field is given one. -/
def StrayField (key : String) (value : Value) : Prop :=
  key ∈ fieldless ∧ ∃ bag field, value = .nested bag ∧ Bag.presentText? bag "field" = some field

theorem Predicate.target?_eq_none_iff (p : Predicate) : p.target? = none ↔ p.name ∈ fieldless := by
  cases p with
  | onField test => cases test <;> simp [target?, name, FieldTest.name, fieldless]
  | _ => simp [target?, name, fieldless]

namespace QueryKind

/-- **A predicate tests the field** that its parameters name. -/
theorem Built.presentText?_field {bag : Bag} {p : Predicate} (h : Built bag p) {field : String}
    (ht : p.target? = some field) : bag.presentText? "field" = some field := by
  cases h with
  | onField hfield => cases ht; exact hfield
  | terms hfield => cases ht; exact hfield
  | range hfield => cases ht; exact hfield
  | fieldExists hfield => cases ht; exact hfield
  | ids => cases ht
  | queryString => cases ht
  | simpleQueryString => cases ht
  | mappingType => cases ht

/-! ## Kinds that test no field -/

/-- They have no other names, and their argument is not `field`. -/
theorem fieldless_standard : ∀ kind ∈ standard, kind.name ∈ fieldless →
    kind.aliases = [] ∧ kind.arity = .unary ∧ kind.argument ≠ "field" := by decide

theorem exists_claims_fieldless :
    ∀ name ∈ fieldless, ∃ kind ∈ standard, claims kind name = true := by decide

/-- What is found under the name of one has it for its own. -/
theorem name_of_claims_fieldless : ∀ kind ∈ standard, ∀ name ∈ fieldless,
    claims kind name = true → kind.name = name := by decide

/-- A key is a name of one exactly if the kind under the key is one. -/
theorem key_fieldless_iff {kind : QueryKind} {key : String} (hkind : kind ∈ standard)
    (hclaims : claims kind key = true) : key ∈ fieldless ↔ kind.name ∈ fieldless := by
  constructor
  · intro hkey
    rwa [name_of_claims_fieldless kind hkind key hkey hclaims]
  · intro hname
    obtain ⟨haliases, -⟩ := fieldless_standard kind hkind hname
    rcases RegistryBuilder.claims_iff.1 hclaims with rfl | hother
    · exact hname
    · rw [haliases] at hother
      cases hother

/-- A key that finds no kind is no name of one. -/
theorem key_not_fieldless {key : String} (h : Registry.standard.queries.lookup? key = none) :
    key ∉ fieldless := by
  intro hkey
  obtain ⟨kind, hkind, hclaims⟩ := exists_claims_fieldless key hkey
  rw [Registry.lookup?_standard.2 ⟨hkind, hclaims⟩] at h
  cases h

/-- The kinds that shapes imply test a field. -/
theorem not_fieldless_of_claims : ∀ kind ∈ standard, ∀ name ∈ ["term", "terms", "range"],
    claims kind name = true → kind.name ∉ fieldless := by decide

/-- A kind that has another argument is given `field` in a bag only. -/
theorem presentText?_field_of_unaryParams {kind : QueryKind} {value : Value} {bag : Bag}
    (hne : kind.argument ≠ "field") (h : kind.unaryParams value = .ok bag) (field : String) :
    bag.presentText? "field" = some field ↔
      ∃ b, value = .nested b ∧ Bag.presentText? b "field" = some field := by
  rcases unaryParams_eq_ok h with ⟨rfl, -, hbag⟩ | ⟨rfl, -⟩
  · have hsingle : Bag.presentText? [(kind.argument, value)] "field" = none := by
      simp [Bag.presentText?, Bag.present?, hne]
    rw [hsingle]
    refine iff_of_false (by simp) ?_
    rintro ⟨b, rfl, -⟩
    cases hbag
  · simp

end QueryKind

/-- A shape implies one of three kinds, with its parameters in order. -/
theorem Implied.of_ofValue? {field : String} {value : Value} {implied : Implied}
    (h : ofValue? field value = some implied) :
    implied.kind ∈ ["term", "terms", "range"] ∧ Dict.Sorted implied.params := by
  unfold ofValue? at h
  split at h
  · cases h
  · cases h
    exact ⟨by simp, Dict.sorted_ofList _⟩
  · split at h
    · cases h
      exact ⟨by simp, Dict.sorted_ofList _⟩
    · split at h
      · cases h
        exact ⟨by simp, Dict.sorted_ofList _⟩
      · cases h
  · cases h
    exact ⟨by simp, Dict.sorted_insertAll (Dict.sorted_ofList _) _⟩
  · cases h

/-! ## Leaves of standard kinds -/

section
variable {key : String} {value : Value} {leaf : Leaf}
  (h : (resolve Registry.standard.queries key value).result = .ok (some leaf))
include h

/-- A leaf of a standard kind is built from its parameters and named for its predicate. -/
theorem built_of_resolve : QueryKind.Built leaf.params leaf.predicate ∧
    leaf.predicate.name = leaf.kind ∧ leaf.field = leaf.params.presentText? "field" := by
  obtain ⟨kind, argument, ha, hl⟩ := resolve_eq_some h
  obtain ⟨name, hk⟩ := ha.exists_lookup?
  obtain ⟨hstandard, -⟩ := Registry.lookup?_standard.1 hk
  obtain ⟨hname, hfield, -, hbuilt⟩ := QueryKind.leaf_eq_ok_iff.1 hl
  exact ⟨QueryKind.built_of_construct kind hstandard hbuilt,
    (QueryKind.construct_name kind hstandard _ _ hbuilt).trans hname.symm, hfield⟩

/-- An entry gives a stray field if its leaf tests none and has one among its parameters. -/
theorem strayField_iff : StrayField key value ↔
    leaf.kind ∈ fieldless ∧ ∃ field, leaf.params.presentText? "field" = some field := by
  obtain ⟨kind, argument, ha, hl⟩ := resolve_eq_some h
  cases ha with
  | named hk =>
    obtain ⟨hstandard, hclaims⟩ := Registry.lookup?_standard.1 hk
    obtain ⟨hname, -, hparams, -⟩ := QueryKind.leaf_eq_ok_iff.1 hl
    rw [StrayField, QueryKind.key_fieldless_iff hstandard hclaims, hname]
    apply and_congr_right
    intro hkind
    obtain ⟨-, hunary, hargument⟩ := QueryKind.fieldless_standard kind hstandard hkind
    rw [QueryKind.params, hunary] at hparams
    rw [exists_comm]
    exact exists_congr fun field =>
      (QueryKind.presentText?_field_of_unaryParams hargument hparams field).symm
  | implied hnone hi hk =>
    obtain ⟨hstandard, hclaims⟩ := Registry.lookup?_standard.1 hk
    obtain ⟨hname, -⟩ := QueryKind.leaf_eq_ok_iff.1 hl
    have hkey := QueryKind.key_not_fieldless hnone
    have hkind : leaf.kind ∉ fieldless := by
      rw [hname]
      exact QueryKind.not_fieldless_of_claims kind hstandard _ (Implied.of_ofValue? hi).1 hclaims
    exact iff_of_false (fun hs => hkey hs.1) fun hs => hkind hs.1

/-- **The field of a leaf is the field it tests**, and none if it tests none, unless a kind that
tests no field is given one. -/
theorem field_eq_target_iff : leaf.field = leaf.predicate.target? ↔ ¬ StrayField key value := by
  obtain ⟨hbuilt, hname, hfield⟩ := built_of_resolve h
  rw [strayField_iff h, ← hname, ← Predicate.target?_eq_none_iff, hfield]
  cases ht : leaf.predicate.target? with
  | some field => simp [hbuilt.presentText?_field ht]
  | none => simp [Option.eq_none_iff_forall_ne_some]

end

/-- A field among the options of a range is read from the parameters of the range; the option
`query` is passed on. -/
theorem field_eq_target_keyed_range :
    let value : Value := .nested [("age", .nested [("gte", .scalar (.number (.int 18))),
      ("query", .ofString "x")])]
    let leaf : Leaf := ⟨"range", some "age", [("field", .ofString "age"),
      ("gte", .scalar (.number (.int 18))), ("query", .ofString "x")],
      .range "age" (some ⟨.number (.int 18), true⟩) none [("query", .string "x")]⟩
    (resolve Registry.standard.queries "range" value).result = .ok (some leaf) ∧
      leaf.field = leaf.predicate.target? := by
  intro value leaf
  have hkind : Registry.standard.queries.lookup? "range" =
      some ⟨"range", [], .ternary, "field", false, QueryKind.buildRange⟩ :=
    Registry.lookup?_standard.2 ⟨by simp [QueryKind.standard], rfl⟩
  have h : (resolve Registry.standard.queries "range" value).result = .ok (some leaf) := by
    rw [resolve_of_lookup? hkind]
    rfl
  refine ⟨h, (field_eq_target_iff h).2 ?_⟩
  rintro ⟨hkey, -⟩
  exact absurd hkey (by decide)

/-- The identifiers are said to test the field `name`, which is an option of theirs. -/
theorem field_ne_target_ids :
    let value : Value := .nested [("field", .ofString "name"),
      ("values", .array [.number (.int 7)])]
    let leaf : Leaf := ⟨"ids", some "name", [("field", .ofString "name"),
      ("values", .array [.number (.int 7)])], .ids ["7"] [("field", .string "name")]⟩
    (resolve Registry.standard.queries "ids" value).result = .ok (some leaf) ∧
      leaf.predicate.target? = none ∧ leaf.field = some "name" ∧
      leaf.field ≠ leaf.predicate.target? := by
  intro value leaf
  have hkind : Registry.standard.queries.lookup? "ids" =
      some (QueryKind.unary "ids" "values" true QueryKind.buildIds) :=
    Registry.lookup?_standard.2 ⟨by simp [QueryKind.standard], rfl⟩
  have h : (resolve Registry.standard.queries "ids" value).result = .ok (some leaf) := by
    rw [resolve_of_lookup? hkind]
    rfl
  exact ⟨h, rfl, rfl, Option.some_ne_none _⟩

end SearchNotation
