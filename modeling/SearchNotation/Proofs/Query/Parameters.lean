import SearchNotation.Proofs.Query.Options
import SearchNotation.Proofs.Query.Target

/-!
# What becomes of the parameters

A predicate is written with two things only: the argument that its kind takes from the parameters
(`Takes`), and every parameter that the kind does not take, as it is. A parameter under the name of
an entry of the argument gives way to that entry. `Leaf.Conserves` says this of a leaf, and
`resolve_conserves` of every leaf that an entry resolves to. Both the members and the parameters are
in the order of their names, so nothing is there twice.
-/

set_option autoImplicit false

namespace SearchNotation

/-! ## What a kind takes -/

/-- The kinds whose argument is one text, with its name. -/
def textArguments : List (String × String) :=
  [("exists", "field"), ("query_string", "query"), ("simple_query_string", "query"),
    ("type", "value")]

/-- What a kind takes from its parameters: the names that are taken, the field that everything is
written under, if there is one, and the entries of the argument. -/
inductive Takes (params : Bag) :
    (kind : String) → (taken : List String) → (place : Option String) → Dict Json → Prop
  | onField (test : FieldTest) {field : String} {s : Scalar}
      (hfield : params.presentText? "field" = some field)
      (hquery : params.present? "query" = some (.scalar s)) :
      Takes params test.name ["field", "query"] (some field) [(test.valueKey, s.toJson)]
  | terms {field : String} {value : Value} {items : List Scalar}
      (hfield : params.presentText? "field" = some field)
      (hquery : params.present? "query" = some value) (hitems : value.items? = some items) :
      Takes params "terms" ["field", "query"] none [(field, .array (items.map Scalar.toJson))]
  | range {field : String} {lower upper : Option Bound}
      (hfield : params.presentText? "field" = some field)
      (hlower : QueryKind.IsFirstBound params lowerBoundKeys lower)
      (hupper : QueryKind.IsFirstBound params upperBoundKeys upper)
      (hbounded : lower ≠ none ∨ upper ≠ none) :
      Takes params "range" ("field" :: boundKeys) (some field) (Predicate.boundEntries lower upper)
  | ids {value : Value} {items : List Scalar}
      (hvalues : params.present? "values" = some value) (hitems : value.items? = some items) :
      Takes params "ids" ["values"] none
        [("values", Json.ofStrings ((items.filter (!·.isNull)).map Scalar.plainText))]
  | text {kind key text : String} (hkind : (kind, key) ∈ textArguments)
      (htext : params.presentText? key = some text) :
      Takes params kind [key] none [(key, .string text)]

/-- A leaf is written with the argument of its kind and, under all other names, with the parameters
that the kind does not take. -/
def Leaf.Conserves (leaf : Leaf) : Prop :=
  ∃ taken place argument members, Takes leaf.params leaf.kind taken place argument ∧
    leaf.predicate.toJson = Json.single leaf.kind (Predicate.underField members place) ∧
    Dict.Sorted members ∧ members.Perm (argument ++
      Dict.mapValues Value.toJson (Dict.without leaf.params (taken ++ argument.keys)))

/-! ## Members -/

namespace Predicate

variable {p : Predicate}

theorem sorted_members (h : Dict.Sorted p.options) : Dict.Sorted p.members := by
  cases p with
  | range field lower upper options => exact Dict.sorted_insertAll (Dict.sorted_ofList _) options
  | _ => exact Dict.sorted_insertAll h _

theorem nodup_argument (p : Predicate) : p.argument.keys.Nodup := by
  cases p with
  | range field lower upper options =>
    have hsorted : Dict.Sorted (boundEntries lower upper) := by
      rw [← boundMembers_eq]
      exact Dict.sorted_ofList _
    exact Dict.nodup_keys_of_sorted hsorted
  | _ => exact List.pairwise_singleton _ _

/-- A predicate that keeps its argument has no other members than the argument and the options. -/
theorem Keeps.members_perm (hs : Dict.Sorted p.options) (h : p.Keeps p.members) :
    p.members.Perm (p.argument ++ Dict.without p.options p.argument.keys) :=
  Dict.perm_append_without (sorted_members hs) p.nodup_argument hs h.argument h.options

end Predicate

namespace QueryKind

variable {bag : Bag} {p : Predicate} {kind : QueryKind} {value : Value}

theorem options_eq (bag : Bag) (taken : List String) :
    options bag taken = Dict.mapValues Value.toJson (Dict.without bag taken) :=
  Bag.toMembers_eq _

theorem sorted_options (hs : Dict.Sorted bag) (taken : List String) :
    Dict.Sorted (options bag taken) := by
  rw [options_eq]
  exact Dict.sorted_mapValues (Dict.sorted_without hs) _

theorem key_mem_boundKeys {lower upper : Option Bound} {e : String × Json}
    (h : e ∈ Predicate.boundEntries lower upper) : e.1 ∈ boundKeys := by
  have hlower : ∀ b : Bound, b.lowerKey ∈ boundKeys := fun b =>
    (by decide : ∀ i : Bool, (if i then "gte" else "gt") ∈ boundKeys) b.inclusive
  have hupper : ∀ b : Bound, b.upperKey ∈ boundKeys := fun b =>
    (by decide : ∀ i : Bool, (if i then "lte" else "lt") ∈ boundKeys) b.inclusive
  rcases List.mem_append.1 h with h | h
  · obtain ⟨b, -, rfl⟩ := List.mem_map.1 h
    exact hlower b
  · obtain ⟨b, -, rfl⟩ := List.mem_map.1 h
    exact hupper b

/-- All keys of bounds are taken from the options of a range. -/
theorem range_optionsGiveWay (bag : Bag) (field : String) (lower upper : Option Bound) :
    (Predicate.range field lower upper (options bag ("field" :: boundKeys))).OptionsGiveWay := by
  intro e he value hv
  have hnone : Dict.get? (options bag ("field" :: boundKeys)) e.1 = none := by
    rw [options_eq, Dict.mapValues_without]
    exact Dict.get?_without (.tail _ (key_mem_boundKeys he))
  rw [hnone] at hv
  cases hv

/-- **A predicate is the argument that its kind takes**, with the rest of the parameters for its
options. -/
theorem Built.takes (h : Built bag p) : ∃ taken, Takes bag p.name taken p.keyedBy? p.argument ∧
    p.options = options bag taken ∧ p.OptionsGiveWay := by
  have hexists : ("exists", "field") ∈ textArguments := by decide
  have hquery : ("query_string", "query") ∈ textArguments := by decide
  have hsimple : ("simple_query_string", "query") ∈ textArguments := by decide
  have htype : ("type", "value") ∈ textArguments := by decide
  cases h with
  | onField hfield hquery => exact ⟨_, .onField _ hfield hquery, rfl, trivial⟩
  | terms hfield hquery hitems => exact ⟨_, .terms hfield hquery hitems, rfl, trivial⟩
  | range hfield hlower hupper hbounded =>
    exact ⟨_, .range hfield hlower hupper hbounded, rfl, range_optionsGiveWay bag _ _ _⟩
  | fieldExists hfield => exact ⟨_, .text hexists hfield, rfl, trivial⟩
  | ids hvalues hitems => exact ⟨_, .ids hvalues hitems, rfl, trivial⟩
  | queryString htext => exact ⟨_, .text hquery htext, rfl, trivial⟩
  | simpleQueryString htext => exact ⟨_, .text hsimple htext, rfl, trivial⟩
  | mappingType htext => exact ⟨_, .text htype htext, rfl, trivial⟩

/-! ## Parameters in order -/

theorem sorted_unaryParams (hv : value.Ordered) (h : kind.unaryParams value = .ok bag) :
    Dict.Sorted bag := by
  rcases unaryParams_eq_ok h with ⟨rfl, -⟩ | ⟨rfl, -⟩
  · exact List.pairwise_singleton _ _
  · exact hv

theorem sorted_expandKeyed? (hs : Dict.Sorted bag) :
    Dict.Sorted ((expandKeyed? bag).getD bag) := by
  unfold expandKeyed?
  split
  · split
    · exact hs
    · exact Dict.sorted_insert (Dict.sorted_ofList _) _ _
  · exact hs

/-- **The parameters of a kind** are in order if the value is. -/
theorem sorted_params (hv : value.Ordered) (h : kind.params value = .ok bag) :
    Dict.Sorted bag := by
  unfold params at h
  cases ha : kind.arity with
  | unary =>
    rw [ha] at h
    exact sorted_unaryParams hv h
  | binary =>
    rw [ha] at h
    rw [binaryParams_eq_ok h] at hv
    exact hv
  | ternary =>
    rw [ha] at h
    obtain ⟨b, rfl, rfl, -⟩ := ternaryParams_eq_ok.1 h
    exact sorted_expandKeyed? hv

end QueryKind

/-! ## Leaves -/

section
variable {table : QueryTable} {key : String} {value : Value} {leaf : Leaf}

/-- The parameters of a leaf are in order if the value of its entry is. -/
theorem sorted_params_of_resolve (hv : value.Ordered)
    (h : (resolve table key value).result = .ok (some leaf)) : Dict.Sorted leaf.params := by
  obtain ⟨kind, argument, ha, hl⟩ := resolve_eq_some h
  obtain ⟨-, -, hparams, -⟩ := QueryKind.leaf_eq_ok_iff.1 hl
  have hargument : argument.Ordered := by
    cases ha with
    | named => exact hv
    | implied _ hi => exact (Implied.of_ofValue? hi).2
  exact QueryKind.sorted_params hargument hparams

/-- **A leaf neither loses nor makes up a parameter.** -/
theorem resolve_conserves (hv : value.Ordered)
    (h : (resolve Registry.standard.queries key value).result = .ok (some leaf)) :
    leaf.Conserves := by
  obtain ⟨hbuilt, hname, -⟩ := built_of_resolve h
  obtain ⟨taken, htakes, hoptions, hway⟩ := hbuilt.takes
  have hs : Dict.Sorted leaf.predicate.options := by
    rw [hoptions]
    exact QueryKind.sorted_options (sorted_params_of_resolve hv h) taken
  have hkeeps := Predicate.keepsArgument_iff_keeps.1 ((Predicate.keepsArgument_iff hs).2 hway)
  have hperm := hkeeps.members_perm hs
  rw [hoptions, QueryKind.options_eq, Dict.mapValues_without, ← Dict.without_append,
    ← Dict.mapValues_without] at hperm
  rw [hname] at htakes
  refine ⟨taken, _, _, _, htakes, ?_, Predicate.sorted_members hs, hperm⟩
  rw [Predicate.toJson_eq, hname]

end

/-- The option `value` gives way to the text that is looked for; the null beside it is kept. -/
theorem resolve_conserves_overridden :
    let value : Value := .nested [("boost", .scalar .null), ("field", .ofString "id"),
      ("query", .scalar (.number (.int 5))), ("value", .array [.null])]
    let leaf : Leaf := ⟨"term", some "id", [("boost", .scalar .null), ("field", .ofString "id"),
      ("query", .scalar (.number (.int 5))), ("value", .array [.null])],
      .onField .term "id" (.number (.int 5)) [("boost", .null), ("value", .array [.null])]⟩
    value.Ordered ∧
      (resolve Registry.standard.queries "term" value).result = .ok (some leaf) ∧
      leaf.predicate.toJson = Json.single "term" (Json.single "id"
        (.object [("boost", .null), ("value", .number (.int 5))])) ∧ leaf.Conserves := by
  intro value leaf
  have hv : value.Ordered := by
    show Dict.Sorted _
    decide
  have hkind : Registry.standard.queries.lookup? "term" = some (QueryKind.binary .term []) :=
    Registry.lookup?_standard.2 ⟨by simp [QueryKind.standard], rfl⟩
  have h : (resolve Registry.standard.queries "term" value).result = .ok (some leaf) := by
    rw [resolve_of_lookup? hkind]
    rfl
  exact ⟨hv, h, rfl, resolve_conserves hv h⟩

end SearchNotation
