import SearchNotation.Proofs.Notation.Bag
import SearchNotation.Proofs.Query.RangeSpelling

/-!
# What the shape of a value implies

An entry that is named for no kind is a field, and the shape of its value says what it is tested
for. `ShapeResult` is the table of that: one row for each shape, with the predicate as it is written
or the error; a shape whose kind is not in use (`Implies`) comes to nothing. `resolve_shapeResult`
says that every such entry has a row, whichever of the standard kinds are disabled.

What is found under the name of a standard kind is that kind (`QueryTable.OfStandard`), so a shape
whose kind is in use comes to the leaf of that kind on the parameters that the shape gives it
(`shapeResult_of_implied`).
-/

set_option autoImplicit false

namespace SearchNotation

/-! ## The table -/

/-- The kinds that shapes imply. -/
inductive Implies : Value → String → Prop
  | text {s : Scalar} (hs : s ≠ .null) : Implies (.scalar s) "term"
  | values {items : List Scalar} (hnull : Scalar.null ∉ items) : Implies (.array items) "terms"
  | ends {items : List Scalar} (hnull : Scalar.null ∈ items) (hlen : items.length ≤ 2) :
      Implies (.array items) "range"
  | bounds (bag : Bag) : Implies (.nested bag) "range"

/-- The leaf is of a kind on a field and is written with a body. -/
structure Leaf.Writes (leaf : Leaf) (kind field : String) (body : Json) : Prop where
  ofKind : leaf.kind = kind
  onField : leaf.field = some field
  written : leaf.predicate.toJson = Json.single kind body

/-- The member for one end of a range, none where the range is open. -/
def endMember (key : String) : Option Scalar → Dict Json
  | none | some .null => []
  | some s => [(key, s.toJson)]

/-- What an entry under the name of a field comes to, by the shape of its value. -/
inductive ShapeResult (table : QueryTable) (field : String) :
    Value → Except CompileError (Option Leaf) → Prop
  | null : ShapeResult table field (.scalar .null) (.ok none)
  | list (bags : List Bag) : ShapeResult table field (.list bags) (.ok none)
  | longArray {items : List Scalar} (hnull : Scalar.null ∈ items) (hlen : 2 < items.length) :
      ShapeResult table field (.array items) (.ok none)
  | unused {value : Value} {kind : String} (himplies : Implies value kind)
      (hunused : table.lookup? kind = none) : ShapeResult table field value (.ok none)
  | text {s : Scalar} {leaf : Leaf} (hs : s ≠ .null) (hused : table.lookup? "term" ≠ none)
      (hleaf : leaf.Writes "term" field
        (Json.single field (.object [("value", .string s.plainText)]))) :
      ShapeResult table field (.scalar s) (.ok (some leaf))
  | values {items : List Scalar} {leaf : Leaf} (hnull : Scalar.null ∉ items)
      (hused : table.lookup? "terms" ≠ none)
      (hleaf : leaf.Writes "terms" field
        (.object [(field, .array (items.map Scalar.toJson))])) :
      ShapeResult table field (.array items) (.ok (some leaf))
  /-- There is no end at all. -/
  | openEnds {items : List Scalar} (hnull : Scalar.null ∈ items) (hlen : items.length ≤ 2)
      (hused : table.lookup? "range" ≠ none) (hopen : ∀ s ∈ items, s = .null) :
      ShapeResult table field (.array items) (.error (.missingRangeBound field))
  | ends {items : List Scalar} {leaf : Leaf} (hnull : Scalar.null ∈ items)
      (hlen : items.length ≤ 2) (hused : table.lookup? "range" ≠ none)
      (hend : ∃ s ∈ items, s ≠ .null)
      (hleaf : leaf.Writes "range" field (Json.single field
        (.object (endMember "gte" items[0]? ++ endMember "lte" items[1]?)))) :
      ShapeResult table field (.array items) (.ok (some leaf))
  /-- The bag is the argument of a range, with the name of the entry for its field. -/
  | bounds {bag : Bag} (hused : table.lookup? "range" ≠ none)
      (hfield : Dict.get? bag "field" = none) :
      ShapeResult table field (.nested bag)
        (resolve table "range" (.nested (Dict.insert bag "field" (.ofString field)))).result
  /-- The bag is the argument of a range as it is. -/
  | ownField {bag : Bag} {own : Value} (hused : table.lookup? "range" ≠ none)
      (hfield : Dict.get? bag "field" = some own) :
      ShapeResult table field (.nested bag) (resolve table "range" (.nested bag)).result

/-! ## Standard kinds under their names -/

/-- What is found under the name of a standard kind is that kind. -/
def QueryTable.OfStandard (table : QueryTable) : Prop :=
  ∀ kind ∈ QueryKind.standard, table.lookup? kind.name ≠ none →
    table.lookup? kind.name = some kind

theorem Registry.ofStandard_standardWithout (disabledQueries disabledAggregations : List String) :
    (standardWithout disabledQueries disabledAggregations).1.queries.OfStandard := by
  intro kind hkind hused
  obtain ⟨other, hother⟩ := Option.ne_none_iff_exists'.1 hused
  obtain ⟨henabled, hclaims⟩ := (lookup?_standardWithout _ _).1 hother
  obtain ⟨hstandard, -⟩ := (mem_enabledStandard _).1 henabled
  have hself : RegistryBuilder.claims kind kind.name = true :=
    RegistryBuilder.claims_iff.2 (.inl rfl)
  rw [hother, eq_of_claims hstandard hkind hclaims hself]

/-! ## Leaves of implied kinds -/

namespace QueryKind

/-- The standard kind of single values. -/
def single : QueryKind := binary .term []

/-- The standard kind of sets of values. -/
def several : QueryKind := ⟨"terms", [], .binary, "query", true, buildTerms⟩

theorem single_mem_standard : single ∈ standard := by simp [standard, single]

theorem several_mem_standard : several ∈ standard := by simp [standard, several]

theorem ranged_mem_standard : ranged ∈ standard := by simp [standard, ranged]

variable (field : String)

theorem single_leaf (text : String) : ∃ leaf,
    single.leaf (.nested [("field", .ofString field), ("query", .ofString text)]) = .ok leaf ∧
      leaf.Writes "term" field (Json.single field (.object [("value", .string text)])) :=
  ⟨_, rfl, rfl, rfl, rfl⟩

theorem several_leaf (items : List Scalar) : ∃ leaf,
    several.leaf (.nested [("field", .ofString field), ("query", .array items)]) = .ok leaf ∧
      leaf.Writes "terms" field (.object [(field, .array (items.map Scalar.toJson))]) :=
  ⟨_, rfl, rfl, rfl, rfl⟩

theorem ranged_leaf_open : ranged.leaf (.nested [("field", .ofString field)]) =
    .error (.missingRangeBound field) := rfl

theorem ranged_leaf_from {s : Scalar} (hs : s ≠ .null) : ∃ leaf,
    ranged.leaf (.nested [("field", .ofString field), ("from", .scalar s)]) = .ok leaf ∧
      leaf.Writes "range" field (Json.single field (.object [("gte", s.toJson)])) := by
  cases s with
  | null => exact absurd rfl hs
  | _ => exact ⟨_, rfl, rfl, rfl, rfl⟩

theorem ranged_leaf_to {s : Scalar} (hs : s ≠ .null) : ∃ leaf,
    ranged.leaf (.nested [("field", .ofString field), ("to", .scalar s)]) = .ok leaf ∧
      leaf.Writes "range" field (Json.single field (.object [("lte", s.toJson)])) := by
  cases s with
  | null => exact absurd rfl hs
  | _ => exact ⟨_, rfl, rfl, rfl, rfl⟩

end QueryKind

/-! ## Implied parameters -/

/-- The entry that names the field comes first. -/
theorem ofList_named (field : String) {key : String} (hlt : "field" < key) (value : Value) :
    Dict.ofList [Implied.ofValue?.named field, (key, value)] =
      [("field", .ofString field), (key, value)] := by
  have hlast : Dict.Sorted [(key, value)] := List.pairwise_singleton _ _
  exact Dict.ofList_of_sorted (Dict.sorted_cons.2 ⟨by simpa using hlt, hlast⟩)

theorem all_not_isNull {items : List Scalar} :
    items.all (!·.isNull) = true ↔ Scalar.null ∉ items := by
  have hnull : ∀ s : Scalar, s.isNull = true ↔ s = .null := by
    intro s
    cases s <;> simp [Scalar.isNull]
  rw [List.all_eq_true]
  constructor
  · intro h hmem
    cases h _ hmem
  · intro h s hs
    have hne : s ≠ .null := fun he => h (he ▸ hs)
    simpa [← hnull] using hne

/-- An array of at most two with a null has one other item at most. -/
theorem ends_cases {items : List Scalar} (hnull : Scalar.null ∈ items) (hlen : items.length ≤ 2) :
    items = [.null] ∨ items = [.null, .null] ∨
      ∃ s, s ≠ .null ∧ (items = [s, .null] ∨ items = [.null, s]) := by
  match items with
  | [] => cases hnull
  | [a] => exact .inl (by simpa [eq_comm] using hnull)
  | [a, b] =>
    by_cases ha : a = .null
    · by_cases hb : b = .null
      · exact .inr (.inl (by rw [ha, hb]))
      · exact .inr (.inr ⟨b, hb, .inr (by rw [ha])⟩)
    · have hb : b = .null := by simpa [eq_comm, ha] using hnull
      exact .inr (.inr ⟨a, ha, .inl (by rw [hb])⟩)
  | a :: b :: c :: rest => simp at hlen

theorem bound_of_ne {s : Scalar} (hs : s ≠ .null) (key : String) :
    Implied.ofValue?.bound key (some s) = [(key, .scalar s)] := by
  cases s with
  | null => exact absurd rfl hs
  | _ => rfl

theorem endMember_of_ne {s : Scalar} (hs : s ≠ .null) (key : String) :
    endMember key (some s) = [(key, s.toJson)] := by
  cases s with
  | null => exact absurd rfl hs
  | _ => rfl

section
variable (field : String) {s : Scalar} (hs : s ≠ .null)
include hs

theorem ofList_from : Dict.ofList (Implied.ofValue?.named field ::
    Implied.ofValue?.bound "from" [s, .null][0]? ++ Implied.ofValue?.bound "to" [s, .null][1]?) =
      [("field", .ofString field), ("from", .scalar s)] := by
  have hfrom : Implied.ofValue?.bound "from" [s, .null][0]? = [("from", .scalar s)] :=
    bound_of_ne hs "from"
  rw [hfrom]
  exact ofList_named field (by decide) _

theorem ofList_to : Dict.ofList (Implied.ofValue?.named field ::
    Implied.ofValue?.bound "from" [.null, s][0]? ++ Implied.ofValue?.bound "to" [.null, s][1]?) =
      [("field", .ofString field), ("to", .scalar s)] := by
  have hto : Implied.ofValue?.bound "to" [.null, s][1]? = [("to", .scalar s)] :=
    bound_of_ne hs "to"
  rw [hto]
  exact ofList_named field (by decide) _

end

/-- The range that an array of at most two with a null implies. -/
theorem implied_ends {items : List Scalar} (hnull : Scalar.null ∈ items) (hlen : items.length ≤ 2)
    (field : String) : ∃ params, Implied.ofValue? field (.array items) = some ⟨"range", params⟩ ∧
      ((∀ s ∈ items, s = .null) ∧
          QueryKind.ranged.leaf (.nested params) = .error (.missingRangeBound field) ∨
        (∃ s ∈ items, s ≠ .null) ∧ ∃ leaf, QueryKind.ranged.leaf (.nested params) = .ok leaf ∧
          leaf.Writes "range" field (Json.single field
            (.object (endMember "gte" items[0]? ++ endMember "lte" items[1]?)))) := by
  have hsome : ¬ items.all (!·.isNull) = true := fun h => all_not_isNull.1 h hnull
  rw [Implied.ofValue?, if_neg hsome, if_pos hlen]
  refine ⟨_, rfl, ?_⟩
  rcases ends_cases hnull hlen with rfl | rfl | ⟨s, hs, rfl | rfl⟩
  · exact .inl ⟨by simp, QueryKind.ranged_leaf_open field⟩
  · exact .inl ⟨by simp, QueryKind.ranged_leaf_open field⟩
  · have hmember : endMember "gte" [s, .null][0]? ++ endMember "lte" [s, .null][1]? =
        [("gte", s.toJson)] := congrArg (· ++ []) (endMember_of_ne hs "gte")
    rw [hmember, ofList_from field hs]
    exact .inr ⟨⟨s, .head _, hs⟩, QueryKind.ranged_leaf_from field hs⟩
  · have hmember : endMember "gte" [.null, s][0]? ++ endMember "lte" [.null, s][1]? =
        [("lte", s.toJson)] := endMember_of_ne hs "lte"
    rw [hmember, ofList_to field hs]
    exact .inr ⟨⟨s, .tail _ (.head _), hs⟩, QueryKind.ranged_leaf_to field hs⟩

/-! ## Every shape has its row -/

section
variable {table : QueryTable} {key : String} (hkey : table.lookup? key = none)
include hkey

theorem resolve_of_none {value : Value} (h : Implied.ofValue? key value = none) :
    (resolve table key value).result = .ok none := by
  simp [resolve, hkey, h]

variable (htable : table.OfStandard)
include htable

/-- A shape has its row if it has one where the implied kind is in use. -/
theorem shapeResult_of_implied {value : Value} {kind : QueryKind} {params : Bag}
    (hkind : kind ∈ QueryKind.standard) (himplies : Implies value kind.name)
    (himplied : Implied.ofValue? key value = some ⟨kind.name, params⟩)
    (hrow : table.lookup? kind.name ≠ none →
      ShapeResult table key value ((kind.leaf (.nested params)).map some)) :
    ShapeResult table key value (resolve table key value).result := by
  by_cases hused : table.lookup? kind.name = none
  · have hresult : (resolve table key value).result = .ok none := by
      simp [resolve, hkey, himplied, hused]
    rw [hresult]
    exact .unused himplies hused
  · have hresult : (resolve table key value).result = (kind.leaf (.nested params)).map some := by
      simp [resolve, hkey, himplied, htable kind hkind hused]
    rw [hresult]
    exact hrow hused

theorem shapeResult_text {s : Scalar} (hs : s ≠ .null) :
    ShapeResult table key (.scalar s) (resolve table key (.scalar s)).result := by
  have himplied : Implied.ofValue? key (.scalar s) = some
      ⟨"term", [("field", .ofString key), ("query", .ofString s.plainText)]⟩ := by
    have hofList := ofList_named key (by decide : "field" < "query") (.ofString s.plainText)
    rw [← hofList]
    cases s with
    | null => exact absurd rfl hs
    | _ => rfl
  apply shapeResult_of_implied hkey htable QueryKind.single_mem_standard (.text hs) himplied
  intro hused
  obtain ⟨leaf, hleaf, hwrites⟩ := QueryKind.single_leaf key s.plainText
  rw [hleaf]
  exact .text hs hused hwrites

theorem shapeResult_values {items : List Scalar} (hnull : Scalar.null ∉ items) :
    ShapeResult table key (.array items) (resolve table key (.array items)).result := by
  have himplied : Implied.ofValue? key (.array items) = some
      ⟨"terms", [("field", .ofString key), ("query", .array items)]⟩ := by
    rw [Implied.ofValue?, if_pos (all_not_isNull.2 hnull), ofList_named key (by decide)]
  apply shapeResult_of_implied hkey htable QueryKind.several_mem_standard (.values hnull) himplied
  intro hused
  obtain ⟨leaf, hleaf, hwrites⟩ := QueryKind.several_leaf key items
  rw [hleaf]
  exact .values hnull hused hwrites

/-- An array of at most two with a null bounds a range on one side at most. -/
theorem shapeResult_ends {items : List Scalar} (hnull : Scalar.null ∈ items)
    (hlen : items.length ≤ 2) :
    ShapeResult table key (.array items) (resolve table key (.array items)).result := by
  obtain ⟨params, himplied, hrange⟩ := implied_ends hnull hlen key
  apply shapeResult_of_implied hkey htable QueryKind.ranged_mem_standard (.ends hnull hlen) himplied
  intro hused
  rcases hrange with ⟨hopen, herror⟩ | ⟨hend, leaf, hleaf, hwrites⟩
  · rw [herror]
    exact .openEnds hnull hlen hused hopen
  · rw [hleaf]
    exact .ends hnull hlen hused hend hwrites

/-- A bag is the argument of a range, where its own field goes first. -/
theorem shapeResult_bounds {bag : Bag} (hs : Dict.Sorted bag) :
    ShapeResult table key (.nested bag) (resolve table key (.nested bag)).result := by
  have himplied : Implied.ofValue? key (.nested bag) = some ⟨"range", fieldBag key bag⟩ := rfl
  apply shapeResult_of_implied hkey htable QueryKind.ranged_mem_standard (.bounds bag) himplied
  intro hused
  have hrange : table.lookup? "range" = some QueryKind.ranged :=
    htable _ QueryKind.ranged_mem_standard hused
  have hexplicit : ∀ b : Bag, (QueryKind.ranged.leaf (.nested b)).map some =
      (resolve table "range" (.nested b)).result := by
    intro b
    rw [resolve_of_lookup? hrange, Logged.result_ofExcept]
  rw [hexplicit]
  cases hown : Dict.get? bag "field" with
  | none =>
    rw [fieldBag_of_none hs hown]
    exact .bounds hused hown
  | some own =>
    rw [fieldBag_of_own hs hown]
    exact .ownField hused hown

/-- **Every entry that is named for no kind** comes to what the table says for its shape. -/
theorem shapeResult_resolve {value : Value} (hv : value.Ordered) :
    ShapeResult table key value (resolve table key value).result := by
  cases value with
  | scalar s =>
    by_cases hs : s = .null
    · subst hs
      rw [resolve_of_none hkey rfl]
      exact .null
    · exact shapeResult_text hkey htable hs
  | array items =>
    by_cases hnull : Scalar.null ∈ items
    · by_cases hlen : items.length ≤ 2
      · exact shapeResult_ends hkey htable hnull hlen
      · have hsome : ¬ items.all (!·.isNull) = true := fun h => all_not_isNull.1 h hnull
        rw [resolve_of_none hkey (by rw [Implied.ofValue?, if_neg hsome, if_neg hlen])]
        exact .longArray hnull (Nat.lt_of_not_le hlen)
    · exact shapeResult_values hkey htable hnull
  | nested bag => exact shapeResult_bounds hkey htable hv
  | list bags =>
    rw [resolve_of_none hkey rfl]
    exact .list bags

end

/-- **Shapes imply what the table says**, whichever standard kinds are disabled. -/
theorem resolve_shapeResult (disabledQueries disabledAggregations : List String) {key : String}
    {value : Value}
    (hkey : (Registry.standardWithout disabledQueries disabledAggregations).1.queries.lookup? key =
      none) (hv : value.Ordered) :
    ShapeResult (Registry.standardWithout disabledQueries disabledAggregations).1.queries key value
      (resolve (Registry.standardWithout disabledQueries disabledAggregations).1.queries key
        value).result :=
  shapeResult_resolve hkey (Registry.ofStandard_standardWithout _ _) hv

/-- Without the kind of its name the entry is a range, which passes the option `query` on. -/
theorem resolve_shapeResult_disabled_name :
    let table := (Registry.standardWithout ["match"] []).1.queries
    let value : Value := .nested [("lte", .scalar (.number (.int 5))), ("query", .scalar .null)]
    let leaf : Leaf := ⟨"range", some "match", [("field", .ofString "match"),
      ("lte", .scalar (.number (.int 5))), ("query", .scalar .null)],
      .range "match" none (some ⟨.number (.int 5), true⟩) [("query", .null)]⟩
    table.lookup? "match" = none ∧ value.Ordered ∧
      (resolve table "match" value).result = .ok (some leaf) ∧
      ShapeResult table "match" value (resolve table "match" value).result := by
  intro table value leaf
  have hkey : table.lookup? "match" = none :=
    ((Registry.holds_standardWithout ["match"] []).lookup "match").trans rfl
  have hv : value.Ordered := by
    show Dict.Sorted _
    decide
  have h : (resolve table "match" value).result = .ok (some leaf) := by
    rw [resolve_field (lookup?_range [] (by decide)) hkey hv]
    rfl
  exact ⟨hkey, hv, h, resolve_shapeResult ["match"] [] hkey hv⟩

end SearchNotation
