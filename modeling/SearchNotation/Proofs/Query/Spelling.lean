import Mathlib.Logic.Relation
import SearchNotation.Proofs.Query.Clauses

/-!
# Spellings of a query

One query has many notations. `Notation.Respelled` is one change of spelling, at the root or in any
clause list below it: a list is what is under `must`; so is a map of several entries, or of none;
a single map under a joining key is a list of one; and an element that does not join is one element
for each of its entries. Notations that such changes lead from one to the other, either way, compile
to the same query or fail with the same error, and log the same events in the same order
(`Query.compile_eq_of_synonymous`).

Each change is an equation between compilations of clause lists, and the equations lift through
everything that stands around the place of the change.
-/

set_option autoImplicit false

namespace SearchNotation

/-! ## Changes of spelling -/

mutual

/-- One change among the elements of a clause list. -/
inductive Elements.Respelled : List Bag → List Bag → Prop
  /-- An element that does not join is one element for each of its entries. -/
  | split (before : List Bag) {bag : Bag} (after : List Bag) : bag.hasJoin = false →
      Elements.Respelled (before ++ bag :: after) (before ++ (bag.map fun e => [e]) ++ after)
  | element (before : List Bag) {bag bag' : Bag} (after : List Bag) : Bag.Respelled bag bag' →
      Elements.Respelled (before ++ bag :: after) (before ++ bag' :: after)

/-- One change in the value of a joining key. -/
inductive Value.Respelled : Value → Value → Prop
  /-- A single map is a list of one. -/
  | single (bag : Bag) : Value.Respelled (.nested bag) (.list [bag])
  /-- An empty list is an empty array. -/
  | empty : Value.Respelled (.list []) (.array [])
  | nested {bag bag' : Bag} : Bag.Respelled bag bag' → Value.Respelled (.nested bag) (.nested bag')
  | list {bags bags' : List Bag} : Elements.Respelled bags bags' →
      Value.Respelled (.list bags) (.list bags')

/-- One change under a joining key of a map. -/
inductive Bag.Respelled : Bag → Bag → Prop
  | under (join : Join) (before : Bag) {value value' : Value} (after : Bag) :
      Value.Respelled value value' →
      Bag.Respelled (before ++ (join.key, value) :: after) (before ++ (join.key, value') :: after)

end

/-- One change of spelling. -/
inductive Notation.Respelled : Notation → Notation → Prop
  /-- A list is what is under `must`. -/
  | elements (bags : List Bag) : Notation.Respelled (.list bags) (.map [("must", .list bags)])
  /-- A map that does not join is under `must`, unless it has a single entry. -/
  | entries {bag : Bag} : bag.hasJoin = false → bag.length ≠ 1 →
      Notation.Respelled (.map bag) (.map [("must", .list [bag])])
  | list {bags bags' : List Bag} : Elements.Respelled bags bags' →
      Notation.Respelled (.list bags) (.list bags')
  | map {bag bag' : Bag} : Bag.Respelled bag bag' → Notation.Respelled (.map bag) (.map bag')

/-- Changes of spelling lead from one notation to the other, either way. -/
def Notation.Synonymous : Notation → Notation → Prop := Relation.EqvGen Notation.Respelled

/-! ## Clause lists -/

namespace Query

variable (table : QueryTable)

theorem elements_append (xs ys : List Bag) : elements table (xs ++ ys) = do
    let first ← elements table xs
    let others ← elements table ys
    return first ++ others := by
  induction xs with
  | nil => simp [elements]
  | cons bag xs ih =>
    rw [List.cons_append, elements_cons, elements_cons, ih]
    simp only [bind_assoc, pure_bind, List.append_assoc]

theorem element_of_entries {bag : Bag} (h : bag.hasJoin = false) :
    element table bag = entryLeaves table bag := by
  rw [element, h]
  rfl

theorem elements_single (bag : Bag) : elements table [bag] = element table bag := by
  rw [elements_cons, elements]
  simp only [pure_bind, List.append_nil, bind_pure]

/-- **An element that does not join** is one element for each of its entries. -/
theorem elements_entries {bag : Bag} (h : bag.hasJoin = false) :
    elements table (bag.map fun e => [e]) = element table bag := by
  rw [element_of_entries table h]
  induction bag with
  | nil => rfl
  | cons e rest ih =>
    obtain ⟨hfirst, hrest⟩ : Bag.hasJoin [e] = false ∧ Bag.hasJoin rest = false := by
      simpa [Bag.hasJoin] using h
    rw [List.map_cons, elements_cons, element_of_entries table hfirst, ih hrest]
    simp [entryLeaves]

section
variable {table}

/-- An element may be exchanged for elements that give the same queries. -/
theorem elements_exchange (before after : List Bag) {bag : Bag} {bags : List Bag}
    (h : elements table bags = element table bag) :
    elements table (before ++ bag :: after) = elements table (before ++ bags ++ after) := by
  simp only [elements_append, elements_cons, h, bind_assoc, pure_bind, List.append_assoc]

/-- The value of a joining key may be exchanged for one that gives the same queries. -/
theorem joinedClauses_exchange (join : Join) (before after : Bag) {value value' : Value}
    (h : joinedQueries table join value = joinedQueries table join value') :
    joinedClauses table (before ++ (join.key, value) :: after) =
      joinedClauses table (before ++ (join.key, value') :: after) := by
  induction before with
  | nil =>
    rw [List.nil_append, List.nil_append, joinedClauses_join table (Join.ofKey?_key join),
      joinedClauses_join table (Join.ofKey?_key join), h]
  | cons e before ih =>
    obtain ⟨key, other⟩ := e
    rw [List.cons_append, List.cons_append]
    cases hk : Join.ofKey? key with
    | none => rw [joinedClauses_stray table hk, joinedClauses_stray table hk, ih]
    | some own => rw [joinedClauses_join table hk, joinedClauses_join table hk, ih]

end

end Query

/-! ## Changes of spelling change nothing -/

section
variable {table : QueryTable}

theorem Bag.hasJoin_key (join : Join) (before : Bag) (value : Value) (after : Bag) :
    Bag.hasJoin (before ++ (join.key, value) :: after) = true := by
  simp [Bag.hasJoin]

theorem Bag.Respelled.hasJoin {bag bag' : Bag} (h : Bag.Respelled bag bag') :
    bag.hasJoin = true ∧ bag'.hasJoin = true := by
  cases h with
  | under join before after _ => exact ⟨Bag.hasJoin_key .., Bag.hasJoin_key ..⟩

theorem Query.element_congr {bag bag' : Bag} (hj : bag.hasJoin = true ∧ bag'.hasJoin = true)
    (h : Query.joinedClauses table bag = Query.joinedClauses table bag') :
    Query.element table bag = Query.element table bag' := by
  rw [Query.element, Query.element, if_pos hj.1, if_pos hj.2, h]

-- The induction is on where the change is; only `split` and `single` are changes themselves.
mutual

theorem Elements.Respelled.elements_eq : ∀ {bags bags' : List Bag},
    Elements.Respelled bags bags' → Query.elements table bags = Query.elements table bags'
  | _, _, .split before after hnone =>
    Query.elements_exchange before after (Query.elements_entries table hnone)
  | _, _, @Elements.Respelled.element before bag bag' after h => by
    have hsame : Query.elements table [bag'] = Query.element table bag := by
      rw [Query.elements_single, Query.element_congr h.hasJoin (Bag.Respelled.joinedClauses_eq h)]
    rw [Query.elements_exchange before after hsame, List.append_assoc, List.singleton_append]

theorem Value.Respelled.joinedQueries_eq (join : Join) : ∀ {value value' : Value},
    Value.Respelled value value' →
      Query.joinedQueries table join value = Query.joinedQueries table join value'
  | _, _, .single bag => by
    rw [Query.joinedQueries_nested, Query.joinedQueries_list, Query.elements_single]
  | _, _, .empty => rfl
  | _, _, .nested h => by
    rw [Query.joinedQueries_nested, Query.joinedQueries_nested,
      Query.element_congr h.hasJoin (Bag.Respelled.joinedClauses_eq h)]
  | _, _, .list h => Elements.Respelled.elements_eq h

theorem Bag.Respelled.joinedClauses_eq : ∀ {bag bag' : Bag}, Bag.Respelled bag bag' →
    Query.joinedClauses table bag = Query.joinedClauses table bag'
  | _, _, .under join before after h =>
    Query.joinedClauses_exchange join before after (Value.Respelled.joinedQueries_eq join h)

end

/-- What is under `must` alone is the one clause list of the query. -/
theorem Query.compile_must (value : Value) : Query.compile table (.map [("must", value)]) =
    (fun queries => Query.ofClauses { must := queries }) <$>
      Query.joinedQueries table .must value := by
  have hmust : Query.joinedClauses table [("must", value)] = _ :=
    Query.joinedClauses_join table (Join.ofKey?_key .must) value []
  rw [Query.compile_joined table rfl, hmust, Query.joinedClauses]
  simp [Clauses.set, Clauses.get]

theorem Notation.Respelled.compile_eq {n m : Notation} (h : Notation.Respelled n m) :
    Query.compile table n = Query.compile table m := by
  cases h with
  | elements bags => rw [Query.compile_must, Query.compile, Query.joinedQueries_list]
  | entries hnone hlen =>
    rw [Query.compile_must, Query.joinedQueries_list, Query.elements_single,
      Query.element_of_entries table hnone, Query.compile_entries table hnone hlen]
  | list h => rw [Query.compile, Query.compile, h.elements_eq]
  | map h =>
    obtain ⟨hj, hj'⟩ := h.hasJoin
    rw [Query.compile_joined table hj, Query.compile_joined table hj', h.joinedClauses_eq]

end

/-- **Spellings of a query compile identically**: to the same query or to the same error, with the
same events in the same order. -/
theorem Query.compile_eq_of_synonymous (table : QueryTable) {n m : Notation}
    (h : n.Synonymous m) : Query.compile table n = Query.compile table m := by
  induction h with
  | rel n m h => exact h.compile_eq
  | refl n => rfl
  | symm n m _ ih => exact ih.symm
  | trans n m k _ _ ih ih' => exact ih.trans ih'

/-- Sets of values are the only kind. -/
def setsOnly : QueryTable :=
  ⟨[("terms", ⟨"terms", [], .binary, "query", true, QueryKind.buildTerms⟩)], [], []⟩

/-- A map of two entries spread over the list under `must`; and a list of a map under a joining key
and of an empty map, spelled out to the end. -/
theorem Query.compile_eq_of_synonymous_spread :
    let id : String × Value := ("id", .array [.string "1"])
    let gone : String × Value := ("gone", .scalar .null)
    let entries : Notation := .map [gone, id]
    let spread : Notation := .map [("must", .list [[gone], [id]])]
    let short : Notation := .list [[("should", .nested [gone, id])], []]
    let long : Notation := .map [("must", .list [[("should", .list [[gone], [id]])]])]
    let leaf : Query := .leaf ⟨"terms", some "id", [("field", .ofString "id"),
      ("query", .array [.string "1"])], .terms "id" [.string "1"] []⟩
    entries.Synonymous spread ∧ short.Synonymous long ∧
      Query.compile setsOnly entries = Query.compile setsOnly spread ∧
      Query.compile setsOnly short = Query.compile setsOnly long ∧
      Query.compile setsOnly long = ⟨[.unmatchedEntry "gone" .null],
        .ok (.bool { must := [.bool { should := [leaf] }] })⟩ := by
  intro id gone entries spread short long leaf
  have hentries : entries.Synonymous spread := by
    refine .trans _ _ _ (.rel _ _ (.entries rfl (by decide))) (.rel _ _ ?_)
    exact .map (.under .must [] [] (.list (.split [] [] rfl)))
  have hshort : short.Synonymous long := by
    have hsingle : Elements.Respelled [[("should", .nested [gone, id])], []]
        [[("should", .list [[gone, id]])], []] :=
      .element [] [[]] (.under .should [] [] (.single _))
    have hsplit : Elements.Respelled [[("should", .list [[gone, id]])], []]
        [[("should", .list [[gone], [id]])], []] :=
      .element [] [[]] (.under .should [] [] (.list (.split [] [] rfl)))
    have hnone : Elements.Respelled [[("should", .list [[gone], [id]])], []]
        [[("should", .list [[gone], [id]])]] :=
      .split [[("should", .list [[gone], [id]])]] [] rfl
    refine .trans _ _ _ (.rel _ _ (.list hsingle)) (.trans _ _ _ (.rel _ _ (.list hsplit)) ?_)
    exact .trans _ _ _ (.rel _ _ (.list hnone)) (.rel _ _ (.elements _))
  exact ⟨hentries, hshort, Query.compile_eq_of_synonymous setsOnly hentries,
    Query.compile_eq_of_synonymous setsOnly hshort, rfl⟩

end SearchNotation
