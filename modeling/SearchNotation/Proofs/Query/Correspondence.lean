import SearchNotation.Proofs.Query.Clauses
import SearchNotation.Proofs.Query.Resolve

/-!
# What a query stands for

A notation is taken apart into items (`Notation.item`): an entry, or a map whose keys join. Under
each joining key of such a map stands a list of items (`itemsUnder`), and the elements of a clause
list that do not join are so many entries.

`Stands table item query`: the query is what is built for the item. An entry has the leaf that it
resolves to; a map that joins has, in each clause list, one clause for each of the items under the
key, in their order, less the items that are dropped (`Fills`, `Dropped`). A query that compiles
stands for its notation (`compile_stands`), so the shape of the tree is known without looking at
the compiler again.
-/

set_option autoImplicit false

namespace SearchNotation

/-- The elements that a value gives to the clause list of a joining key. -/
def Value.elements : Value → List Bag
  | .nested bag => [bag]
  | .list bags => bags
  | .scalar _ | .array _ => []

/-- What a clause is built from. -/
inductive Item where
  | entry (key : String) (value : Value)
  /-- A map with keys that join. -/
  | joined (bag : Bag)

namespace Item

/-- The entries of a bag, each an item. -/
def ofEntries (bag : Bag) : List Item := bag.map fun e => .entry e.1 e.2

/-- The items of an element of a clause list. -/
def ofElement (bag : Bag) : List Item := if bag.hasJoin then [.joined bag] else ofEntries bag

/-- The items that the value of a joining key holds. -/
def ofValue (value : Value) : List Item := value.elements.flatMap ofElement

/-- The items that a bag holds under a joining key. -/
def under (join : Join) (bag : Bag) : List Item :=
  bag.flatMap fun e => if Join.ofKey? e.1 = some join then ofValue e.2 else []

theorem under_cons {key : String} (value : Value) (rest : Bag) (join : Join) :
    under join ((key, value) :: rest) =
      (if Join.ofKey? key = some join then ofValue value else []) ++ under join rest := rfl

theorem ofValue_nested (bag : Bag) : ofValue (.nested bag) = ofElement bag := by
  simp [ofValue, Value.elements]

end Item

/-- A map of several entries, and a list, are what stands under `must`. -/
def Notation.item : Notation → Item
  | .null => .joined []
  | .list bags => .joined [(Join.must.key, .list bags)]
  | .map bag =>
    if bag.hasJoin then .joined bag
    else
      match bag with
      | [(key, value)] => .entry key value
      | _ => .joined [(Join.must.key, .nested bag)]

theorem Notation.item_joined {bag : Bag} (h : bag.hasJoin = true) :
    (Notation.map bag).item = .joined bag := if_pos h

theorem Notation.item_entry {key : String} {value : Value}
    (h : ¬ Bag.hasJoin [(key, value)] = true) :
    (Notation.map [(key, value)]).item = .entry key value := if_neg h

theorem Notation.item_entries {bag : Bag} (h : ¬ bag.hasJoin = true)
    (hmany : ∀ key value, bag = [(key, value)] → False) :
    (Notation.map bag).item = .joined [(Join.must.key, .nested bag)] := by
  simp only [Notation.item, if_neg h]

/-- The leaf that an entry resolves to. -/
def resolved? (table : QueryTable) (key : String) (value : Value) : Option Leaf :=
  match (resolve table key value).result with
  | .ok leaf => leaf
  | .error _ => none

theorem resolved?_of_ok {table : QueryTable} {key : String} {value : Value} {leaf : Option Leaf}
    (h : (resolve table key value).result = .ok leaf) : resolved? table key value = leaf := by
  simp [resolved?, h]

theorem resolve_of_resolved? {table : QueryTable} {key : String} {value : Value} {leaf : Leaf}
    (h : resolved? table key value = some leaf) :
    (resolve table key value).result = .ok (some leaf) := by
  unfold resolved? at h
  split at h
  · next heq => rw [heq, h]
  · cases h

/-! ## The correspondence -/

/-- Nothing in the item resolves to a leaf. -/
inductive Dropped (table : QueryTable) : Item → Prop
  | entry {key : String} {value : Value} :
      resolved? table key value = none → Dropped table (.entry key value)
  | joined {bag : Bag} :
      (∀ join, ∀ item ∈ Item.under join bag, Dropped table item) → Dropped table (.joined bag)

mutual

/-- The query is built for the item. -/
inductive Stands (table : QueryTable) : Item → Query → Prop
  | entry {key : String} {value : Value} {leaf : Leaf} :
      resolved? table key value = some leaf → Stands table (.entry key value) (.leaf leaf)
  | joined {bag : Bag} {clauses : Clauses Query} :
      clauses.isEmpty = false → (∀ join, Fills table (Item.under join bag) (clauses.get join)) →
      Stands table (.joined bag) (.bool clauses)

/-- The clauses are built for the items, one for each that is not dropped, in the same order. -/
inductive Fills (table : QueryTable) : List Item → List Query → Prop
  | nil : Fills table [] []
  | keep {item : Item} {query : Query} {items : List Item} {queries : List Query} :
      Stands table item query → Fills table items queries →
      Fills table (item :: items) (query :: queries)
  | drop {item : Item} {items : List Item} {queries : List Query} :
      Dropped table item → Fills table items queries → Fills table (item :: items) queries

end

/-- The query of a whole notation; where all is dropped, every document matches. -/
def Query.StandsFor (table : QueryTable) (n : Notation) (query : Query) : Prop :=
  Stands table n.item query ∨ Dropped table n.item ∧ query = .matchAll

section
variable {table : QueryTable}

theorem Fills.append {items items' : List Item} {queries queries' : List Query}
    (h : Fills table items queries) (h' : Fills table items' queries') :
    Fills table (items ++ items') (queries ++ queries') := by
  induction items generalizing queries with
  | nil => cases h; exact h'
  | cons item items ih =>
    cases h with
    | keep hs hf => exact .keep hs (ih hf)
    | drop hd hf => exact .drop hd (ih hf)

theorem Fills.dropped {items : List Item} (h : Fills table items []) :
    ∀ item ∈ items, Dropped table item := by
  induction items with
  | nil => simp
  | cons item items ih =>
    cases h with
    | drop hd hf => exact List.forall_mem_cons.2 ⟨hd, ih hf⟩

/-- A map that joins has one clause or none. -/
theorem fills_asElement {bag : Bag} {clauses : Clauses Query}
    (h : ∀ join, Fills table (Item.under join bag) (clauses.get join)) :
    Fills table [.joined bag] (Query.asElement clauses) := by
  unfold Query.asElement
  split
  · next he =>
    rw [Clauses.isEmpty_iff] at he
    exact .drop (.joined fun join => Fills.dropped (he join ▸ h join)) .nil
  · next hne => exact .keep (.joined (by simpa using hne) h) .nil

/-! ## What the compiler builds -/

theorem entryLeaves_fills {bag : Bag} {queries : List Query}
    (h : (Query.entryLeaves table bag).result = .ok queries) :
    Fills table (Item.ofEntries bag) queries := by
  induction bag generalizing queries with
  | nil => cases h; exact .nil
  | cons e rest ih =>
    obtain ⟨key, value⟩ := e
    simp only [Query.entryLeaves, Logged.result_bind_eq_ok] at h
    obtain ⟨leaf, hl, others, ho, hq⟩ := h
    cases hq
    cases leaf with
    | none => exact .drop (.entry (resolved?_of_ok hl)) (ih ho)
    | some leaf => exact .keep (.entry (resolved?_of_ok hl)) (ih ho)

/-- An element is built as soon as the clauses of its joining keys are. -/
theorem element_fills {bag : Bag} {queries : List Query}
    (hj : ∀ {clauses}, (Query.joinedClauses table bag).result = .ok clauses →
      ∀ join, Fills table (Item.under join bag) (clauses.get join))
    (h : (Query.element table bag).result = .ok queries) :
    Fills table (Item.ofElement bag) queries := by
  unfold Query.element at h
  unfold Item.ofElement
  split at h
  · next hjoin =>
    obtain ⟨clauses, hc, rfl⟩ := Logged.result_map_eq_ok.1 h
    rw [if_pos hjoin]
    exact fills_asElement (hj hc)
  · next hjoin =>
    rw [if_neg hjoin]
    exact entryLeaves_fills h

mutual

theorem joinedClauses_fills : ∀ (bag : List (String × Value)) {clauses : Clauses Query},
    (Query.joinedClauses table bag).result = .ok clauses →
      ∀ join, Fills table (Item.under join bag) (clauses.get join)
  | [], clauses, h, join => by
    cases h
    rw [Clauses.get_nil]
    exact .nil
  | (key, value) :: rest, clauses, h, join => by
    rw [Item.under_cons]
    cases hk : Join.ofKey? key with
    | none =>
      rw [Query.joinedClauses_stray table hk, Logged.result_bind_eq_ok] at h
      obtain ⟨_, -, h⟩ := h
      exact joinedClauses_fills rest h join
    | some own =>
      rw [Query.joinedClauses_join table hk, Logged.result_bind_eq_ok] at h
      obtain ⟨queries, hq, h⟩ := h
      obtain ⟨others, ho, hc⟩ := Logged.result_bind_eq_ok.1 h
      cases hc
      have hrest := joinedClauses_fills rest ho join
      rw [Clauses.get_set]
      by_cases hown : join = own
      · subst hown
        rw [if_pos rfl, if_pos rfl]
        exact (joinedQueries_fills join value hq).append hrest
      · rwa [if_neg hown, if_neg fun h => hown (Option.some.inj h).symm]

theorem joinedQueries_fills (join : Join) : ∀ (value : Value) {queries : List Query},
    (Query.joinedQueries table join value).result = .ok queries →
      Fills table (Item.ofValue value) queries
  | .list bags, queries, h => elements_fills bags h
  | .nested bag, queries, h => by
    rw [Query.joinedQueries_nested] at h
    rw [Item.ofValue_nested]
    exact element_fills (joinedClauses_fills bag) h
  | .array [], queries, h => by cases h; exact .nil
  | .array (_ :: _), queries, h => by cases h; exact .nil
  | .scalar _, queries, h => by cases h; exact .nil

theorem elements_fills : ∀ (bags : List (List (String × Value))) {queries : List Query},
    (Query.elements table bags).result = .ok queries →
      Fills table (bags.flatMap Item.ofElement) queries
  | [], queries, h => by cases h; exact .nil
  | bag :: rest, queries, h => by
    simp only [Query.elements_cons, Logged.result_bind_eq_ok] at h
    obtain ⟨first, hf, others, ho, hq⟩ := h
    cases hq
    rw [List.flatMap_cons]
    exact (element_fills (joinedClauses_fills bag) hf).append (elements_fills rest ho)

end

/-! ### Roots -/

theorem stands_ofClauses {bag : Bag} {clauses : Clauses Query}
    (h : ∀ join, Fills table (Item.under join bag) (clauses.get join)) :
    Stands table (.joined bag) (Query.ofClauses clauses) ∨
      Dropped table (.joined bag) ∧ Query.ofClauses clauses = .matchAll := by
  unfold Query.ofClauses
  split
  · next he =>
    rw [Clauses.isEmpty_iff] at he
    exact .inr ⟨.joined fun join => Fills.dropped (he join ▸ h join), rfl⟩
  · next hne => exact .inl (.joined (by simpa using hne) h)

theorem fills_must {value : Value} {queries : List Query}
    (h : Fills table (Item.ofValue value) queries) (join : Join) :
    Fills table (Item.under join [(Join.must.key, value)])
      (({ must := queries } : Clauses Query).get join) := by
  have hnil : Item.under join [] = [] := rfl
  rw [Item.under_cons, Join.ofKey?_key, hnil, List.append_nil]
  cases join with
  | must => exact h
  | _ => exact .nil

/-- **A query that compiles stands for its notation.** -/
theorem compile_stands {n : Notation} {query : Query}
    (h : (Query.compile table n).result = .ok query) : query.StandsFor table n := by
  unfold Query.StandsFor
  cases n with
  | null =>
    cases h
    exact .inr ⟨.joined fun join => nofun, rfl⟩
  | list bags =>
    obtain ⟨queries, hq, rfl⟩ := Logged.result_map_eq_ok.1 h
    exact stands_ofClauses (fills_must (elements_fills bags hq))
  | map bag =>
    simp only [Query.compile, Query.compileMap] at h
    split at h
    · next hjoin =>
      obtain ⟨clauses, hc, rfl⟩ := Logged.result_map_eq_ok.1 h
      rw [Notation.item_joined hjoin]
      exact stands_ofClauses (joinedClauses_fills bag hc)
    · next hjoin =>
      split at h
      · next key value =>
        obtain ⟨leaf, hl, hq⟩ := Logged.result_bind_eq_ok.1 h
        cases hq
        rw [Notation.item_entry hjoin]
        cases leaf with
        | none => exact .inr ⟨.entry (resolved?_of_ok hl), rfl⟩
        | some leaf => exact .inl (.entry (resolved?_of_ok hl))
      · next hmany =>
        obtain ⟨queries, hq, rfl⟩ := Logged.result_map_eq_ok.1 h
        rw [Notation.item_entries hjoin hmany]
        refine stands_ofClauses (fills_must ?_)
        rw [Item.ofValue_nested, Item.ofElement, if_neg hjoin]
        exact entryLeaves_fills hq

end

end SearchNotation
