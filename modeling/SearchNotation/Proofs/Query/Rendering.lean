import Mathlib.Data.List.Forall2
import SearchNotation.Proofs.Dict
import SearchNotation.Proofs.Query.Clauses
import SearchNotation.Query.Tree

/-!
# What the engine form of a query says

`Query.SameShape same p q`: the queries are built alike, clause list by clause list, and their
leaves have the same name and are written as values that are the `same`. The engine form says
exactly this much of a query (`toJson_eq_iff_sameShape`), whether numbers are compared with the
signs of zeros or without: no predicate is written like a joined query or like the query that
matches everything (`Predicate.name_ne`), and each clause list can be read off
(`get?_clauseMembers`), also where empty ones are left out.
-/

set_option autoImplicit false

namespace SearchNotation

namespace Json

/-- Two values are equal if `f` is applied to every number. -/
def EqUpTo (f : Number → Number) (x y : Json) : Prop := x.mapNumbers f = y.mapNumbers f

/-- Two values are equal where both zeros are one number. -/
def Same : Json → Json → Prop := EqUpTo .withoutZeroSign

variable (f : Number → Number)

theorem single_inj {k l : String} {x y : Json} : single k x = single l y ↔ k = l ∧ x = y := by
  simp [single]

theorem mapNumbers_single (key : String) (value : Json) :
    (single key value).mapNumbers f = single key (value.mapNumbers f) := rfl

theorem mapNumbersItems_eq (items : List Json) :
    mapNumbersItems f items = items.map (mapNumbers f) := by
  induction items with
  | nil => rfl
  | cons item rest ih => rw [mapNumbersItems, ih, List.map_cons]

theorem mapNumbersMembers_eq (members : Dict Json) :
    mapNumbersMembers f members = Dict.mapValues (mapNumbers f) members := by
  induction members with
  | nil => rfl
  | cons e rest ih =>
    obtain ⟨key, value⟩ := e
    rw [mapNumbersMembers, ih]
    rfl

mutual

theorem mapNumbers_id : ∀ json : Json, json.mapNumbers id = json
  | .null | .bool _ | .number _ | .string _ => rfl
  | .array items => congrArg Json.array (mapNumbersItems_id items)
  | .object members => congrArg Json.object (mapNumbersMembers_id members)

theorem mapNumbersItems_id : ∀ items : List Json, mapNumbersItems id items = items
  | [] => rfl
  | item :: rest => by rw [mapNumbersItems, mapNumbers_id item, mapNumbersItems_id rest]

theorem mapNumbersMembers_id : ∀ members : List (String × Json),
    mapNumbersMembers id members = members
  | [] => rfl
  | (key, value) :: rest => by
    rw [mapNumbersMembers, mapNumbers_id value, mapNumbersMembers_id rest]

end

end Json

/-! ## Names -/

/-- **No predicate has the name** of what joins queries or of what matches everything. -/
theorem Predicate.name_ne (p : Predicate) : p.name ≠ "bool" ∧ p.name ≠ "match_all" := by
  cases p with
  | onField test => cases test <;> simp [name, FieldTest.name]
  | _ => simp [name]

/-! ## Clause lists -/

namespace Clauses

/-- The clause lists with a function applied to every clause. -/
def map {α β : Type} (f : α → β) (clauses : Clauses α) : Clauses β :=
  ⟨clauses.must.map f, clauses.mustNot.map f, clauses.should.map f, clauses.filter.map f⟩

variable {α β : Type}

theorem get_map (f : α → β) (clauses : Clauses α) (join : Join) :
    (clauses.map f).get join = (clauses.get join).map f := by
  cases join <;> rfl

theorem ext_get {xs ys : Clauses α} (h : ∀ join, xs.get join = ys.get join) : xs = ys := by
  obtain ⟨must, mustNot, should, filter⟩ := xs
  obtain ⟨must', mustNot', should', filter'⟩ := ys
  have h₁ := h .must
  have h₂ := h .mustNot
  have h₃ := h .should
  have h₄ := h .filter
  simp only [get] at h₁ h₂ h₃ h₄
  rw [h₁, h₂, h₃, h₄]

end Clauses

namespace Query

/-- The members of a joined query in the order of the joins. -/
def givenMembers (clauses : Clauses Json) : Dict Json :=
  (Join.all.filter fun join => !(clauses.get join).isEmpty).map
    fun join => (join.key, .array (clauses.get join))

theorem mem_givenMembers {clauses : Clauses Json} {join : Join} {value : Json} :
    (join.key, value) ∈ givenMembers clauses ↔
      clauses.get join ≠ [] ∧ value = .array (clauses.get join) := by
  simp only [givenMembers, List.mem_map, List.mem_filter, Prod.mk.injEq, Bool.not_eq_true',
    List.isEmpty_eq_false_iff]
  constructor
  · rintro ⟨other, ⟨-, hne⟩, hkey, rfl⟩
    obtain rfl := Join.key_inj hkey
    exact ⟨hne, rfl⟩
  · rintro ⟨hne, rfl⟩
    exact ⟨join, ⟨join.mem_all, hne⟩, rfl, rfl⟩

theorem nodup_keys_givenMembers (clauses : Clauses Json) :
    (Dict.keys (givenMembers clauses)).Nodup := by
  have hall : (Join.all.map Join.key).Nodup := by decide
  have hkeys : Dict.keys (givenMembers clauses) =
      (Join.all.filter fun join => !(clauses.get join).isEmpty).map Join.key := by
    simp [Dict.keys, givenMembers]
  rw [hkeys]
  exact hall.sublist (List.filter_sublist.map _)

/-- **Each clause list can be read off the members**, an empty one by its absence. -/
theorem get?_clauseMembers (clauses : Clauses Json) (join : Join) :
    Dict.get? (clauseMembers clauses) join.key =
      if clauses.get join = [] then none else some (.array (clauses.get join)) := by
  have hperm := Dict.perm_ofList (nodup_keys_givenMembers clauses)
  split
  · next hempty =>
    refine Dict.get?_eq_none fun e he hkey => ?_
    obtain ⟨key, value⟩ := e
    obtain rfl : key = join.key := hkey
    exact (mem_givenMembers.1 (hperm.mem_iff.1 he)).1 hempty
  · next hne =>
    refine Dict.get?_of_mem (Dict.sorted_ofList _) (hperm.mem_iff.2 ?_)
    exact mem_givenMembers.2 ⟨hne, rfl⟩

theorem clauseMembers_inj {xs ys : Clauses Json} :
    clauseMembers xs = clauseMembers ys ↔ xs = ys := by
  refine ⟨fun h => Clauses.ext_get fun join => ?_, congrArg clauseMembers⟩
  have hget := congrArg (Dict.get? · join.key) h
  simp only [get?_clauseMembers] at hget
  split at hget <;> split at hget
  · next hx hy => rw [hx, hy]
  · cases hget
  · cases hget
  · exact Json.array.inj (Option.some.inj hget)

end Query

/-! ## Shapes -/

namespace Query

/-- Queries that are built alike, with leaves of one name that are written as the same. -/
inductive SameShape (same : Json → Json → Prop) : Query → Query → Prop
  | matchAll : SameShape same .matchAll .matchAll
  | bool {xs ys : Clauses Query} :
      (∀ join, List.Forall₂ (SameShape same) (xs.get join) (ys.get join)) →
      SameShape same (.bool xs) (.bool ys)
  | leaf {l m : Leaf} : l.predicate.name = m.predicate.name →
      same l.predicate.toJson m.predicate.toJson → SameShape same (.leaf l) (.leaf m)

variable (f : Json.Number → Json.Number)

/-- The engine form with every number replaced. -/
def written (query : Query) : Json := query.toJson.mapNumbers f

theorem listToJson_eq (queries : List Query) : listToJson queries = queries.map toJson := by
  induction queries with
  | nil => rfl
  | cons query rest ih => rw [listToJson, ih, List.map_cons]

theorem clausesToJson_eq (clauses : Clauses Query) :
    clausesToJson clauses = clauses.map toJson := by
  obtain ⟨must, mustNot, should, filter⟩ := clauses
  simp only [clausesToJson, listToJson_eq, Clauses.map]

theorem written_matchAll : written f .matchAll = Json.single "match_all" (.object []) := rfl

theorem written_leaf (l : Leaf) :
    written f (.leaf l) = Json.single l.predicate.name (l.predicate.body.mapNumbers f) := rfl

theorem mapValues_clauseMembers (clauses : Clauses Json) :
    Dict.mapValues (Json.mapNumbers f) (clauseMembers clauses) =
      clauseMembers (clauses.map (Json.mapNumbers f)) := by
  have hgiven : Dict.mapValues (Json.mapNumbers f) (givenMembers clauses) =
      givenMembers (clauses.map (Json.mapNumbers f)) := by
    simp only [givenMembers, Dict.mapValues, List.map_map, Clauses.get_map, List.isEmpty_map]
    refine List.map_congr_left fun join _ => ?_
    simp only [Function.comp_apply, Json.mapNumbers, Json.mapNumbersItems_eq]
  rw [clauseMembers, Dict.mapValues_ofList]
  exact congrArg Dict.ofList hgiven

theorem written_bool (clauses : Clauses Query) : written f (.bool clauses) =
    Json.single "bool" (.object (clauseMembers (clauses.map (written f)))) := by
  have hmap : (clauses.map toJson).map (Json.mapNumbers f) = clauses.map (written f) :=
    Clauses.ext_get fun join => by
      simp only [Clauses.get_map, List.map_map]
      rfl
  rw [written, toJson, Json.mapNumbers_single, Json.mapNumbers, Json.mapNumbersMembers_eq,
    mapValues_clauseMembers, clausesToJson_eq, hmap]

mutual

/-- **Queries that are written alike are built alike.** -/
theorem sameShape_of_written_eq : ∀ p q : Query, written f p = written f q →
    SameShape (Json.EqUpTo f) p q
  | .matchAll, .matchAll, _ => .matchAll
  | .matchAll, .bool _, h => by
    rw [written_matchAll, written_bool, Json.single_inj] at h
    simp at h
  | .matchAll, .leaf l, h => by
    rw [written_matchAll, written_leaf, Json.single_inj] at h
    exact absurd h.1.symm l.predicate.name_ne.2
  | .bool _, .matchAll, h => by
    rw [written_matchAll, written_bool, Json.single_inj] at h
    simp at h
  | .bool ⟨must, mustNot, should, filter⟩, .bool ys, h => by
    rw [written_bool, written_bool, Json.single_inj, Json.object.injEq, clauseMembers_inj] at h
    have hget : ∀ join, _ = _ := fun join => congrArg (Clauses.get · join) h.2
    simp only [Clauses.get_map] at hget
    refine .bool fun join => ?_
    cases join with
    | must => exact forall₂_sameShape_of_map_eq must _ (hget .must)
    | mustNot => exact forall₂_sameShape_of_map_eq mustNot _ (hget .mustNot)
    | should => exact forall₂_sameShape_of_map_eq should _ (hget .should)
    | filter => exact forall₂_sameShape_of_map_eq filter _ (hget .filter)
  | .bool _, .leaf l, h => by
    rw [written_bool, written_leaf, Json.single_inj] at h
    exact absurd h.1.symm l.predicate.name_ne.1
  | .leaf l, .matchAll, h => by
    rw [written_matchAll, written_leaf, Json.single_inj] at h
    exact absurd h.1 l.predicate.name_ne.2
  | .leaf l, .bool _, h => by
    rw [written_bool, written_leaf, Json.single_inj] at h
    exact absurd h.1 l.predicate.name_ne.1
  | .leaf _, .leaf _, h => .leaf (Json.single_inj.1 h).1 h

theorem forall₂_sameShape_of_map_eq : ∀ ps qs : List Query,
    ps.map (written f) = qs.map (written f) → List.Forall₂ (SameShape (Json.EqUpTo f)) ps qs
  | [], [], _ => .nil
  | [], _ :: _, h => nomatch h
  | _ :: _, [], h => nomatch h
  | p :: ps, q :: qs, h => by
    rw [List.map_cons, List.map_cons, List.cons.injEq] at h
    exact .cons (sameShape_of_written_eq p q h.1) (forall₂_sameShape_of_map_eq ps qs h.2)

end

mutual

/-- **Queries that are built alike are written alike.** -/
theorem written_eq_of_sameShape : ∀ p q : Query, SameShape (Json.EqUpTo f) p q →
    written f p = written f q
  | .matchAll, _, h => by
    cases h
    rfl
  | .leaf _, _, h => by
    cases h with
    | leaf hname hsame => exact hsame
  | .bool ⟨must, mustNot, should, filter⟩, _, h => by
    cases h with
    | @bool _ ys hclauses =>
      have hmap : Clauses.map (written f) ⟨must, mustNot, should, filter⟩ = ys.map (written f) := by
        refine Clauses.ext_get fun join => ?_
        rw [Clauses.get_map, Clauses.get_map]
        cases join with
        | must => exact map_eq_of_forall₂_sameShape must _ (hclauses .must)
        | mustNot => exact map_eq_of_forall₂_sameShape mustNot _ (hclauses .mustNot)
        | should => exact map_eq_of_forall₂_sameShape should _ (hclauses .should)
        | filter => exact map_eq_of_forall₂_sameShape filter _ (hclauses .filter)
      rw [written_bool, written_bool, hmap]

theorem map_eq_of_forall₂_sameShape : ∀ ps qs : List Query,
    List.Forall₂ (SameShape (Json.EqUpTo f)) ps qs → ps.map (written f) = qs.map (written f)
  | [], _, h => by
    cases h
    rfl
  | p :: ps, _, h => by
    cases h with
    | cons hp hps =>
      rw [List.map_cons, List.map_cons, written_eq_of_sameShape p _ hp,
        map_eq_of_forall₂_sameShape ps _ hps]

end

theorem toJson_eqUpTo_iff (p q : Query) :
    Json.EqUpTo f p.toJson q.toJson ↔ SameShape (Json.EqUpTo f) p q :=
  ⟨sameShape_of_written_eq f p q, written_eq_of_sameShape f p q⟩

/-- **The engine form says exactly how a query is built**: no clause is lost, joined with another,
out of order or in another clause list, and each leaf is written as it is. -/
theorem toJson_eq_iff_sameShape (p q : Query) :
    (p.toJson = q.toJson ↔ SameShape Eq p q) ∧
      (p.toJson.Same q.toJson ↔ SameShape Json.Same p q) := by
  have heq : Json.EqUpTo id = Eq := by
    funext x y
    rw [Json.EqUpTo, Json.mapNumbers_id, Json.mapNumbers_id]
  refine ⟨?_, toJson_eqUpTo_iff .withoutZeroSign p q⟩
  have hid := toJson_eqUpTo_iff id p q
  rwa [heq] at hid

end Query

end SearchNotation
