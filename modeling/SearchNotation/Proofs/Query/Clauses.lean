import SearchNotation.Proofs.Logged
import SearchNotation.Query.Compile

/-!
# Clause lists and the elements that fill them

Equations for the four clause lists, one join at a time, and for the compilation of a clause list.
`Query.element` is what one element of a clause list is compiled to: its leaves, or the clauses
that its joining keys fill.
-/

set_option autoImplicit false

namespace SearchNotation

namespace Join

@[simp] theorem ofKey?_key (join : Join) : ofKey? join.key = some join := by
  cases join <;> rfl

theorem key_inj {join other : Join} (h : join.key = other.key) : join = other := by
  have hjoin := congrArg ofKey? h
  simpa only [ofKey?_key, Option.some.injEq] using hjoin

theorem mem_all (join : Join) : join ∈ all := by
  cases join <;> decide

end Join

namespace Clauses

variable {α : Type}

theorem get_set (clauses : Clauses α) (join other : Join) (list : List α) :
    (clauses.set join list).get other = if other = join then list else clauses.get other := by
  cases join <;> cases other <;> rfl

@[simp] theorem get_nil (join : Join) : ({} : Clauses α).get join = [] := by
  cases join <;> rfl

@[simp] theorem set_get (clauses : Clauses α) (join : Join) :
    clauses.set join (clauses.get join) = clauses := by
  cases join <;> rfl

theorem isEmpty_iff {clauses : Clauses α} :
    clauses.isEmpty = true ↔ ∀ join, clauses.get join = [] := by
  constructor
  · intro h join
    have hall := List.all_eq_true.1 h join join.mem_all
    exact List.isEmpty_iff.1 hall
  · intro h
    exact List.all_eq_true.2 fun join _ => List.isEmpty_iff.2 (h join)

end Clauses

namespace Bag

theorem hasJoin_single {key : String} (h : Join.ofKey? key = none) (value : Value) :
    hasJoin [(key, value)] = false := by
  simp [hasJoin, h]

end Bag

namespace Query

variable (table : QueryTable)

/-- The queries of one element of a clause list. -/
def element (bag : Bag) : Logged (List Query) :=
  if bag.hasJoin then asElement <$> joinedClauses table bag else entryLeaves table bag

theorem joinedQueries_nested (join : Join) (bag : Bag) :
    joinedQueries table join (.nested bag) = element table bag := rfl

theorem joinedQueries_list (join : Join) (bags : List Bag) :
    joinedQueries table join (.list bags) = elements table bags := rfl

theorem elements_cons (bag : Bag) (rest : List Bag) :
    elements table (bag :: rest) = do
      let queries ← element table bag
      let others ← elements table rest
      return queries ++ others := by
  rw [elements, element]
  split <;> rfl

theorem joinedClauses_stray {key : String} (h : Join.ofKey? key = none) (value : Value)
    (rest : Bag) : joinedClauses table ((key, value) :: rest) =
      Logged.after (.strayKey key) () >>= fun _ => joinedClauses table rest := by
  rw [joinedClauses]
  split
  · rfl
  · next join hj => rw [h] at hj; cases hj

theorem joinedClauses_join {key : String} {join : Join} (h : Join.ofKey? key = some join)
    (value : Value) (rest : Bag) : joinedClauses table ((key, value) :: rest) = do
      let queries ← joinedQueries table join value
      let clauses ← joinedClauses table rest
      return clauses.set join (queries ++ clauses.get join) := by
  rw [joinedClauses]
  split
  · next hj => rw [h] at hj; cases hj
  · next join' hj => rw [h] at hj; cases hj; rfl

/-! ### Maps at the root -/

theorem compile_joined {bag : Bag} (h : bag.hasJoin = true) :
    compile table (.map bag) = ofClauses <$> joinedClauses table bag := by
  simp only [compile, compileMap, h, if_true]

theorem compile_entry {key : String} (h : Join.ofKey? key = none) (value : Value) :
    compile table (.map [(key, value)]) =
      (fun leaf => (leaf.map Query.leaf).getD .matchAll) <$> resolve table key value := by
  simp only [compile, compileMap, Bag.hasJoin_single h, Bool.false_eq_true, if_false,
    map_eq_pure_bind]

/-- The entries of a map are the clauses under `must`, unless there is just one. -/
theorem compile_entries {bag : Bag} (h : bag.hasJoin = false) (hlen : bag.length ≠ 1) :
    compile table (.map bag) =
      (fun queries => ofClauses { must := queries }) <$> entryLeaves table bag := by
  simp only [compile, compileMap, h, Bool.false_eq_true, if_false]
  split
  · exact absurd rfl hlen
  · rfl

end Query

end SearchNotation
