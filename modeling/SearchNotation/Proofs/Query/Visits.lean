import SearchNotation.Proofs.Query.Correspondence

/-!
# The way through a notation

What the compiler comes to in a notation, from left to right (`Notation.visits`): entries, each
below the joining keys that lead to it, keys that join nothing beside keys that do, and joining keys
without objects. Nothing else matters for what a compilation logs and how it fails: it is the run
of the visits one after the other (`trace_compile`).
-/

set_option autoImplicit false

namespace SearchNotation

/-- An entry that the compiler comes to, with the joining keys above it from the root on. -/
structure Reached where
  joins : List Join
  key : String
  value : Value

/-- What the compiler comes to. -/
inductive Visit where
  | entry (reached : Reached)
  /-- A key that joins nothing beside keys that do. -/
  | strayKey (key : String)
  /-- A joining key whose value holds no objects. -/
  | strayJoin (join : Join) (value : Value)

namespace Visit

/-- The visit below one more joining key. -/
def under (join : Join) : Visit → Visit
  | .entry r => .entry { r with joins := join :: r.joins }
  | visit => visit

/-- The entry that is reached. -/
def reached? : Visit → Option Reached
  | .entry r => some r
  | _ => none

/-- The entries of a map that does not join. -/
def ofEntries (bag : Bag) : List Visit := bag.map fun e => .entry ⟨[], e.1, e.2⟩

mutual

/-- The visits of a map that joins. -/
def ofJoined : List (String × Value) → List Visit
  | [] => []
  | (key, value) :: rest =>
    match Join.ofKey? key with
    | none => .strayKey key :: ofJoined rest
    | some join => ofValue join value ++ ofJoined rest
  termination_by structural bag => bag

/-- The visits of the value of a joining key. -/
def ofValue (join : Join) : Value → List Visit
  | .list bags => (ofElements bags).map (under join)
  | .nested bag => (if Bag.hasJoin bag then ofJoined bag else ofEntries bag).map (under join)
  | .array [] => []
  | .array (item :: items) => [.strayJoin join (.array (item :: items))]
  | .scalar s => [.strayJoin join (.scalar s)]
  termination_by structural value => value

/-- The visits of the elements of a clause list. -/
def ofElements : List (List (String × Value)) → List Visit
  | [] => []
  | bag :: rest => (if Bag.hasJoin bag then ofJoined bag else ofEntries bag) ++ ofElements rest
  termination_by structural bags => bags

end

/-- The visits of one element of a clause list. -/
def ofElement (bag : Bag) : List Visit := if bag.hasJoin then ofJoined bag else ofEntries bag

theorem ofJoined_stray {key : String} (h : Join.ofKey? key = none) (value : Value) (rest : Bag) :
    ofJoined ((key, value) :: rest) = .strayKey key :: ofJoined rest := by
  rw [ofJoined, h]

theorem ofJoined_join {key : String} {join : Join} (h : Join.ofKey? key = some join)
    (value : Value) (rest : Bag) :
    ofJoined ((key, value) :: rest) = ofValue join value ++ ofJoined rest := by
  rw [ofJoined, h]

theorem ofValue_list (join : Join) (bags : List Bag) :
    ofValue join (.list bags) = (ofElements bags).map (under join) := rfl

theorem ofValue_nested (join : Join) (bag : Bag) :
    ofValue join (.nested bag) = (ofElement bag).map (under join) := rfl

theorem ofElements_cons (bag : Bag) (rest : List Bag) :
    ofElements (bag :: rest) = ofElement bag ++ ofElements rest := rfl

end Visit

/-- The visits of what a clause is built from. -/
def Item.visits : Item → List Visit
  | .entry key value => [.entry ⟨[], key, value⟩]
  | .joined bag => Visit.ofJoined bag

namespace Notation

/-- The visits of a whole notation. -/
def visits (n : Notation) : List Visit := n.item.visits

/-- The entries that the compiler comes to. -/
def reached (n : Notation) : List Reached := n.visits.filterMap Visit.reached?

end Notation

/-! ## Running the visits -/

/-- What a visit logs and whether it fails. -/
def Visit.run (table : QueryTable) : Visit → Logged Unit
  | .entry r => Logged.trace (resolve table r.key r.value)
  | .strayKey key => Logged.after (.strayKey key) ()
  | .strayJoin join value => Logged.after (.strayJoin join.key value.shape) ()

section
variable {table : QueryTable}

@[simp] theorem Visit.run_under (join : Join) (visit : Visit) :
    (visit.under join).run table = visit.run table := by
  cases visit <;> rfl

theorem forM_run_under (join : Join) (visits : List Visit) :
    forM (visits.map (Visit.under join)) (Visit.run table) = forM visits (Visit.run table) := by
  simp

theorem trace_entryLeaves (bag : Bag) : Logged.trace (Query.entryLeaves table bag) =
    forM (Visit.ofEntries bag) (Visit.run table) := by
  induction bag with
  | nil => rfl
  | cons e rest ih =>
    rw [Query.entryLeaves,
      Logged.trace_bind fun leaf => by rw [bind_pure_comp, Logged.trace_map], ih]
    rfl

/-- An element is run as soon as its joining keys are. -/
theorem trace_element {bag : Bag} (hj : Logged.trace (Query.joinedClauses table bag) =
      forM (Visit.ofJoined bag) (Visit.run table)) :
    Logged.trace (Query.element table bag) = forM (Visit.ofElement bag) (Visit.run table) := by
  unfold Query.element Visit.ofElement
  split
  · rw [Logged.trace_map, hj]
  · exact trace_entryLeaves bag

mutual

theorem trace_joinedClauses : ∀ bag : List (String × Value),
    Logged.trace (Query.joinedClauses table bag) = forM (Visit.ofJoined bag) (Visit.run table)
  | [] => rfl
  | (key, value) :: rest => by
    cases hk : Join.ofKey? key with
    | none =>
      rw [Query.joinedClauses_stray table hk, Visit.ofJoined_stray hk,
        Logged.trace_bind fun _ => trace_joinedClauses rest]
      rfl
    | some join =>
      rw [Query.joinedClauses_join table hk, Visit.ofJoined_join hk, List.forM_append,
        Logged.trace_bind fun queries => by rw [bind_pure_comp, Logged.trace_map],
        trace_joinedQueries join value, trace_joinedClauses rest]

theorem trace_joinedQueries (join : Join) : ∀ value : Value,
    Logged.trace (Query.joinedQueries table join value) =
      forM (Visit.ofValue join value) (Visit.run table)
  | .list bags => by
    rw [Query.joinedQueries_list, Visit.ofValue_list, forM_run_under]
    exact trace_elements bags
  | .nested bag => by
    rw [Query.joinedQueries_nested, Visit.ofValue_nested, forM_run_under]
    exact trace_element (trace_joinedClauses bag)
  | .array [] => rfl
  | .array (_ :: _) => rfl
  | .scalar _ => rfl

theorem trace_elements : ∀ bags : List (List (String × Value)),
    Logged.trace (Query.elements table bags) = forM (Visit.ofElements bags) (Visit.run table)
  | [] => rfl
  | bag :: rest => by
    rw [Query.elements_cons, Visit.ofElements_cons, List.forM_append,
      Logged.trace_bind fun queries => by rw [bind_pure_comp, Logged.trace_map],
      trace_element (trace_joinedClauses bag), trace_elements rest]

end

theorem visits_must (value : Value) :
    (Item.joined [(Join.must.key, value)]).visits = Visit.ofValue .must value := by
  rw [Item.visits, Visit.ofJoined_join (Join.ofKey?_key .must), Visit.ofJoined, List.append_nil]

/-- **A compilation logs and fails as its visits do**, one after the other. -/
theorem trace_compile (table : QueryTable) (n : Notation) :
    Logged.trace (Query.compile table n) = forM n.visits (Visit.run table) := by
  unfold Notation.visits
  cases n with
  | null => rfl
  | list bags =>
    rw [Query.compile, Logged.trace_map, trace_elements, Notation.item, visits_must,
      Visit.ofValue_list, forM_run_under]
  | map bag =>
    simp only [Query.compile, Query.compileMap]
    split
    · next hjoin =>
      rw [Logged.trace_map, trace_joinedClauses, Notation.item_joined hjoin, Item.visits]
    · next hjoin =>
      split
      · next key value =>
        rw [Notation.item_entry hjoin, bind_pure_comp, Logged.trace_map]
        simp [Item.visits, Visit.run]
      · next hmany =>
        rw [Logged.trace_map, trace_entryLeaves, Notation.item_entries hjoin hmany, visits_must,
          Visit.ofValue_nested, forM_run_under, Visit.ofElement, if_neg hjoin]

end

end SearchNotation
