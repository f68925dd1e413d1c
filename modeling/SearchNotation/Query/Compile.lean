import SearchNotation.Query.Resolve

/-!
# Compiling queries

A map with one key that joins nothing is a leaf, and a map of several such keys requires all of
them. A key that joins (`must`, `must_not`, `should`, `filter`) fills its clause list from the
maps under it; other keys beside one are ignored. A list at the root is what is under `must`.
Entries that resolve to nothing are dropped, and a query without clauses matches every document.

Everything left out has an event. Maps are gone through in the order of their keys.
-/

set_option autoImplicit false

namespace SearchNotation

namespace Bag

/-- Whether a bag has a key that joins queries. -/
def hasJoin (bag : Bag) : Bool := bag.any fun e => (Join.ofKey? e.1).isSome

end Bag

namespace Query

variable (table : QueryTable)

/-- The leaves of the entries of a bag. -/
def entryLeaves : Bag → Logged (List Query)
  | [] => pure []
  | (key, value) :: rest => do
    let leaf ← resolve table key value
    let others ← entryLeaves rest
    return (leaf.map Query.leaf).toList ++ others

/-- A query as an element of a clause list, where one that matches everything is left out. -/
def asElement (clauses : Clauses Query) : List Query :=
  if clauses.isEmpty then [] else [.bool clauses]

mutual

/-- The clauses that the joining keys of a bag are filled with. -/
def joinedClauses : List (String × Value) → Logged (Clauses Query)
  | [] => pure {}
  | (key, value) :: rest =>
    match Join.ofKey? key with
    | none => do
      Logged.after (.strayKey key) ()
      joinedClauses rest
    | some join => do
      let queries ← joinedQueries join value
      let clauses ← joinedClauses rest
      return clauses.set join (queries ++ clauses.get join)
  termination_by structural bag => bag

/-- The queries under a joining key. -/
def joinedQueries (join : Join) : Value → Logged (List Query)
  | .list bags => elements bags
  | .nested bag =>
    if Bag.hasJoin bag then asElement <$> joinedClauses bag else entryLeaves table bag
  | .array [] => pure []
  | .array (item :: items) =>
    Logged.after (.strayJoin join.key (Value.array (item :: items)).shape) []
  | .scalar s => Logged.after (.strayJoin join.key (Value.scalar s).shape) []
  termination_by structural value => value

/-- The queries of the elements of a clause list. -/
def elements : List (List (String × Value)) → Logged (List Query)
  | [] => pure []
  | bag :: rest => do
    let queries ←
      if Bag.hasJoin bag then asElement <$> joinedClauses bag else entryLeaves table bag
    let others ← elements rest
    return queries ++ others
  termination_by structural bags => bags

end

/-- The query that a map stands for. -/
def compileMap (bag : Bag) : Logged Query :=
  if bag.hasJoin then ofClauses <$> joinedClauses table bag
  else
    match bag with
    | [(key, value)] => do
      let leaf ← resolve table key value
      return (leaf.map Query.leaf).getD .matchAll
    | _ => (fun leaves => ofClauses { must := leaves }) <$> entryLeaves table bag

/-- The query that a notation stands for. -/
def compile : Notation → Logged Query
  | .null => pure .matchAll
  | .map bag => compileMap table bag
  | .list bags => (fun queries => ofClauses { must := queries }) <$> elements table bags

/-- Reads a notation and compiles it. -/
def compileText (text : Option String) : Logged Query :=
  match Notation.read text with
  | .ok n => compile table n
  | .error e => Logged.fail (.unreadable e)

end Query

end SearchNotation
