import SearchNotation.Proofs.Json.OneLine
import SearchNotation.Proofs.Query.Rendering
import SearchNotation.Proofs.Text.Outline

/-!
# What the outline of a query says

The outline of a query has a line for each place in it (`Place`): the queries in it, each at the end
of a path of clause lists and positions (`at?`), and the clause lists that are not empty. Each line
is moved to the right by the length of the path (`Named.drawnAs`).

It says no less than how the query is built. A label is told from the blanks in front of it and from
what is below it (`Text.Outline`); the labels below a joined query say what stands in each clause
list (`clausesOutlines_inj`), and the label of a query which query it is, with the kind, the field
and the JSON text of a leaf (`Head.text_inj`). So queries with the same text have the same in each
place (`Named.head_eq`), provided that the kinds of their leaves have words for names (`Named`).
-/

set_option autoImplicit false

namespace SearchNotation

open Text (Outline)

namespace Query

/-! ## Induction on clauses -/

/-- It holds of a joined query if it holds of its clauses, and of every other query. -/
structure Hereditary (motive : Query → Prop) : Prop where
  matchAll : motive .matchAll
  leaf : ∀ l, motive (.leaf l)
  bool : ∀ clauses : Clauses Query, (∀ join, ∀ clause ∈ clauses.get join, motive clause) →
    motive (.bool clauses)

mutual

theorem Hereditary.holds {motive : Query → Prop} (h : Hereditary motive) :
    ∀ query : Query, motive query
  | .matchAll => h.matchAll
  | .leaf l => h.leaf l
  | .bool ⟨must, mustNot, should, filter⟩ => h.bool _ fun join =>
    match join with
    | .must => h.forall_mem must
    | .mustNot => h.forall_mem mustNot
    | .should => h.forall_mem should
    | .filter => h.forall_mem filter
  termination_by structural query => query

theorem Hereditary.forall_mem {motive : Query → Prop} (h : Hereditary motive) :
    ∀ queries : List Query, ∀ query ∈ queries, motive query
  | [], _, hq => nomatch hq
  | first :: rest, query, hq => by
    rcases List.mem_cons.1 hq with he | hq
    · exact he ▸ h.holds first
    · exact h.forall_mem rest query hq
  termination_by structural queries => queries

end

/-- **Induction on clauses**, from the leaves up. -/
@[elab_as_elim]
theorem clauseInduction {motive : Query → Prop} (matchAll : motive .matchAll)
    (leaf : ∀ l, motive (.leaf l))
    (bool : ∀ clauses : Clauses Query, (∀ join, ∀ clause ∈ clauses.get join, motive clause) →
      motive (.bool clauses)) (query : Query) : motive query :=
  Hereditary.holds ⟨matchAll, leaf, bool⟩ query

/-! ## Places -/

/-- The way to a query inside another: clause lists, and positions in them. -/
abbrev Path := List (Join × Nat)

/-- The query at the end of a path. -/
def at? : Query → Path → Option Query
  | query, [] => some query
  | .bool clauses, (join, i) :: path => (clauses.get join)[i]?.bind fun clause => clause.at? path
  | .matchAll, _ :: _ => none
  | .leaf _, _ :: _ => none

/-- What the outline has a line for: a query, or a clause list of a joined query. -/
inductive Place where
  | query (path : Path)
  | clauses (path : Path) (join : Join)
  deriving DecidableEq

/-- What a line of the outline says of a query. -/
inductive Head where
  | matchAll
  | bool
  | leaf (kind : String) (field : Option String) (json : String)
  deriving DecidableEq

/-- What is said of a query, without its clauses. -/
def head : Query → Head
  | .matchAll => .matchAll
  | .bool _ => .bool
  | .leaf l => .leaf l.kind l.field l.predicate.toJson.compact

/-- What is said, on one line. -/
def Head.text : Head → String
  | .matchAll => "MatchAll"
  | .bool => "Bool"
  | .leaf kind (some field) json => s!"{kind}({Text.quoted field}) {json}"
  | .leaf kind none json => s!"{kind} {json}"

namespace Place

/-- The query has the place: there is a query, or a clause list that is not empty. -/
def In (query : Query) : Place → Prop
  | .query path => (query.at? path).isSome = true
  | .clauses path join =>
    ∃ clauses : Clauses Query, query.at? path = some (.bool clauses) ∧ clauses.get join ≠ []

/-- How far the line of a place is moved to the right. -/
def indent : Place → Nat
  | .query path => 4 * path.length
  | .clauses path _ => 4 * path.length + 2

/-- What is shown of a place. -/
def label (query : Query) : Place → String
  | .query path => ((query.at? path).map fun part => part.head.text).getD ""
  | .clauses _ join => join.key

/-- The place seen from a query with this one in a clause list. -/
def under (join : Join) (i : Nat) : Place → Place
  | .query path => .query ((join, i) :: path)
  | .clauses path other => .clauses ((join, i) :: path) other

/-- A place is at the root or seen from it. -/
theorem eq_under (place : Place) : place = .query [] ∨ (∃ join, place = .clauses [] join) ∨
    ∃ join i inner, place = under join i inner := by
  cases place with
  | query path =>
    cases path with
    | nil => exact .inl rfl
    | cons step path => exact .inr (.inr ⟨step.1, step.2, .query path, rfl⟩)
  | clauses path join =>
    cases path with
    | nil => exact .inr (.inl ⟨join, rfl⟩)
    | cons step path => exact .inr (.inr ⟨step.1, step.2, .clauses path join, rfl⟩)

theorem under_inj {join join' : Join} {i i' : Nat} {inner inner' : Place} :
    under join i inner = under join' i' inner' ↔ join = join' ∧ i = i' ∧ inner = inner' := by
  cases inner <;> cases inner' <;> simp [under, and_assoc]

theorem under_ne {join : Join} {i : Nat} {inner : Place} :
    under join i inner ≠ .query [] ∧ ∀ other, under join i inner ≠ .clauses [] other := by
  cases inner <;> simp [under]

theorem indent_under (join : Join) (i : Nat) (inner : Place) :
    (under join i inner).indent = inner.indent + 4 := by
  cases inner <;> simp [under, indent] <;> omega

theorem in_under {clauses : Clauses Query} {join : Join} {i : Nat} {inner : Place} :
    (under join i inner).In (.bool clauses) ↔
      ∃ clause, (clauses.get join)[i]? = some clause ∧ inner.In clause := by
  cases inner <;> cases h : (clauses.get join)[i]? <;> simp [under, In, at?, h]

theorem label_under {clauses : Clauses Query} {join : Join} {i : Nat} {clause : Query}
    (h : (clauses.get join)[i]? = some clause) (inner : Place) :
    (under join i inner).label (.bool clauses) = inner.label clause := by
  cases inner <;> simp [under, label, at?, h]

end Place

/-- The places of a clause list, below the place of its key. -/
def clausePlaces (join : Join) (places : List (List Place)) : List Place :=
  if places.isEmpty then [] else .clauses [] join :: Text.numbered (Place.under join) places

mutual

/-- The places of a query from the top down. -/
def places : Query → List Place
  | .matchAll => [.query []]
  | .leaf _ => [.query []]
  | .bool clauses => .query [] :: clausesPlaces clauses
  termination_by structural query => query

/-- The places of the four clause lists. -/
def clausesPlaces : Clauses Query → List Place
  | ⟨must, mustNot, should, filter⟩ =>
    clausePlaces .must (listPlaces must) ++ clausePlaces .mustNot (listPlaces mustNot)
      ++ clausePlaces .should (listPlaces should) ++ clausePlaces .filter (listPlaces filter)
  termination_by structural clauses => clauses

/-- The places of several queries, each by itself. -/
def listPlaces : List Query → List (List Place)
  | [] => []
  | query :: rest => places query :: listPlaces rest
  termination_by structural queries => queries

end

theorem listPlaces_eq (queries : List Query) : listPlaces queries = queries.map places := by
  induction queries with
  | nil => rfl
  | cons query rest ih => rw [listPlaces, ih, List.map_cons]

theorem clausesPlaces_eq (clauses : Clauses Query) : clausesPlaces clauses =
    Join.all.flatMap fun join => clausePlaces join ((clauses.get join).map places) := by
  obtain ⟨must, mustNot, should, filter⟩ := clauses
  simp [clausesPlaces, listPlaces_eq, Join.all, Clauses.get]

theorem mem_clausePlaces {join : Join} {list : List Query} {place : Place} :
    place ∈ clausePlaces join (list.map places) ↔ list ≠ [] ∧ (place = .clauses [] join ∨
      ∃ i clause inner, list[i]? = some clause ∧ inner ∈ places clause ∧
        inner.under join i = place) := by
  unfold clausePlaces
  split
  · next h =>
    simp only [List.isEmpty_map, List.isEmpty_iff] at h
    simp [h]
  · next h =>
    simp only [List.isEmpty_map, List.isEmpty_iff] at h
    simp only [List.mem_cons, Text.mem_numbered, ne_eq, h, not_false_eq_true, true_and]

theorem mem_places_bool {clauses : Clauses Query} {place : Place} :
    place ∈ places (.bool clauses) ↔ place = .query [] ∨
      ∃ join, clauses.get join ≠ [] ∧ (place = .clauses [] join ∨
        ∃ i clause inner, (clauses.get join)[i]? = some clause ∧ inner ∈ places clause ∧
          inner.under join i = place) := by
  simp only [places, List.mem_cons, clausesPlaces_eq, List.mem_flatMap, Join.mem_all, true_and,
    mem_clausePlaces]

/-- **The places of a query** are the queries in it and their clause lists. -/
theorem mem_places_iff {query : Query} {place : Place} :
    place ∈ places query ↔ place.In query := by
  induction query using clauseInduction generalizing place with
  | matchAll => rcases place with ⟨_ | _⟩ | ⟨_ | _, _⟩ <;> simp [places, Place.In, at?]
  | leaf l => rcases place with ⟨_ | _⟩ | ⟨_ | _, _⟩ <;> simp [places, Place.In, at?]
  | bool clauses ih =>
    rw [mem_places_bool]
    rcases place.eq_under with rfl | ⟨join, rfl⟩ | ⟨join, i, inner, rfl⟩
    · simp [Place.In, at?]
    · simp [Place.In, at?, Place.under_ne]
    · simp only [Place.in_under, Place.under_ne, false_or, Place.under_inj]
      constructor
      · rintro ⟨_, -, _, clause, _, hc, hmem, rfl, rfl, rfl⟩
        exact ⟨clause, hc, (ih _ clause (List.mem_of_getElem? hc)).1 hmem⟩
      · rintro ⟨clause, hc, hin⟩
        have hmem := List.mem_of_getElem? hc
        exact ⟨join, List.ne_nil_of_mem hmem, i, clause, inner, hc, (ih join clause hmem).2 hin,
          rfl, rfl, rfl⟩

theorem nodup_clausePlaces {list : List Query} (h : ∀ clause ∈ list, clause.places.Nodup)
    (join : Join) : (clausePlaces join (list.map places)).Nodup := by
  unfold clausePlaces
  split
  · exact List.nodup_nil
  · refine List.nodup_cons.2 ⟨?_, Text.nodup_numbered (fun heq => (Place.under_inj.1 heq).2) ?_⟩
    · simp [Text.mem_numbered, Place.under_ne]
    · exact List.forall_mem_map.2 h

theorem join_eq_of_mem_clausePlaces {join join' : Join} {list list' : List Query} {place : Place}
    (h : place ∈ clausePlaces join (list.map places))
    (h' : place ∈ clausePlaces join' (list'.map places)) : join = join' := by
  obtain ⟨-, rfl | ⟨i, _, inner, -, -, rfl⟩⟩ := mem_clausePlaces.1 h
  · obtain ⟨-, heq | ⟨i', _, inner', -, -, heq⟩⟩ := mem_clausePlaces.1 h'
    · exact (Place.clauses.inj heq).2
    · exact absurd heq (Place.under_ne.2 join)
  · obtain ⟨-, heq | ⟨i', _, inner', -, -, heq⟩⟩ := mem_clausePlaces.1 h'
    · exact absurd heq (Place.under_ne.2 join')
    · exact (Place.under_inj.1 heq).1.symm

theorem nodup_places (query : Query) : query.places.Nodup := by
  induction query using clauseInduction with
  | matchAll => exact List.nodup_singleton _
  | leaf l => exact List.nodup_singleton _
  | bool clauses ih =>
    rw [places, clausesPlaces_eq]
    refine List.nodup_cons.2 ⟨?_, List.nodup_flatMap.2 ⟨fun join _ => ?_, ?_⟩⟩
    · simp [mem_clausePlaces, Place.under_ne]
    · exact nodup_clausePlaces (ih join) join
    · have hall : Join.all.Nodup := by decide
      exact hall.pairwise_of_forall_ne fun join _ join' _ hne place h h' =>
        hne (join_eq_of_mem_clausePlaces h h')

/-! ## The outline as labels -/

/-- A clause list under its key. -/
def clauseOutlines (join : Join) (list : List Outline) : List Outline :=
  if list.isEmpty then [] else [.node join.key list]

mutual

/-- The labels of a query as they stand below each other. -/
def toOutline : Query → Outline
  | .matchAll => .node (head .matchAll).text []
  | .leaf l => .node (head (.leaf l)).text []
  | .bool clauses => .node (head (.bool clauses)).text (clausesOutlines clauses)
  termination_by structural query => query

/-- The labels of the four clause lists. -/
def clausesOutlines : Clauses Query → List Outline
  | ⟨must, mustNot, should, filter⟩ =>
    clauseOutlines .must (listOutlines must) ++ clauseOutlines .mustNot (listOutlines mustNot)
      ++ clauseOutlines .should (listOutlines should)
      ++ clauseOutlines .filter (listOutlines filter)
  termination_by structural clauses => clauses

/-- The labels of several queries. -/
def listOutlines : List Query → List Outline
  | [] => []
  | query :: rest => toOutline query :: listOutlines rest
  termination_by structural queries => queries

end

theorem listOutlines_eq (queries : List Query) : listOutlines queries = queries.map toOutline := by
  induction queries with
  | nil => rfl
  | cons query rest ih => rw [listOutlines, ih, List.map_cons]

theorem clausesOutlines_eq (clauses : Clauses Query) : clausesOutlines clauses =
    Join.all.flatMap fun join => clauseOutlines join ((clauses.get join).map toOutline) := by
  obtain ⟨must, mustNot, should, filter⟩ := clauses
  simp [clausesOutlines, listOutlines_eq, Join.all, Clauses.get]

theorem listLines_eq (depth : Nat) (queries : List Query) :
    listLines depth queries = queries.flatMap (lines depth) := by
  induction queries with
  | nil => rfl
  | cons query rest ih => rw [listLines, ih, List.flatMap_cons]

theorem clausesLines_eq (depth : Nat) (clauses : Clauses Query) : clausesLines depth clauses =
    Join.all.flatMap fun join =>
      clauseLines depth join ((clauses.get join).flatMap (lines (depth + 1))) := by
  obtain ⟨must, mustNot, should, filter⟩ := clauses
  simp [clausesLines, listLines_eq, Join.all, Clauses.get]

theorem text_leaf (l : Leaf) : l.text = (head (.leaf l)).text := by
  unfold Leaf.text
  cases hf : l.field <;> simp [head, Head.text, hf]

/-- The line of a label. -/
def rowLine (row : Nat × String) : String := line row.1 row.2

theorem clauseLines_map (depth : Nat) (join : Join) (list : List Outline) :
    clauseLines depth join ((Outline.rowsOf (depth + 1) list).map rowLine) =
      (Outline.rowsOf depth (clauseOutlines join list)).map rowLine := by
  cases list with
  | nil => rfl
  | cons outline rest =>
    obtain ⟨label, below⟩ := outline
    simp [clauseLines, clauseOutlines, Outline.rowsOf, Outline.rows, rowLine]

theorem lines_eq (query : Query) (depth : Nat) :
    query.lines depth = (query.toOutline.rows depth).map rowLine := by
  induction query using clauseInduction generalizing depth with
  | matchAll => rfl
  | leaf l => simp [lines, toOutline, Outline.rows, Outline.rowsOf, rowLine, text_leaf]
  | bool clauses ih =>
    have hlist : ∀ join, (clauses.get join).flatMap (lines (depth + 1 + 1)) =
        (Outline.rowsOf (depth + 1 + 1) ((clauses.get join).map toOutline)).map rowLine := by
      intro join
      rw [Outline.rowsOf_eq, List.flatMap_map, List.map_flatMap]
      exact List.flatMap_congr fun clause hc => ih join clause hc _
    simp only [lines, toOutline, Outline.rows, clausesLines_eq, clausesOutlines_eq, hlist,
      clauseLines_map]
    simp only [Outline.rowsOf_eq, List.flatMap_assoc, List.map_cons, List.map_flatMap]
    rfl

theorem text_eq (query : Query) : query.text = Text.drawn (query.toOutline.rows 0) := by
  rw [text, lines_eq, List.map_map]
  rfl

/-- The label of a place and its depth below another. -/
def Place.row (query : Query) (depth : Nat) (place : Place) : Nat × String :=
  (depth + place.indent / 2, place.label query)

theorem Place.row_under {clauses : Clauses Query} {join : Join} {i : Nat} {clause : Query}
    (h : (clauses.get join)[i]? = some clause) (depth : Nat) (inner : Place) :
    (under join i inner).row (.bool clauses) depth = inner.row clause (depth + 2) := by
  have hdepth : depth + (inner.indent + 4) / 2 = depth + 2 + inner.indent / 2 := by omega
  rw [row, row, indent_under, label_under h, hdepth]

theorem rowsOf_clauseOutlines {clauses : Clauses Query} {join : Join} {depth : Nat}
    (h : ∀ clause ∈ clauses.get join,
      clause.toOutline.rows (depth + 2) = clause.places.map (Place.row clause (depth + 2))) :
    Outline.rowsOf (depth + 1) (clauseOutlines join ((clauses.get join).map toOutline)) =
      (clausePlaces join ((clauses.get join).map places)).map
        (Place.row (.bool clauses) depth) := by
  have hlist : Outline.rowsOf (depth + 2) ((clauses.get join).map toOutline) =
      (Text.numbered (Place.under join) ((clauses.get join).map places)).map
        (Place.row (.bool clauses) depth) := by
    rw [Outline.rowsOf_eq, List.flatMap_map]
    refine Text.map_numbered fun i clause hclause => ?_
    rw [h clause (List.mem_of_getElem? hclause)]
    exact List.map_congr_left fun inner _ => (Place.row_under hclause depth inner).symm
  by_cases hempty : clauses.get join = []
  · simp [hempty, clauseOutlines, clausePlaces, Outline.rowsOf]
  · simp [clauseOutlines, clausePlaces, hempty, Outline.rowsOf, Outline.rows, hlist, Place.row,
      Place.indent, Place.label]

/-- **A label for each place**, deeper by two for each query that it is nested in. -/
theorem rows_eq (query : Query) (depth : Nat) :
    query.toOutline.rows depth = query.places.map (Place.row query depth) := by
  induction query using clauseInduction generalizing depth with
  | matchAll => rfl
  | leaf l => rfl
  | bool clauses ih =>
    have hclauses : Outline.rowsOf (depth + 1) (clausesOutlines clauses) =
        (clausesPlaces clauses).map (Place.row (.bool clauses) depth) := by
      rw [clausesOutlines_eq, clausesPlaces_eq, Outline.rowsOf_eq, List.flatMap_assoc,
        List.map_flatMap]
      refine List.flatMap_congr fun join _ => ?_
      rw [← Outline.rowsOf_eq]
      exact rowsOf_clauseOutlines fun clause hc => ih join clause hc _
    rw [toOutline, Outline.rows, hclauses]
    rfl

/-! ## Labels -/

namespace Head

/-- What stands behind the name of the kind on the line of a leaf. -/
def leafRest (field : Option String) (json : String) : List Char :=
  match field with
  | some field => '(' :: (Text.quotedChars field ++ ')' :: ' ' :: json.toList)
  | none => ' ' :: json.toList

theorem toList_text_leaf (kind : String) (field : Option String) (json : String) :
    (Head.leaf kind field json).text.toList = kind.toList ++ leafRest field json := by
  cases field <;> simp [text, leafRest, Text.quoted, toString]

theorem leafRest_eq_cons (field : Option String) (json : String) :
    ∃ c rest, leafRest field json = c :: rest ∧ Text.isWordChar c = false := by
  cases field with
  | some field => exact ⟨_, _, rfl, by decide⟩
  | none => exact ⟨_, _, rfl, by decide⟩

theorem leafRest_inj {field field' : Option String} {json json' : String}
    (h : leafRest field json = leafRest field' json') : field = field' ∧ json = json' := by
  cases field with
  | some field =>
    cases field' with
    | some field' =>
      obtain ⟨hfield, hrest⟩ := Text.quotedChars_append_inj (List.cons.inj h).2
      simp only [List.cons.injEq, true_and] at hrest
      exact ⟨hfield ▸ rfl, String.toList_inj.1 hrest⟩
    | none => exact absurd (List.cons.inj h).1 (by decide)
  | none =>
    cases field' with
    | some field' => exact absurd (List.cons.inj h).1 (by decide)
    | none => exact ⟨rfl, String.toList_inj.1 (List.cons.inj h).2⟩

/-- The name of a leaf's kind is a word. -/
def Named : Head → Prop
  | .leaf kind _ _ => Text.IsWord kind
  | _ => True

theorem text_leaf_ne {kind : String} (hk : Text.IsWord kind) (field : Option String)
    (json : String) : (Head.leaf kind field json).text ≠ Head.matchAll.text ∧
      (Head.leaf kind field json).text ≠ Head.bool.text := by
  constructor
  · intro h
    have hlists := (toList_text_leaf kind field json).symm.trans (congrArg String.toList h)
    exact hk.append_ne_cons (c := 'M') (by decide) _ _ hlists
  · intro h
    have hlists := (toList_text_leaf kind field json).symm.trans (congrArg String.toList h)
    exact hk.append_ne_cons (c := 'B') (by decide) _ _ hlists

/-- **A line says what kind of query it is for**, and of a leaf its field and its JSON text. -/
theorem text_inj {h h' : Head} (hn : h.Named) (hn' : h'.Named) (heq : h.text = h'.text) :
    h = h' := by
  cases h with
  | matchAll =>
    cases h' with
    | matchAll => rfl
    | bool => exact absurd heq (by decide)
    | leaf kind field json => exact absurd heq.symm (text_leaf_ne hn' field json).1
  | bool =>
    cases h' with
    | matchAll => exact absurd heq (by decide)
    | bool => rfl
    | leaf kind field json => exact absurd heq.symm (text_leaf_ne hn' field json).2
  | leaf kind field json =>
    cases h' with
    | matchAll => exact absurd heq (text_leaf_ne hn field json).1
    | bool => exact absurd heq (text_leaf_ne hn field json).2
    | leaf kind' field' json' =>
      obtain ⟨c, rest, hrest, hc⟩ := leafRest_eq_cons field json
      obtain ⟨d, rest', hrest', hd⟩ := leafRest_eq_cons field' json'
      have hlists := congrArg String.toList heq
      rw [toList_text_leaf, toList_text_leaf, hrest, hrest'] at hlists
      obtain ⟨hkind, hchar, hend⟩ := Text.IsWord.append_cons_inj hn hn' hc hd hlists
      have hsame : leafRest field json = leafRest field' json' := by
        rw [hrest, hrest', hchar, hend]
      obtain ⟨hfield, hjson⟩ := leafRest_inj hsame
      rw [hkind, hfield, hjson]

end Head

theorem isLabel_head {query : Query} (h : query.head.Named) : Text.IsLabel query.head.text := by
  cases query with
  | matchAll => exact ⟨by decide, 'M', _, rfl, by decide⟩
  | bool clauses =>
    show Text.IsLabel "Bool"
    exact ⟨by decide, 'B', _, rfl, by decide⟩
  | leaf l =>
    refine Text.IsWord.isLabel h (Head.toList_text_leaf _ _ _) ?_
    have hjson : '\n' ∉ l.predicate.toJson.compact.toList := by
      rw [Json.compact, String.toList_ofList]
      exact Json.newline_not_mem_compactChars _
    cases l.field with
    | none => simp [Head.leafRest, hjson]
    | some field => simp [Head.leafRest, hjson, Text.newline_not_mem_quotedChars]

/-! ## What an outline says -/

/-- The leaves of a query have words for the names of their kinds. -/
def Named (query : Query) : Prop := ∀ path part, query.at? path = some part → part.head.Named

theorem Named.atRoot {query : Query} (h : query.Named) : query.head.Named := h [] query rfl

theorem Named.of_clause {clauses : Clauses Query} (h : Named (.bool clauses)) {join : Join}
    {i : Nat} {clause : Query} (hc : (clauses.get join)[i]? = some clause) : clause.Named := by
  intro path part hpart
  refine h ((join, i) :: path) part ?_
  rw [at?, hc]
  exact hpart

theorem Named.isLabel {query : Query} (h : query.Named) {place : Place} (hin : place.In query) :
    Text.IsLabel (place.label query) := by
  cases place with
  | query path =>
    obtain ⟨part, hpart⟩ := Option.isSome_iff_exists.1 hin
    rw [Place.label, hpart]
    exact isLabel_head (h path part hpart)
  | clauses path join =>
    have hkey : Text.IsWord join.key := by cases join <;> decide
    exact hkey.isLabel (List.append_nil _).symm List.not_mem_nil

theorem text_eq_join (query : Query) : query.text = String.join (query.places.map fun place =>
    Text.blanks place.indent ++ place.label query ++ "\n") := by
  have heven : ∀ place : Place, 2 * (0 + place.indent / 2) = place.indent := by
    intro place
    cases place <;> simp only [Place.indent] <;> omega
  rw [text_eq, rows_eq, Text.drawn, List.map_map]
  refine congrArg String.join (List.map_congr_left fun place _ => ?_)
  simp only [Function.comp_apply, Place.row, heven]

/-- **The outline of a query** has one line for each query in it and for each clause list that is
not empty. -/
theorem Named.drawnAs {query : Query} (h : query.Named) :
    Text.DrawnAs query.text (Place.In query) Place.indent (Place.label query) query.places where
  nodup := nodup_places query
  mem_iff _ := mem_places_iff
  text_eq := text_eq_join query
  isLabel _ hmem := h.isLabel (mem_places_iff.1 hmem)

theorem mem_clausesOutlines {clauses : Clauses Query} {join : Join} {list : List Outline} :
    .node join.key list ∈ clausesOutlines clauses ↔
      list ≠ [] ∧ list = (clauses.get join).map toOutline := by
  simp only [clausesOutlines_eq, List.mem_flatMap, Join.mem_all, true_and, clauseOutlines]
  constructor
  · rintro ⟨other, h⟩
    split at h
    · cases h
    · next hne =>
      obtain ⟨hkey, rfl⟩ := Outline.node.inj (List.mem_singleton.1 h)
      exact ⟨by simpa using hne, Join.key_inj hkey ▸ rfl⟩
  · rintro ⟨hne, rfl⟩
    exact ⟨join, by simpa using hne⟩

/-- The labels of the clauses say what stands in each clause list. -/
theorem clausesOutlines_inj {xs ys : Clauses Query} (h : clausesOutlines xs = clausesOutlines ys)
    (join : Join) : (xs.get join).map toOutline = (ys.get join).map toOutline := by
  by_cases hxs : (xs.get join).map toOutline = []
  · by_cases hys : (ys.get join).map toOutline = []
    · rw [hxs, hys]
    · exact ((mem_clausesOutlines.1 (h ▸ mem_clausesOutlines.2 ⟨hys, rfl⟩)).2).symm
  · exact (mem_clausesOutlines.1 (h ▸ mem_clausesOutlines.2 ⟨hxs, rfl⟩)).2

theorem toOutline_eq_node (query : Query) :
    ∃ below, query.toOutline = .node query.head.text below := by
  cases query <;> exact ⟨_, rfl⟩

theorem head_eq_of_toOutline_eq {p q : Query} (hp : p.Named) (hq : q.Named)
    (h : p.toOutline = q.toOutline) : p.head = q.head := by
  obtain ⟨below, hbelow⟩ := toOutline_eq_node p
  obtain ⟨below', hbelow'⟩ := toOutline_eq_node q
  rw [hbelow, hbelow', Outline.node.injEq] at h
  exact Head.text_inj hp.atRoot hq.atRoot h.1

/-- Queries with the same labels have the same queries in them, each in the same place. -/
theorem map_head_at?_eq {p q : Query} (hp : p.Named) (hq : q.Named)
    (h : p.toOutline = q.toOutline) (path : Path) :
    (p.at? path).map head = (q.at? path).map head := by
  have hhead := head_eq_of_toOutline_eq hp hq h
  induction path generalizing p q with
  | nil => exact congrArg some hhead
  | cons step path ih =>
    obtain ⟨join, i⟩ := step
    cases p with
    | bool xs =>
      cases q with
      | bool ys =>
        rcases Text.getElem?_of_map_eq (clausesOutlines_inj (Outline.node.inj h).2 join) i with
          ⟨hx, hy⟩ | ⟨c, d, hx, hy, hclause⟩
        · simp only [at?, hx, hy, Option.bind_none]
        · have hc := hp.of_clause hx
          have hd := hq.of_clause hy
          simp only [at?, hx, hy, Option.bind_some]
          exact ih hc hd hclause (head_eq_of_toOutline_eq hc hd hclause)
      | matchAll => cases hhead
      | leaf m => cases hhead
    | matchAll =>
      cases q with
      | bool ys => cases hhead
      | matchAll => rfl
      | leaf m => rfl
    | leaf l =>
      cases q with
      | bool ys => cases hhead
      | matchAll => rfl
      | leaf m => rfl

theorem Named.isLabel_row {query : Query} (h : query.Named) :
    ∀ row ∈ query.toOutline.rows 0, Text.IsLabel row.2 := by
  rw [rows_eq]
  exact List.forall_mem_map.2 h.drawnAs.isLabel

/-- **The text of a query says how it is built.** -/
theorem Named.head_eq {p q : Query} (hp : p.Named) (hq : q.Named) (h : p.text = q.text)
    (path : Path) : (p.at? path).map Query.head = (q.at? path).map Query.head := by
  rw [text_eq, text_eq] at h
  have houtline := Outline.rows_inj (Text.drawn_inj hp.isLabel_row hq.isLabel_row h)
  exact map_head_at?_eq hp hq houtline path

end Query

end SearchNotation
