import SearchNotation.Aggregation.Tree
import SearchNotation.Proofs.Json.OneLine
import SearchNotation.Proofs.Text.Outline

/-!
# What the outline of an aggregation says

The outline of an aggregation has one line for each aggregation in it (`Named.drawnAs`), found by
the way to it (`at?`) and moved to the right by its length. The line says its kind, its name and its
body (`Head`): the name is left out where it is that of the kind, and no body reads as if a name
followed (`title_inj`). So aggregations with the same outline have the same aggregations in them,
each in the same place (`Named.head_eq`).
-/

set_option autoImplicit false

namespace SearchNotation

open Text (Outline)

namespace Aggregation

/-! ## Induction on children -/

mutual

/-- What holds of an aggregation if it holds of its children holds of every one. -/
@[elab_as_elim]
theorem childInduction {motive : Aggregation → Prop}
    (step : ∀ a : Aggregation, (∀ child ∈ a.children, motive child) → motive a) :
    ∀ a : Aggregation, motive a
  | ⟨_, _, _, children, _, _⟩ => step _ (forall_mem_of_step step children)
  termination_by structural a => a

theorem forall_mem_of_step {motive : Aggregation → Prop}
    (step : ∀ a : Aggregation, (∀ child ∈ a.children, motive child) → motive a) :
    ∀ aggregations : List Aggregation, ∀ a ∈ aggregations, motive a
  | [], _, ha => nomatch ha
  | first :: rest, a, ha => by
    rcases List.mem_cons.1 ha with he | ha
    · exact he ▸ childInduction step first
    · exact forall_mem_of_step step rest a ha
  termination_by structural aggregations => aggregations

end

/-! ## Places -/

/-- The way to an aggregation inside another: positions among siblings. -/
abbrev Path := List Nat

/-- The aggregation at the end of a path. -/
def at? : Aggregation → Path → Option Aggregation
  | a, [] => some a
  | a, i :: path => a.children[i]?.bind fun child => child.at? path

/-- What a line of the outline says of an aggregation. -/
structure Head where
  kind : String
  name : String
  body : String
  deriving DecidableEq

/-- What is said of an aggregation, without its children. -/
def head (a : Aggregation) : Head := ⟨a.kind, a.name, a.body.compact⟩

/-- What is shown at the end of a path. -/
def label (a : Aggregation) (path : Path) : String := ((a.at? path).map title).getD ""

mutual

/-- The paths to all aggregations in one, from the top down. -/
def paths : Aggregation → List Path
  | ⟨_, _, _, children, _, _⟩ => [] :: Text.numbered List.cons (listPaths children)
  termination_by structural a => a

/-- The paths of several aggregations, each by itself. -/
def listPaths : List Aggregation → List (List Path)
  | [] => []
  | a :: rest => paths a :: listPaths rest
  termination_by structural aggregations => aggregations

end

theorem listPaths_eq (aggregations : List Aggregation) :
    listPaths aggregations = aggregations.map paths := by
  induction aggregations with
  | nil => rfl
  | cons a rest ih => rw [listPaths, ih, List.map_cons]

theorem paths_eq (a : Aggregation) :
    a.paths = [] :: Text.numbered List.cons (a.children.map paths) := by
  obtain ⟨kind, name, params, children, engineName, body⟩ := a
  rw [paths, listPaths_eq]

/-- **The paths of an aggregation** lead to the aggregations in it. -/
theorem mem_paths_iff {a : Aggregation} {path : Path} :
    path ∈ a.paths ↔ (a.at? path).isSome = true := by
  induction a using childInduction generalizing path with
  | step a ih =>
    rw [paths_eq, List.mem_cons, Text.mem_numbered]
    cases path with
    | nil => simp [at?]
    | cons i path =>
      simp only [List.cons_ne_nil, false_or, List.cons.injEq, at?]
      constructor
      · rintro ⟨_, child, _, hchild, hinner, rfl, rfl⟩
        rw [hchild, Option.bind_some]
        exact (ih child (List.mem_of_getElem? hchild)).1 hinner
      · intro h
        obtain ⟨child, hchild⟩ := Option.isSome_iff_exists.1 (Option.isSome_of_isSome_bind h)
        rw [hchild, Option.bind_some] at h
        exact ⟨i, child, path, hchild, (ih child (List.mem_of_getElem? hchild)).2 h, rfl, rfl⟩

theorem nodup_paths (a : Aggregation) : a.paths.Nodup := by
  induction a using childInduction with
  | step a ih =>
    rw [paths_eq]
    refine List.nodup_cons.2 ⟨by simp [Text.mem_numbered], Text.nodup_numbered ?_ ?_⟩
    · exact fun heq => List.cons.inj heq
    · exact List.forall_mem_map.2 ih

/-! ## The outline as labels -/

mutual

/-- The titles of an aggregation and of what is below it. -/
def toOutline : Aggregation → Outline
  | ⟨kind, name, params, children, engineName, body⟩ =>
    .node (title ⟨kind, name, params, children, engineName, body⟩) (listOutlines children)
  termination_by structural a => a

/-- The titles of several aggregations. -/
def listOutlines : List Aggregation → List Outline
  | [] => []
  | a :: rest => toOutline a :: listOutlines rest
  termination_by structural aggregations => aggregations

end

theorem toOutline_eq (a : Aggregation) :
    a.toOutline = .node a.title (a.children.map toOutline) := by
  have hlist : ∀ aggregations, listOutlines aggregations = aggregations.map toOutline := by
    intro aggregations
    induction aggregations with
    | nil => rfl
    | cons a rest ih => rw [listOutlines, ih, List.map_cons]
  obtain ⟨kind, name, params, children, engineName, body⟩ := a
  rw [toOutline, hlist]

theorem outline_eq (depth : Nat) (a : Aggregation) :
    a.outline depth = (depth, a) :: a.children.flatMap (outline (depth + 1)) := by
  have hlist : ∀ aggregations,
      outlines (depth + 1) aggregations = aggregations.flatMap (outline (depth + 1)) := by
    intro aggregations
    induction aggregations with
    | nil => rfl
    | cons a rest ih => rw [outlines, ih, List.flatMap_cons]
  obtain ⟨kind, name, params, children, engineName, body⟩ := a
  rw [outline, hlist]

theorem rows_toOutline (a : Aggregation) (depth : Nat) : a.toOutline.rows depth =
    (a.outline depth).map fun entry => (entry.1, entry.2.title) := by
  induction a using childInduction generalizing depth with
  | step a ih =>
    rw [toOutline_eq, Outline.rows, Outline.rowsOf_eq, outline_eq, List.map_cons, List.flatMap_map,
      List.map_flatMap]
    exact congrArg _ (List.flatMap_congr fun child hc => ih child hc _)

theorem text_eq (a : Aggregation) : a.text = Text.drawn (a.toOutline.rows 0) := by
  rw [text, rows_toOutline, Text.drawn, List.map_map]
  rfl

/-- **A title for each path**, as deep as the path is long. -/
theorem rows_eq (a : Aggregation) (depth : Nat) : a.toOutline.rows depth =
    a.paths.map fun path => (depth + path.length, a.label path) := by
  induction a using childInduction generalizing depth with
  | step a ih =>
    rw [toOutline_eq, Outline.rows, Outline.rowsOf_eq, paths_eq, List.map_cons, List.flatMap_map]
    refine congrArg₂ List.cons rfl (Text.map_numbered fun i child hchild => ?_)
    rw [ih child (List.mem_of_getElem? hchild)]
    refine List.map_congr_left fun path _ => Prod.ext ?_ ?_
    · simp only [List.length_cons]
      omega
    · simp only [label, at?, hchild, Option.bind_some]

theorem text_eq_join (a : Aggregation) : a.text = String.join (a.paths.map fun path =>
    Text.blanks (2 * path.length) ++ a.label path ++ "\n") := by
  rw [text_eq, rows_eq, Text.drawn, List.map_map]
  simp only [Nat.zero_add, Function.comp_def]

/-! ## Titles -/

/-- What stands behind the name of the kind in a title. -/
def titleRest (a : Aggregation) : List Char :=
  if a.name = a.kind then ' ' :: a.body.compactChars
  else ' ' :: 'a' :: 's' :: ' ' :: (Text.quotedChars a.name ++ ' ' :: a.body.compactChars)

theorem toList_title (a : Aggregation) : a.title.toList = a.kind.toList ++ titleRest a := by
  unfold title titleRest
  split <;> simp [Text.quoted, Json.compact, toString]

theorem newline_not_mem_titleRest (a : Aggregation) : '\n' ∉ titleRest a := by
  have hbody := Json.newline_not_mem_compactChars a.body
  unfold titleRest
  split
  · simp [hbody]
  · simp [hbody, Text.newline_not_mem_quotedChars]

/-- **A title says the kind, the name and the body** of an aggregation. -/
theorem title_inj {a b : Aggregation} (ha : Text.IsWord a.kind) (hb : Text.IsWord b.kind)
    (h : a.title = b.title) : a.head = b.head := by
  have hblank : ∀ c : Aggregation, ∃ rest, titleRest c = ' ' :: rest := by
    intro c
    unfold titleRest
    split <;> exact ⟨_, rfl⟩
  obtain ⟨rest, hrest⟩ := hblank a
  obtain ⟨rest', hrest'⟩ := hblank b
  have hlists := congrArg String.toList h
  rw [toList_title, toList_title, hrest, hrest'] at hlists
  obtain ⟨hkind, -, hend⟩ := ha.append_cons_inj hb (by decide) (by decide) hlists
  have hsame : titleRest a = titleRest b := by
    rw [hrest, hrest', hend]
  have hnamebody : a.name = b.name ∧ a.body.compactChars = b.body.compactChars := by
    unfold titleRest at hsame
    split at hsame <;> split at hsame
    · next hna hnb =>
      exact ⟨hna.trans (hkind.trans hnb.symm), (List.cons.inj hsame).2⟩
    · -- a body would begin like the word in front of a name
      have hhead := congrArg List.head? (List.cons.inj hsame).2
      exact absurd hhead (Json.head?_compactChars a.body)
    · have hhead := congrArg List.head? (List.cons.inj hsame).2
      exact absurd hhead.symm (Json.head?_compactChars b.body)
    · simp only [List.cons.injEq, true_and] at hsame
      obtain ⟨hname, hbody⟩ := Text.quotedChars_append_inj hsame
      exact ⟨hname, (List.cons.inj hbody).2⟩
  simp only [head, Json.compact, hkind, hnamebody]

/-- The aggregations in an aggregation have words for the names of their kinds. -/
def Named (a : Aggregation) : Prop := ∀ path part, a.at? path = some part → Text.IsWord part.kind

theorem Named.of_child {a : Aggregation} (h : a.Named) {i : Nat} {child : Aggregation}
    (hc : a.children[i]? = some child) : child.Named := by
  intro path part hpart
  refine h (i :: path) part ?_
  rw [at?, hc]
  exact hpart

/-- **The outline of an aggregation** has one line for each aggregation in it. -/
theorem Named.drawnAs {a : Aggregation} (h : a.Named) :
    Text.DrawnAs a.text (fun path => (a.at? path).isSome = true) (fun path => 2 * path.length)
      a.label a.paths where
  nodup := nodup_paths a
  mem_iff _ := mem_paths_iff
  text_eq := text_eq_join a
  isLabel path hmem := by
    obtain ⟨part, hpart⟩ := Option.isSome_iff_exists.1 (mem_paths_iff.1 hmem)
    rw [label, hpart]
    exact (h path part hpart).isLabel (toList_title part) (newline_not_mem_titleRest part)

theorem head_eq_of_toOutline_eq {a b : Aggregation} (ha : a.Named) (hb : b.Named)
    (h : a.toOutline = b.toOutline) : a.head = b.head := by
  rw [toOutline_eq, toOutline_eq, Outline.node.injEq] at h
  exact title_inj (ha [] a rfl) (hb [] b rfl) h.1

/-- Aggregations with the same titles have the same aggregations in them, each in the same place. -/
theorem map_head_at?_eq {a b : Aggregation} (ha : a.Named) (hb : b.Named)
    (h : a.toOutline = b.toOutline) (path : Path) :
    (a.at? path).map head = (b.at? path).map head := by
  induction path generalizing a b with
  | nil => exact congrArg some (head_eq_of_toOutline_eq ha hb h)
  | cons i path ih =>
    rw [toOutline_eq, toOutline_eq, Outline.node.injEq] at h
    rcases Text.getElem?_of_map_eq h.2 i with ⟨hx, hy⟩ | ⟨c, d, hx, hy, hchild⟩
    · simp only [at?, hx, hy, Option.bind_none]
    · simp only [at?, hx, hy, Option.bind_some]
      exact ih (ha.of_child hx) (hb.of_child hy) hchild

theorem Named.isLabel_row {a : Aggregation} (h : a.Named) :
    ∀ row ∈ a.toOutline.rows 0, Text.IsLabel row.2 := by
  rw [rows_eq]
  exact List.forall_mem_map.2 h.drawnAs.isLabel

/-- **The text of an aggregation says how it is built.** -/
theorem Named.head_eq {a b : Aggregation} (ha : a.Named) (hb : b.Named) (h : a.text = b.text)
    (path : Path) : (a.at? path).map head = (b.at? path).map head := by
  rw [text_eq, text_eq] at h
  have houtline := Outline.rows_inj (Text.drawn_inj ha.isLabel_row hb.isLabel_row h)
  exact map_head_at?_eq ha hb houtline path

end Aggregation

end SearchNotation
