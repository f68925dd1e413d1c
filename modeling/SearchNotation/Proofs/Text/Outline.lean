import Mathlib.Data.List.Sigma
import SearchNotation.Proofs.Text.Quoted

/-!
# Outlines

An `Outline` is a label with outlines below it. It is drawn as one line for each label, two blanks
deeper at each level. The labels and their depths say how it is built (`Outline.rows_inj`), for what
is below a label is what follows until the depth is no longer greater; and the drawing says what the
labels and the depths are (`drawn_inj`), where each label stays on its line and has no blank in
front (`IsLabel`).

`DrawnAs` says of a text that it is drawn with one line for each place in something.
-/

set_option autoImplicit false

namespace SearchNotation.Text

/-- A label with the outlines below it. -/
inductive Outline where
  | node (label : String) (below : List Outline)

namespace Outline

mutual

/-- The labels from the top down, each with its depth. -/
def rows (depth : Nat) : Outline → List (Nat × String)
  | .node label below => (depth, label) :: rowsOf (depth + 1) below
  termination_by structural outline => outline

/-- The labels of several outlines. -/
def rowsOf (depth : Nat) : List Outline → List (Nat × String)
  | [] => []
  | outline :: rest => rows depth outline ++ rowsOf depth rest
  termination_by structural outlines => outlines

end

theorem rowsOf_eq (depth : Nat) (outlines : List Outline) :
    rowsOf depth outlines = outlines.flatMap (rows depth) := by
  induction outlines with
  | nil => rfl
  | cons outline rest ih => rw [rowsOf, ih, List.flatMap_cons]

/-! ## An outline can be told from its rows -/

/-- The rows go on above a depth, or end. -/
def Above (depth : Nat) (rows : List (Nat × String)) : Prop :=
  ∀ row ∈ rows.head?, row.1 < depth

theorem Above.succ {depth : Nat} {rows : List (Nat × String)} (h : Above depth rows) :
    Above (depth + 1) rows :=
  fun row hrow => Nat.lt_succ_of_lt (h row hrow)

theorem head?_rowsOf_cons (depth : Nat) (outline : Outline) (rest : List Outline)
    (xs : List (Nat × String)) :
    ∃ label, (rowsOf depth (outline :: rest) ++ xs).head? = some (depth, label) := by
  obtain ⟨label, below⟩ := outline
  exact ⟨label, rfl⟩

theorem not_above_rowsOf_cons (depth : Nat) (outline : Outline) (rest : List Outline)
    (xs : List (Nat × String)) : ¬ Above depth (rowsOf depth (outline :: rest) ++ xs) := by
  intro h
  obtain ⟨label, hhead⟩ := head?_rowsOf_cons depth outline rest xs
  exact Nat.lt_irrefl depth (h _ hhead)

theorem Above.rowsOf_append {depth : Nat} {xs : List (Nat × String)} (h : Above depth xs)
    (outlines : List Outline) : Above (depth + 1) (rowsOf depth outlines ++ xs) := by
  cases outlines with
  | nil => exact h.succ
  | cons outline rest =>
    intro row hrow
    obtain ⟨label, hhead⟩ := head?_rowsOf_cons depth outline rest xs
    obtain rfl : (depth, label) = row := Option.some.inj (hhead.symm.trans hrow)
    exact Nat.lt_succ_self depth

mutual

/-- **What is below a label is what follows it at greater depths.** What follows after that begins
no deeper than the label, so neither outline takes rows from it. -/
theorem rows_append_inj : ∀ (t u : Outline) {depth : Nat} {xs ys : List (Nat × String)},
    Above (depth + 1) xs → Above (depth + 1) ys → rows depth t ++ xs = rows depth u ++ ys →
    t = u ∧ xs = ys
  | .node label below, .node label' below', depth, xs, ys, hxs, hys, h => by
    rw [rows, rows, List.cons_append, List.cons_append, List.cons.injEq, Prod.mk.injEq] at h
    obtain ⟨⟨-, hlabel⟩, hbelow⟩ := h
    obtain ⟨hsame, hrest⟩ := rowsOf_append_inj below below' hxs hys hbelow
    exact ⟨hlabel ▸ hsame ▸ rfl, hrest⟩

theorem rowsOf_append_inj : ∀ (ts us : List Outline) {depth : Nat} {xs ys : List (Nat × String)},
    Above depth xs → Above depth ys → rowsOf depth ts ++ xs = rowsOf depth us ++ ys →
    ts = us ∧ xs = ys
  | [], [], _, _, _, _, _, h => ⟨rfl, h⟩
  | [], u :: us, depth, xs, ys, hxs, _, h => by
    rw [rowsOf, List.nil_append] at h
    exact absurd (h ▸ hxs) (not_above_rowsOf_cons depth u us ys)
  | t :: ts, [], depth, xs, ys, _, hys, h => by
    rw [rowsOf.eq_1, List.nil_append] at h
    exact absurd (h ▸ hys) (not_above_rowsOf_cons depth t ts xs)
  | t :: ts, u :: us, depth, xs, ys, hxs, hys, h => by
    rw [rowsOf, rowsOf, List.append_assoc, List.append_assoc] at h
    obtain ⟨hfirst, hrest⟩ := rows_append_inj t u (hxs.rowsOf_append ts) (hys.rowsOf_append us) h
    obtain ⟨hothers, hends⟩ := rowsOf_append_inj ts us hxs hys hrest
    exact ⟨hfirst ▸ hothers ▸ rfl, hends⟩

end

/-- **The labels and their depths say how an outline is built.** -/
theorem rows_inj {t u : Outline} {depth : Nat} (h : rows depth t = rows depth u) : t = u := by
  have hends : Above (depth + 1) [] := nofun
  exact (rows_append_inj t u hends hends (by rw [h])).1

end Outline

/-! ## The drawing -/

/-- So many blanks. -/
def blanks (n : Nat) : String := String.ofList (List.replicate n ' ')

/-- A line of its own: no line break, and something else than a blank in front. -/
structure IsLabel (label : String) : Prop where
  newline : '\n' ∉ label.toList
  front : ∃ c rest, label.toList = c :: rest ∧ c ≠ ' '

/-- The drawing of labels: one line for each, behind two blanks for each depth. -/
def drawn (rows : List (Nat × String)) : String :=
  String.join (rows.map fun row => blanks (2 * row.1) ++ row.2 ++ "\n")

theorem toList_drawn_cons (row : Nat × String) (rows : List (Nat × String)) :
    (drawn (row :: rows)).toList =
      (blanks (2 * row.1) ++ row.2).toList ++ '\n' :: (drawn rows).toList := by
  simp [drawn]

/-- A line says how far it is moved to the right, and what stands there. -/
theorem indented_inj {m n : Nat} {s t : String} (hs : IsLabel s) (ht : IsLabel t)
    (h : blanks m ++ s = blanks n ++ t) : m = n ∧ s = t := by
  obtain ⟨c, cs, hs, hc⟩ := hs.front
  obtain ⟨d, ds, ht, hd⟩ := ht.front
  have hlists : List.replicate m ' ' ++ c :: cs = List.replicate n ' ' ++ d :: ds := by
    simpa [blanks, hs, ht] using congrArg String.toList h
  obtain ⟨hblanks, hrest⟩ := append_cons_inj (· = ' ') (fun _ => List.eq_of_mem_replicate) hc
    (fun _ => List.eq_of_mem_replicate) hd hlists
  refine ⟨by simpa using congrArg List.length hblanks, String.toList_inj.1 ?_⟩
  rw [hs, ht, hrest.1, hrest.2]

theorem newline_not_mem_indented {label : String} (h : IsLabel label) (n : Nat) :
    ∀ c ∈ (blanks n ++ label).toList, c ≠ '\n' := by
  intro c hc
  rw [String.toList_append, List.mem_append] at hc
  rcases hc with hc | hc
  · rw [blanks, String.toList_ofList] at hc
    rw [List.eq_of_mem_replicate hc]
    decide
  · exact fun he => h.newline (he ▸ hc)

/-- **The drawing says what the labels and their depths are.** -/
theorem drawn_inj {xs ys : List (Nat × String)} (hxs : ∀ row ∈ xs, IsLabel row.2)
    (hys : ∀ row ∈ ys, IsLabel row.2) (h : drawn xs = drawn ys) : xs = ys := by
  have hlists := congrArg String.toList h
  clear h
  induction xs generalizing ys with
  | nil =>
    cases ys with
    | nil => rfl
    | cons y ys => simp [drawn] at hlists
  | cons x xs ih =>
    cases ys with
    | nil => simp [drawn] at hlists
    | cons y ys =>
      obtain ⟨hx, hxs⟩ := List.forall_mem_cons.1 hxs
      obtain ⟨hy, hys⟩ := List.forall_mem_cons.1 hys
      rw [toList_drawn_cons, toList_drawn_cons] at hlists
      obtain ⟨hline, -, hrest⟩ := append_cons_inj (· ≠ '\n') (newline_not_mem_indented hx _)
        (not_not.2 rfl) (newline_not_mem_indented hy _) (not_not.2 rfl) hlists
      obtain ⟨hdepth, hlabel⟩ := indented_inj hx hy (String.toList_inj.1 hline)
      have hrow : x = y := Prod.ext (by omega) hlabel
      rw [hrow, ih hxs hys hrest]

/-! ## Labels that begin with a word -/

/-- The characters of a word. -/
def isWordChar (c : Char) : Bool := c.isLower || c = '_'

/-- A word of lower case letters and underscores, such as the names of kinds. -/
structure IsWord (word : String) : Prop where
  nonempty : word.toList ≠ []
  chars : ∀ c ∈ word.toList, isWordChar c = true

instance (word : String) : Decidable (IsWord word) :=
  decidable_of_iff (word.toList ≠ [] ∧ word.toList.all isWordChar = true)
    ⟨fun h => ⟨h.1, List.all_eq_true.1 h.2⟩, fun h => ⟨h.1, List.all_eq_true.2 h.2⟩⟩

/-- A word can be told from what follows it. -/
theorem IsWord.append_cons_inj {s t : String} (hs : IsWord s) (ht : IsWord t) {c d : Char}
    {us vs : List Char} (hc : isWordChar c = false) (hd : isWordChar d = false)
    (h : s.toList ++ c :: us = t.toList ++ d :: vs) : s = t ∧ c = d ∧ us = vs := by
  obtain ⟨hword, hrest⟩ := Text.append_cons_inj (isWordChar · = true) hs.chars (by simp [hc])
    ht.chars (by simp [hd]) h
  exact ⟨String.toList_inj.1 hword, hrest⟩

/-- No word stands in front of what begins otherwise. -/
theorem IsWord.append_ne_cons {s : String} (hs : IsWord s) {c : Char} (hc : isWordChar c = false)
    (rest us : List Char) : s.toList ++ rest ≠ c :: us := by
  obtain ⟨first, others, hlist⟩ := List.exists_cons_of_ne_nil hs.nonempty
  intro h
  rw [hlist, List.cons_append, List.cons.injEq] at h
  have hfirst := hs.chars first (hlist ▸ .head _)
  rw [h.1, hc] at hfirst
  cases hfirst

/-- What begins with a word is a label if it has no line break. -/
theorem IsWord.isLabel {s : String} (hs : IsWord s) {label : String} {rest : List Char}
    (h : label.toList = s.toList ++ rest) (hrest : '\n' ∉ rest) : IsLabel label := by
  obtain ⟨first, others, hlist⟩ := List.exists_cons_of_ne_nil hs.nonempty
  refine ⟨?_, first, others ++ rest, by rw [h, hlist, List.cons_append], ?_⟩
  · rw [h, List.mem_append, not_or]
    exact ⟨fun hmem => absurd (hs.chars _ hmem) (by decide), hrest⟩
  · rintro rfl
    exact absurd (hs.chars ' ' (hlist ▸ .head _)) (by decide)

/-! ## Texts that are drawn -/

/-- A text is drawn with one line for each place: so many blanks and what is shown of it. -/
structure DrawnAs {Place : Type} (text : String) (In : Place → Prop) (indent : Place → Nat)
    (label : Place → String) (places : List Place) : Prop where
  nodup : places.Nodup
  mem_iff : ∀ place, place ∈ places ↔ In place
  text_eq : text =
    String.join (places.map fun place => blanks (indent place) ++ label place ++ "\n")
  isLabel : ∀ place ∈ places, IsLabel (label place)

section
variable {α β γ δ : Type} {f : Nat → α → β}

/-- What is in several lists, each item seen through the position of the list that it is in. -/
def numbered (f : Nat → α → β) (lists : List (List α)) : List β :=
  lists.zipIdx.flatMap fun (list, i) => list.map (f i)

theorem mem_numbered {things : List δ} {inside : δ → List α} {item : β} :
    item ∈ numbered f (things.map inside) ↔
      ∃ i thing inner, things[i]? = some thing ∧ inner ∈ inside thing ∧ f i inner = item := by
  simp only [numbered, List.mem_flatMap, List.mem_zipIdx_iff_getElem?, List.getElem?_map,
    Option.map_eq_some_iff, List.mem_map, Prod.exists]
  constructor
  · rintro ⟨_, i, ⟨thing, hthing, rfl⟩, inner, hinner, heq⟩
    exact ⟨i, thing, inner, hthing, hinner, heq⟩
  · rintro ⟨i, thing, inner, hthing, hinner, heq⟩
    exact ⟨_, i, ⟨thing, hthing, rfl⟩, inner, hinner, heq⟩

theorem nodup_numbered (hf : ∀ {i j x y}, f i x = f j y → i = j ∧ x = y)
    {lists : List (List α)} (h : ∀ list ∈ lists, list.Nodup) : (numbered f lists).Nodup := by
  refine List.nodup_flatMap.2 ⟨fun entry hentry => ?_, ?_⟩
  · have hlist : entry.1 ∈ lists := List.mem_of_getElem? (List.mem_zipIdx_iff_getElem?.1 hentry)
    exact (h _ hlist).map fun _ _ heq => (hf heq).2
  · have hpositions : lists.zipIdx.Pairwise fun x y => x.2 ≠ y.2 :=
      List.pairwise_map.1 (List.nodup_zipIdx_map_snd lists)
    refine hpositions.imp fun hne item hx hy => hne ?_
    obtain ⟨inner, -, hinner⟩ := List.mem_map.1 hx
    obtain ⟨inner', -, hinner'⟩ := List.mem_map.1 hy
    exact (hf (hinner.trans hinner'.symm)).1

/-- What is made of each thing alone is made of what is in all of them. -/
theorem map_numbered {things : List δ} {inside : δ → List α} {g : β → γ} {h : δ → List γ}
    (hthing : ∀ i thing, things[i]? = some thing →
      h thing = (inside thing).map fun inner => g (f i inner)) :
    things.flatMap h = (numbered f (things.map inside)).map g := by
  rw [numbered, List.zipIdx_map, List.flatMap_map, List.map_flatMap]
  conv_lhs => rw [← List.zipIdx_map_fst 0 things, List.flatMap_map]
  refine List.flatMap_congr fun entry hentry => ?_
  rw [hthing entry.2 entry.1 (List.mem_zipIdx_iff_getElem?.1 hentry)]
  exact (List.map_map (g := g) (f := f entry.2)).symm

/-- Two lists that are mapped to the same have items that are mapped to the same in each place. -/
theorem getElem?_of_map_eq {g : α → β} {xs ys : List α} (h : xs.map g = ys.map g) (i : Nat) :
    xs[i]? = none ∧ ys[i]? = none ∨ ∃ x y, xs[i]? = some x ∧ ys[i]? = some y ∧ g x = g y := by
  have hi : xs[i]?.map g = ys[i]?.map g := by
    rw [← List.getElem?_map, ← List.getElem?_map, h]
  cases hx : xs[i]? with
  | none =>
    rw [hx, Option.map_none] at hi
    exact .inl ⟨rfl, Option.map_eq_none_iff.1 hi.symm⟩
  | some x =>
    rw [hx, Option.map_some] at hi
    obtain ⟨y, hy, heq⟩ := Option.map_eq_some_iff.1 hi.symm
    exact .inr ⟨x, y, rfl, hy, heq.symm⟩

end

end SearchNotation.Text
