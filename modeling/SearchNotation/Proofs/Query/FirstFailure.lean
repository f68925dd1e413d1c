import SearchNotation.Proofs.Dict
import SearchNotation.Proofs.Query.Visits

/-!
# The first failure decides

A query fails with the error of one entry. `EntryAt` says which entries count, and where each of
them is: its place is the list of the positions, in maps and in lists of maps, that lead to it from
the root. Places are compared as lists of numbers, so what comes first in a map or in a list comes
first with all that is below it. A compilation fails with an error exactly if an entry does and all
entries at earlier places resolve (`Query.compile_eq_error_iff`); nothing else in the notation
is looked at.

The proof lays the entries out along the visits of the compiler (`Layout`): the visits of the parts
follow each other as the places of the parts do, so the entries are visited in the order of their
places.
-/

set_option autoImplicit false

namespace SearchNotation

/-! ## Entries and their places -/

mutual

/-- An entry that a value gives to a clause list. -/
inductive Value.EntryAt : Value → List Nat → String → Value → Prop
  | nested {bag : Bag} {place : List Nat} {key : String} {value : Value}
      (h : Bag.EntryAt bag place key value) : Value.EntryAt (.nested bag) place key value
  | list {bags : List Bag} {i : Nat} {bag : Bag} {place : List Nat} {key : String} {value : Value}
      (hi : bags[i]? = some bag) (h : Bag.EntryAt bag place key value) :
      Value.EntryAt (.list bags) (i :: place) key value

/-- An entry of a map without joining keys, or one that the value of a joining key gives. -/
inductive Bag.EntryAt : Bag → List Nat → String → Value → Prop
  | own {bag : Bag} {i : Nat} {key : String} {value : Value} (hjoin : bag.hasJoin = false)
      (hi : bag[i]? = some (key, value)) : Bag.EntryAt bag [i] key value
  | under {bag : Bag} {i : Nat} {join : Join} {below : Value} {place : List Nat} {key : String}
      {value : Value} (hi : bag[i]? = some (join.key, below))
      (h : Value.EntryAt below place key value) : Bag.EntryAt bag (i :: place) key value

end

/-- An entry of the notation that becomes a predicate, with its place. -/
def Notation.EntryAt : Notation → List Nat → String → Value → Prop
  | .null, _, _, _ => False
  | .map bag, place, key, value => Bag.EntryAt bag place key value
  | .list bags, place, key, value => Value.EntryAt (.list bags) place key value

/-- The error is that of an entry, and all entries before it resolve. -/
def Notation.FirstFails (table : QueryTable) (n : Notation) (e : CompileError) : Prop :=
  ∃ place key value, n.EntryAt place key value ∧ (resolve table key value).result = .error e ∧
    ∀ place' key' value', n.EntryAt place' key' value' → place' < place →
      ∃ leaf, (resolve table key' value').result = .ok leaf

/-! ## Entries along visits -/

/-- Entries with their places. -/
abbrev Region := List Nat → String → Value → Prop

/-- The key and the value of the entry that is visited. -/
def Visit.named? (visit : Visit) : Option (String × Value) :=
  visit.reached?.map fun r => (r.key, r.value)

@[simp] theorem Visit.named?_under (join : Join) (visit : Visit) :
    (visit.under join).named? = visit.named? := by
  cases visit <;> rfl

/-- The visits come to the entries of a region, in the order of their places. -/
def Layout (region : Region) (visits : List Visit) : Prop :=
  ∃ placed : List (List Nat × String × Value),
    placed.map Prod.snd = visits.filterMap Visit.named? ∧ placed.Pairwise (·.1 < ·.1) ∧
      ∀ p, p ∈ placed ↔ region p.1 p.2.1 p.2.2

/-- The region of several parts: what is in a part has the position of the part in front. -/
def inParts {α : Type} (region : α → Region) (parts : List α) : Region := fun place key value =>
  ∃ i part below, place = i :: below ∧ parts[i]? = some part ∧ region part below key value

/-- The place with its first position moved on. -/
def moveOn : List Nat → List Nat
  | [] => []
  | i :: below => (i + 1) :: below

theorem moveOn_lt {place place' : List Nat} (h : place < place') :
    moveOn place < moveOn place' := by
  cases place with
  | nil =>
    cases place' with
    | nil => exact h
    | cons j below' => exact List.nil_lt_cons _ _
  | cons i below =>
    cases place' with
    | nil => exact absurd h (List.not_lt_nil _)
    | cons j below' =>
      simpa [moveOn, List.cons_lt_cons_iff] using h

section
variable {α : Type} {region : α → Region} {part : α} {parts : List α}

theorem inParts_cons {place : List Nat} {key : String} {value : Value} :
    inParts region (part :: parts) place key value ↔
      (∃ below, place = 0 :: below ∧ region part below key value) ∨
        ∃ later, place = moveOn later ∧ inParts region parts later key value := by
  constructor
  · rintro ⟨i, part', below, rfl, hi, h⟩
    cases i with
    | zero =>
      cases hi
      exact .inl ⟨below, rfl, h⟩
    | succ i => exact .inr ⟨i :: below, rfl, i, part', below, rfl, hi, h⟩
  · rintro (⟨below, rfl, h⟩ | ⟨later, rfl, i, part', below, rfl, hi, h⟩)
    · exact ⟨0, part, below, rfl, rfl, h⟩
    · exact ⟨i + 1, part', below, rfl, hi, h⟩

/-- The visits of several parts follow each other as the parts do. -/
theorem Layout.cons {visits visits' : List Visit} (h : Layout (region part) visits)
    (h' : Layout (inParts region parts) visits') :
    Layout (inParts region (part :: parts)) (visits ++ visits') := by
  obtain ⟨first, hfirst, hsorted, hmem⟩ := h
  obtain ⟨others, hothers, hsorted', hmem'⟩ := h'
  refine ⟨first.map (fun p => (0 :: p.1, p.2)) ++ others.map (fun p => (moveOn p.1, p.2)),
    ?_, ?_, ?_⟩
  · rw [List.map_append, List.map_map, List.map_map, List.filterMap_append, ← hfirst, ← hothers]
    rfl
  · refine List.pairwise_append.2 ⟨?_, ?_, ?_⟩
    · refine List.pairwise_map.2 (hsorted.imp fun hlt => ?_)
      exact List.cons_lt_cons_iff.2 (.inr ⟨rfl, hlt⟩)
    · exact List.pairwise_map.2 (hsorted'.imp fun hlt => moveOn_lt hlt)
    · intro p hp q hq
      obtain ⟨p, -, rfl⟩ := List.mem_map.1 hp
      obtain ⟨q, hother, rfl⟩ := List.mem_map.1 hq
      obtain ⟨i, part', below, hplace, -⟩ := (hmem' q).1 hother
      simp only [hplace, moveOn]
      exact List.cons_lt_cons_iff.2 (.inl i.succ_pos)
  · intro p
    obtain ⟨place, key, value⟩ := p
    rw [inParts_cons, List.mem_append, List.mem_map, List.mem_map]
    refine or_congr ?_ ?_
    · constructor
      · rintro ⟨⟨below, entry⟩, hp, h⟩
        cases h
        exact ⟨below, rfl, (hmem _).1 hp⟩
      · rintro ⟨below, rfl, h⟩
        exact ⟨(below, key, value), (hmem _).2 h, rfl⟩
    · constructor
      · rintro ⟨⟨later, entry⟩, hp, h⟩
        cases h
        exact ⟨later, rfl, (hmem' _).1 hp⟩
      · rintro ⟨later, rfl, h⟩
        exact ⟨(later, key, value), (hmem' _).2 h, rfl⟩

theorem layout_empty {region : Region} {visits : List Visit}
    (hvisits : visits.filterMap Visit.named? = [])
    (hregion : ∀ place key value, ¬ region place key value) : Layout region visits :=
  ⟨[], hvisits.symm, .nil, fun _ => iff_of_false List.not_mem_nil (hregion _ _ _)⟩

theorem Layout.congr {region' : Region} {region : Region} {visits visits' : List Visit}
    (h : Layout region visits)
    (hvisits : visits'.filterMap Visit.named? = visits.filterMap Visit.named?)
    (hregion : ∀ place key value, region' place key value ↔ region place key value) :
    Layout region' visits' := by
  obtain ⟨placed, hplaced, hsorted, hmem⟩ := h
  exact ⟨placed, hplaced.trans hvisits.symm, hsorted, fun p => (hmem p).trans (hregion _ _ _).symm⟩

end

/-! ### Visits of maps, values and lists -/

/-- The entries of a map without joining keys. -/
def ownEntry (e : String × Value) : Region := fun place key value => place = [] ∧ (key, value) = e

/-- The entries under a joining key. -/
def underKey (e : String × Value) : Region := fun place key value =>
  ∃ join : Join, e.1 = join.key ∧ e.2.EntryAt place key value

theorem layout_ofEntries (bag : Bag) : Layout (inParts ownEntry bag) (Visit.ofEntries bag) := by
  induction bag with
  | nil => exact layout_empty rfl fun place key value ⟨i, part, below, _, hi, _⟩ => by cases hi
  | cons e rest ih =>
    have hfirst : Layout (ownEntry e) [.entry ⟨[], e.1, e.2⟩] :=
      ⟨[([], e)], rfl, List.pairwise_singleton _ _, fun p => by simp [ownEntry, Prod.ext_iff]⟩
    exact hfirst.cons ih

theorem Bag.hasJoin_of_getElem? {bag : Bag} {i : Nat} {join : Join} {value : Value}
    (h : bag[i]? = some (join.key, value)) : bag.hasJoin = true :=
  List.any_eq_true.2 ⟨_, List.mem_of_getElem? h, by simp⟩

/-- An element is laid out as soon as its joining keys are. -/
theorem layout_ofElement {bag : Bag} (h : Layout (inParts underKey bag) (Visit.ofJoined bag)) :
    Layout (Bag.EntryAt bag) (Visit.ofElement bag) := by
  unfold Visit.ofElement
  split
  · next hjoin =>
    refine h.congr rfl fun place key value => ⟨?_, ?_⟩
    · intro hentry
      cases hentry with
      | own hnone hi => rw [hnone] at hjoin; cases hjoin
      | under hi hbelow => exact ⟨_, _, _, rfl, hi, _, rfl, hbelow⟩
    · rintro ⟨i, ⟨name, value⟩, below, rfl, hi, join, rfl, hbelow⟩
      exact .under hi hbelow
  · next hjoin =>
    refine (layout_ofEntries bag).congr rfl fun place key value => ⟨?_, ?_⟩
    · intro hentry
      cases hentry with
      | own hnone hi => exact ⟨_, _, _, rfl, hi, rfl, rfl⟩
      | under hi hbelow => exact absurd (Bag.hasJoin_of_getElem? hi) hjoin
    · rintro ⟨i, e, below, rfl, hi, rfl, rfl⟩
      exact .own (by simpa using hjoin) hi

theorem Join.key_of_ofKey? {key : String} {join : Join} (h : ofKey? key = some join) :
    join.key = key := by
  simpa using List.find?_some h

mutual

theorem layout_ofJoined : ∀ bag : List (String × Value),
    Layout (inParts underKey bag) (Visit.ofJoined bag)
  | [] => layout_empty rfl fun place key value ⟨i, part, below, _, hi, _⟩ => by cases hi
  | (key, value) :: rest => by
    cases hk : Join.ofKey? key with
    | none =>
      have hfirst : Layout (underKey (key, value)) [.strayKey key] := by
        refine layout_empty rfl fun place key' value' ⟨join, hjoin, _⟩ => ?_
        obtain rfl : key = join.key := hjoin
        rw [Join.ofKey?_key] at hk
        cases hk
      rw [Visit.ofJoined_stray hk]
      exact hfirst.cons (layout_ofJoined rest)
    | some join =>
      have hkey := Join.key_of_ofKey? hk
      have hfirst : Layout (underKey (key, value)) (Visit.ofValue join value) := by
        refine (layout_ofValue join value).congr rfl fun place key' value' => ⟨?_, ?_⟩
        · intro ⟨_, _, h⟩
          exact h
        · exact fun h => ⟨join, hkey.symm, h⟩
      rw [Visit.ofJoined_join hk]
      exact hfirst.cons (layout_ofJoined rest)

theorem layout_ofValue (join : Join) : ∀ value : Value,
    Layout value.EntryAt (Visit.ofValue join value)
  | .list bags => by
    refine (layout_ofElements bags).congr ?_ fun place key value => ⟨?_, ?_⟩
    · rw [Visit.ofValue_list, List.filterMap_map]
      exact congrArg (List.filterMap · _) (funext fun visit => visit.named?_under join)
    · intro h
      cases h with
      | list hi hbelow => exact ⟨_, _, _, rfl, hi, hbelow⟩
    · rintro ⟨i, bag, below, rfl, hi, hbelow⟩
      exact .list hi hbelow
  | .nested bag => by
    refine (layout_ofElement (layout_ofJoined bag)).congr ?_ fun place key value => ⟨?_, ?_⟩
    · rw [Visit.ofValue_nested, List.filterMap_map]
      exact congrArg (List.filterMap · _) (funext fun visit => visit.named?_under join)
    · intro h
      cases h with
      | nested h => exact h
    · exact .nested
  | .array [] => layout_empty rfl nofun
  | .array (_ :: _) => layout_empty rfl nofun
  | .scalar _ => layout_empty rfl nofun

theorem layout_ofElements : ∀ bags : List (List (String × Value)),
    Layout (inParts Bag.EntryAt bags) (Visit.ofElements bags)
  | [] => layout_empty rfl fun place key value ⟨i, part, below, _, hi, _⟩ => by cases hi
  | bag :: rest => (layout_ofElement (layout_ofJoined bag)).cons (layout_ofElements rest)

end

/-- **The entries of a notation are visited in the order of their places.** -/
theorem layout_visits (n : Notation) : Layout n.EntryAt n.visits := by
  unfold Notation.visits
  cases n with
  | null => exact layout_empty rfl nofun
  | list bags =>
    rw [Notation.item, visits_must]
    exact layout_ofValue .must (.list bags)
  | map bag =>
    have hbag := layout_ofElement (layout_ofJoined bag)
    unfold Visit.ofElement at hbag
    by_cases hj : bag.hasJoin = true
    · rw [if_pos hj] at hbag
      rw [Notation.item_joined hj]
      exact hbag
    rw [if_neg hj] at hbag
    by_cases hlen : bag.length = 1
    · obtain ⟨⟨key, value⟩, rfl⟩ := List.length_eq_one_iff.1 hlen
      rw [Notation.item_entry hj]
      exact hbag
    · have hmany : ∀ key value, bag = [(key, value)] → False := fun _ _ he => hlen (he ▸ rfl)
      rw [Notation.item_entries hj hmany, visits_must]
      refine (layout_ofValue .must (.nested bag)).congr rfl fun place key value => ⟨.nested, ?_⟩
      intro h
      cases h with
      | nested h => exact h

/-! ## The failure of the first entry -/

section
variable {table : QueryTable} {e : CompileError}

/-- Visits without an entry do not fail. -/
theorem result_forM_run (visits : List Visit) : (forM visits (Visit.run table)).result =
    (forM (visits.filterMap Visit.named?)
      fun entry => Logged.trace (resolve table entry.1 entry.2)).result := by
  induction visits with
  | nil => rfl
  | cons visit rest ih =>
    rw [List.forM_cons]
    cases visit with
    | entry r =>
      have hr : (Visit.entry r).named? = some (r.key, r.value) := rfl
      rw [List.filterMap_cons_some hr, List.forM_cons]
      exact Logged.result_bind_congr rfl fun _ => ih
    | strayKey key =>
      rw [List.filterMap_cons_none rfl, ← ih]
      rfl
    | strayJoin join value =>
      rw [List.filterMap_cons_none rfl, ← ih]
      rfl

/-- What stands before an entry in a sorted list is what has a smaller place. -/
theorem mem_before_iff {before after : List (List Nat × String × Value)}
    {p q : List Nat × String × Value} (hsorted : (before ++ p :: after).Pairwise (·.1 < ·.1)) :
    q ∈ before ↔ q ∈ before ++ p :: after ∧ q.1 < p.1 := by
  obtain ⟨-, htail, hbefore⟩ := List.pairwise_append.1 hsorted
  constructor
  · intro hq
    exact ⟨List.mem_append_left _ hq, hbefore q hq p (.head _)⟩
  · rintro ⟨hq, hlt⟩
    obtain hq | hq := List.mem_append.1 hq
    · exact hq
    cases hq with
    | head => exact absurd hlt (List.lt_irrefl _)
    | tail _ hafter => exact absurd ((List.pairwise_cons.1 htail).1 q hafter) (List.lt_asymm hlt)

/-- A compilation fails as the entries do, one after the other. -/
theorem result_trace_compile {n : Notation} {placed : List (List Nat × String × Value)}
    (hplaced : placed.map Prod.snd = n.visits.filterMap Visit.named?) :
    (Logged.trace (Query.compile table n)).result =
      (forM placed fun p => Logged.trace (resolve table p.2.1 p.2.2)).result := by
  rw [trace_compile, result_forM_run, ← hplaced, List.forM_map]

theorem exists_compile_eq_error {n : Notation} :
    (∃ e, (Query.compile table n).result = .error e) ↔ ∃ place key value e,
      n.EntryAt place key value ∧ (resolve table key value).result = .error e := by
  obtain ⟨placed, hplaced, -, hmem⟩ := layout_visits n
  constructor
  · rintro ⟨e, h⟩
    rw [← Logged.result_trace_eq_error, result_trace_compile hplaced] at h
    obtain ⟨⟨place, key, value⟩, hp, hfails⟩ := Logged.exists_of_forM_eq_error h
    exact ⟨place, key, value, e, (hmem _).1 hp, Logged.result_trace_eq_error.1 hfails⟩
  · rintro ⟨place, key, value, e, hentry, hfails⟩
    cases hq : (Query.compile table n).result with
    | error e' => exact ⟨e', rfl⟩
    | ok query =>
      -- Then all entries resolve, this one too.
      have hok := Logged.result_trace_eq_ok.2 ⟨query, hq⟩
      rw [result_trace_compile hplaced, Logged.result_forM_eq_ok] at hok
      have hp := (hmem (place, key, value)).2 hentry
      obtain ⟨leaf, hleaf⟩ := Logged.result_trace_eq_ok.1 (hok _ hp)
      rw [hleaf] at hfails
      cases hfails

theorem compile_eq_error_iff_firstFails {n : Notation} :
    (Query.compile table n).result = .error e ↔ n.FirstFails table e := by
  obtain ⟨placed, hplaced, hsorted, hmem⟩ := layout_visits n
  rw [← Logged.result_trace_eq_error, result_trace_compile hplaced, Logged.result_forM_eq_error]
  constructor
  · rintro ⟨before, ⟨place, key, value⟩, after, rfl, hbefore, hfails⟩
    have hp := (hmem (place, key, value)).1 (by simp)
    refine ⟨place, key, value, hp, Logged.result_trace_eq_error.1 hfails, ?_⟩
    intro place' key' value' hentry hlt
    have hearlier := (mem_before_iff hsorted).2 ⟨(hmem (place', key', value')).2 hentry, hlt⟩
    exact Logged.result_trace_eq_ok.1 (hbefore _ hearlier)
  · rintro ⟨place, key, value, hentry, hfails, hearlier⟩
    obtain ⟨before, after, rfl⟩ := List.append_of_mem ((hmem (place, key, value)).2 hentry)
    refine ⟨before, _, after, rfl, fun q hq => ?_, Logged.result_trace_eq_error.2 hfails⟩
    obtain ⟨hq, hlt⟩ := (mem_before_iff hsorted).1 hq
    exact Logged.result_trace_eq_ok.2 (hearlier _ _ _ ((hmem q).1 hq) hlt)

end

/-- What is under the smaller of two keys of a map comes first. -/
theorem place_lt_of_key_lt {bag : Bag} (hs : Dict.Sorted bag) {i j : Nat} {e e' : String × Value}
    (hi : bag[i]? = some e) (hj : bag[j]? = some e') (hkey : e.1 < e'.1) (below below' : List Nat) :
    i :: below < j :: below' :=
  List.cons_lt_cons_iff.2 (.inl ((Dict.getElem?_lt_iff hs hi hj).2 hkey))

/-- Beside joining keys no other key is looked at, and under a joining key nothing but maps. -/
theorem not_entryAt_ignored {bag : Bag} (hjoin : bag.hasJoin = true) {i : Nat} {name : String}
    {ignored : Value} (hi : bag[i]? = some (name, ignored))
    (h : (∀ join : Join, name ≠ join.key) ∨ ignored.shape ∉ [.object, .list]) (below : List Nat)
    (key : String) (value : Value) : ¬ Bag.EntryAt bag (i :: below) key value := by
  intro hentry
  cases hentry with
  | own hnone => rw [hnone] at hjoin; cases hjoin
  | under hi' hbelow =>
    rw [hi] at hi'
    cases hi'
    rcases h with hkey | hshape
    · exact hkey _ rfl
    · cases hbelow <;> exact hshape (by simp [Value.shape])

/-- **A query fails exactly when one of its entries does, with the error of the first one.** Below a
map the first key comes first, so `filter` before `must`, `must_not` and `should`; what a joining
map ignores has no entries. -/
theorem Query.compile_eq_error_iff (table : QueryTable) (n : Notation) :
    ((∃ e, (compile table n).result = .error e) ↔ ∃ place key value e,
      n.EntryAt place key value ∧ (resolve table key value).result = .error e) ∧
    (∀ e, (compile table n).result = .error e ↔ n.FirstFails table e) ∧
    (∀ (bag : Bag) (i j : Nat) (a b : String × Value), Dict.Sorted bag → bag[i]? = some a →
      bag[j]? = some b → a.1 < b.1 → ∀ below below', i :: below < j :: below') ∧
    [Join.filter, Join.must, Join.mustNot, Join.should].Pairwise (·.key < ·.key) ∧
    ∀ (bag : Bag) (i : Nat) (name : String) (ignored : Value), bag.hasJoin = true →
      bag[i]? = some (name, ignored) →
      ((∀ join : Join, name ≠ join.key) ∨ ignored.shape ∉ [.object, .list]) →
      ∀ below key value, ¬ Bag.EntryAt bag (i :: below) key value := by
  refine ⟨exists_compile_eq_error, fun e => compile_eq_error_iff_firstFails, ?_, by decide, ?_⟩
  · intro bag i j a b hs hi hj hkey
    exact place_lt_of_key_lt hs hi hj hkey
  · intro bag i name ignored hjoin hi h
    exact not_entryAt_ignored hjoin hi h

/-- All four entries are ill-formed; the one under `filter` decides, though `must` is rendered
first. The key beside the joining keys is not looked at. -/
theorem Query.compile_eq_error_filter :
    let table : QueryTable := ⟨[("exists", .unary "exists" "field" false QueryKind.buildExists),
      ("ids", .unary "ids" "values" true QueryKind.buildIds)], [], []⟩
    let bag : Bag := [("exists", .scalar .null), ("filter", .nested [("exists", .scalar .null)]),
      ("must", .nested [("ids", .scalar .null)]), ("should", .scalar .null)]
    (compile table (.map bag)).result = .error (.missingArgument "exists" "field") ∧
    Notation.FirstFails table (.map bag) (.missingArgument "exists" "field") ∧
    Dict.Sorted bag ∧ [1, 0] < [2, 0] ∧
    ∀ below key value, ¬ Bag.EntryAt bag (0 :: below) key value := by
  intro table bag
  obtain ⟨-, hfirst, horder, -, hignored⟩ := compile_eq_error_iff table (.map bag)
  have hfails : (compile table (.map bag)).result =
      .error (.missingArgument "exists" "field") := rfl
  have hs : Dict.Sorted bag := by decide
  have hkey : ∀ join : Join, "exists" ≠ join.key := by
    intro join
    cases join <;> decide
  exact ⟨hfails, (hfirst _).1 hfails, hs, horder bag 1 2 _ _ hs rfl rfl (by decide) [0] [0],
    hignored bag 0 "exists" _ rfl rfl (.inl hkey)⟩

end SearchNotation
