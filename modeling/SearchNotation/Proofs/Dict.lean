import SearchNotation.Dict

/-!
# The order of a dictionary

`Dict.Sorted` is kept when entries are stored (`sorted_insert`, `sorted_insertAll`), and two sorted
dictionaries with the same value under every name are the same list of entries (`eq_of_get?`). With
`get?_insertAll`, which says what is under a name after many entries are stored, an equation between
dictionaries comes down to one name at a time.
-/

set_option autoImplicit false

namespace SearchNotation

namespace Dict

variable {α : Type}

/-! ## Entries and lookups -/

@[simp] theorem get?_cons (key : String) (value : α) (rest : Dict α) (name : String) :
    get? ((key, value) :: rest) name = if key = name then some value else get? rest name := rfl

theorem mem_of_get? {dict : Dict α} {name : String} {value : α} (h : get? dict name = some value) :
    (name, value) ∈ dict := by
  induction dict with
  | nil => cases h
  | cons e rest ih =>
    obtain ⟨key, old⟩ := e
    simp only [get?_cons] at h
    split at h
    · next hk => cases h; subst hk; exact .head _
    · exact .tail _ (ih h)

theorem get?_eq_none {dict : Dict α} {name : String} (h : ∀ e ∈ dict, e.1 ≠ name) :
    get? dict name = none := by
  cases hv : get? dict name with
  | none => rfl
  | some value => exact absurd rfl (h _ (mem_of_get? hv))

theorem ne_of_get?_eq_none {dict : Dict α} {name : String} (h : get? dict name = none) :
    ∀ e ∈ dict, e.1 ≠ name := by
  induction dict with
  | nil => exact fun e he => nomatch he
  | cons e rest ih =>
    obtain ⟨key, value⟩ := e
    rw [get?_cons] at h
    split at h
    · cases h
    · next hk => exact List.forall_mem_cons.2 ⟨hk, ih h⟩

theorem mem_keys_of_mem {dict : Dict α} {e : String × α} (h : e ∈ dict) : e.1 ∈ keys dict :=
  List.mem_map.2 ⟨e, h, rfl⟩

theorem nodup_of_keys {dict : Dict α} (h : (keys dict).Nodup) : dict.Nodup :=
  (List.pairwise_map.1 h).imp fun hne he => hne (congrArg Prod.fst he)

theorem sorted_nil : Sorted ([] : Dict α) := .nil

theorem sorted_cons {key : String} {value : α} {rest : Dict α} :
    Sorted ((key, value) :: rest) ↔ (∀ e ∈ rest, key < e.1) ∧ Sorted rest :=
  List.pairwise_cons

/-- The first name of a sorted dictionary does not come again. -/
theorem get?_head_eq_none {key : String} {value : α} {rest : Dict α}
    (h : Sorted ((key, value) :: rest)) : get? rest key = none := by
  refine get?_eq_none fun e he hk => ?_
  have hlt := (sorted_cons.1 h).1 e he
  rw [hk] at hlt
  exact String.lt_irrefl _ hlt

theorem get?_of_mem {dict : Dict α} (hs : Sorted dict) {name : String} {value : α}
    (h : (name, value) ∈ dict) : get? dict name = some value := by
  induction dict with
  | nil => cases h
  | cons e rest ih =>
    obtain ⟨key, old⟩ := e
    rcases List.mem_cons.1 h with he | hr
    · cases he; simp
    · have hne : key ≠ name := by
        rintro rfl
        exact String.lt_irrefl _ ((sorted_cons.1 hs).1 _ hr)
      rw [get?_cons, if_neg hne]
      exact ih (sorted_cons.1 hs).2 hr

theorem mem_insert {dict : Dict α} {name : String} {value : α} {e : String × α}
    (h : e ∈ insert dict name value) : e = (name, value) ∨ e ∈ dict := by
  induction dict with
  | nil => exact .inl (List.mem_singleton.1 h)
  | cons d rest ih =>
    obtain ⟨key, old⟩ := d
    unfold insert at h
    split at h
    · exact (List.mem_cons.1 h).imp id (.tail _)
    · split at h
      · exact List.mem_cons.1 h
      · rcases List.mem_cons.1 h with rfl | hr
        · exact .inr (.head _)
        · exact (ih hr).imp id (.tail _)

theorem sorted_insert {dict : Dict α} (h : Sorted dict) (name : String) (value : α) :
    Sorted (insert dict name value) := by
  induction dict with
  | nil => exact sorted_cons.2 ⟨by simp, sorted_nil⟩
  | cons e rest ih =>
    obtain ⟨key, old⟩ := e
    obtain ⟨hlt, hr⟩ := sorted_cons.1 h
    unfold insert
    split
    · next hk => subst hk; exact sorted_cons.2 ⟨hlt, hr⟩
    · next hne =>
      split
      · next hn =>
        refine sorted_cons.2 ⟨fun e he => ?_, h⟩
        rcases List.mem_cons.1 he with rfl | he
        · exact hn
        · exact String.lt_trans hn (hlt e he)
      · next hn =>
        refine sorted_cons.2 ⟨fun e he => ?_, ih hr⟩
        rcases mem_insert he with rfl | he
        · rcases Std.lt_trichotomy name key with h' | h' | h'
          · exact absurd h' hn
          · exact absurd h' hne
          · exact h'
        · exact hlt e he

theorem sorted_insertAll {dict : Dict α} (h : Sorted dict) (entries : List (String × α)) :
    Sorted (insertAll dict entries) := by
  induction entries generalizing dict with
  | nil => exact h
  | cons e rest ih => exact ih (sorted_insert h e.1 e.2)

theorem sorted_ofList (entries : List (String × α)) : Sorted (ofList entries) :=
  sorted_insertAll sorted_nil entries

/-- In a sorted dictionary positions are compared as names are. -/
theorem getElem?_lt_iff {dict : Dict α} (hs : Sorted dict) {i j : Nat} {e e' : String × α}
    (hi : dict[i]? = some e) (hj : dict[j]? = some e') : i < j ↔ e.1 < e'.1 := by
  obtain ⟨hi', rfl⟩ := List.getElem?_eq_some_iff.1 hi
  obtain ⟨hj', rfl⟩ := List.getElem?_eq_some_iff.1 hj
  have hlt := List.pairwise_iff_getElem.1 hs
  constructor
  · exact hlt i j hi' hj'
  · intro hnames
    rcases Nat.lt_trichotomy i j with h | rfl | h
    · exact h
    · exact absurd hnames (String.lt_irrefl _)
    · exact absurd hnames (String.lt_asymm (hlt j i hj' hi' h))

theorem nodup_keys_of_sorted {dict : Dict α} (h : Sorted dict) : (keys dict).Nodup := by
  refine List.pairwise_map.2 (h.imp ?_)
  intro e e' hlt hne
  rw [hne] at hlt
  exact String.lt_irrefl _ hlt

theorem nodup_of_sorted {dict : Dict α} (h : Sorted dict) : dict.Nodup :=
  nodup_of_keys (nodup_keys_of_sorted h)

theorem mem_iff_get? {dict : Dict α} (h : Sorted dict) {e : String × α} :
    e ∈ dict ↔ get? dict e.1 = some e.2 :=
  ⟨get?_of_mem h, mem_of_get?⟩

/-! ## Equality one name at a time -/

/-- **Sorted dictionaries are equal** if they hold the same under every name. -/
theorem eq_of_get? {xs ys : Dict α} (hx : Sorted xs) (hy : Sorted ys)
    (h : ∀ name, get? xs name = get? ys name) : xs = ys := by
  induction xs generalizing ys with
  | nil =>
    cases ys with
    | nil => rfl
    | cons e ys =>
      obtain ⟨l, w⟩ := e
      have := h l
      simp at this
  | cons e xs ih =>
    obtain ⟨k, v⟩ := e
    cases ys with
    | nil => have := h k; simp at this
    | cons e ys =>
      obtain ⟨l, w⟩ := e
      -- each first name is among the names of the other side, so neither is below the other
      have hkl : k = l := by
        by_cases hne : k = l
        · exact hne
        have h1 := h k
        have h2 := h l
        simp only [get?_cons, if_neg hne, if_neg (Ne.symm hne), if_true] at h1 h2
        have hlk := (sorted_cons.1 hy).1 _ (mem_of_get? h1.symm)
        have hkl := (sorted_cons.1 hx).1 _ (mem_of_get? h2)
        exact absurd hkl (String.lt_asymm hlk)
      subst hkl
      have hvw : v = w := by have := h k; simpa using this
      subst hvw
      refine congrArg _ (ih (sorted_cons.1 hx).2 (sorted_cons.1 hy).2 fun name => ?_)
      by_cases hn : k = name
      · subst hn; rw [get?_head_eq_none hx, get?_head_eq_none hy]
      · have := h name
        simpa [hn] using this

/-- **Storing sorted entries**: what they hold under a name goes before what was there. -/
theorem get?_insertAll (dict : Dict α) {entries : Dict α} (h : Sorted entries) (name : String) :
    get? (insertAll dict entries) name = (get? entries name).or (get? dict name) := by
  induction entries generalizing dict with
  | nil => rfl
  | cons e rest ih =>
    obtain ⟨key, value⟩ := e
    have hstep := ih (insert dict key value) (sorted_cons.1 h).2
    simp only [insertAll, List.foldl_cons] at hstep ⊢
    rw [hstep, get?_insert, get?_cons]
    by_cases hk : key = name
    · subst hk; simp [get?_head_eq_none h]
    · simp [hk]

theorem ofList_of_sorted {dict : Dict α} (h : Sorted dict) : ofList dict = dict := by
  refine eq_of_get? (sorted_ofList dict) h fun name => ?_
  rw [ofList, get?_insertAll _ h, get?_nil, Option.or_none]

/-! ## Storing under new names -/

theorem perm_insert {dict : Dict α} {name : String} (h : ∀ e ∈ dict, e.1 ≠ name) (value : α) :
    (insert dict name value).Perm ((name, value) :: dict) := by
  induction dict with
  | nil => exact .refl _
  | cons e rest ih =>
    obtain ⟨key, old⟩ := e
    obtain ⟨hne, hrest⟩ := List.forall_mem_cons.1 h
    rw [insert, if_neg (Ne.symm hne)]
    split
    · exact .refl _
    · exact ((ih hrest).cons _).trans (.swap _ _ _)

theorem perm_insertAll {dict entries : Dict α} (h : (keys (entries ++ dict)).Nodup) :
    (insertAll dict entries).Perm (entries ++ dict) := by
  induction entries generalizing dict with
  | nil => exact .refl _
  | cons e rest ih =>
    obtain ⟨key, value⟩ := e
    have hmid : (rest ++ (key, value) :: dict).Perm ((key, value) :: rest ++ dict) :=
      List.perm_middle
    have hne : ∀ e ∈ dict, e.1 ≠ key := by
      rintro e he rfl
      refine (List.nodup_cons.1 h).1 (List.mem_map.2 ⟨e, ?_, rfl⟩)
      exact List.mem_append_right _ he
    have hins : (rest ++ insert dict key value).Perm ((key, value) :: rest ++ dict) :=
      ((perm_insert hne value).append_left rest).trans hmid
    exact (ih ((hins.map Prod.fst).nodup_iff.2 h)).trans hins

/-- **Entries with different names are all kept.** -/
theorem perm_ofList {entries : Dict α} (h : (keys entries).Nodup) :
    (ofList entries).Perm entries := by
  have hall := @perm_insertAll _ [] entries (by rwa [List.append_nil])
  rwa [List.append_nil] at hall

/-- **Their order does not matter** if their names are different. -/
theorem ofList_eq_of_perm {xs ys : Dict α} (hperm : xs.Perm ys) (h : (keys xs).Nodup) :
    ofList xs = ofList ys := by
  have hys : (keys ys).Nodup := (hperm.map Prod.fst).nodup_iff.1 h
  have hall : (ofList xs).Perm (ofList ys) :=
    ((perm_ofList h).trans hperm).trans (perm_ofList hys).symm
  apply eq_of_get? (sorted_ofList xs) (sorted_ofList ys)
  intro name
  apply Option.ext
  intro value
  have hx := mem_iff_get? (sorted_ofList xs) (e := (name, value))
  have hy := mem_iff_get? (sorted_ofList ys) (e := (name, value))
  rw [← hx, ← hy]
  exact hall.mem_iff

/-! ## Entries that may hold nothing -/

/-- The entries that hold something. -/
def given (entries : Dict (Option α)) : Dict α := entries.filterMap fun e => e.2.map (e.1, ·)

theorem mapValues_cons {β : Type} (f : α → β) (key : String) (value : α) (rest : Dict α) :
    mapValues f ((key, value) :: rest) = (key, f value) :: mapValues f rest := rfl

theorem mapValues_insert {β : Type} (f : α → β) (dict : Dict α) (name : String) (value : α) :
    mapValues f (insert dict name value) = insert (mapValues f dict) name (f value) := by
  induction dict with
  | nil => rfl
  | cons e rest ih =>
    obtain ⟨key, old⟩ := e
    rw [mapValues_cons]
    unfold insert
    split
    · rfl
    · split
      · rfl
      · rw [mapValues_cons, ih]

theorem mapValues_ofList {β : Type} (f : α → β) (entries : Dict α) :
    mapValues f (ofList entries) = ofList (mapValues f entries) := by
  have hall : ∀ dict : Dict α, mapValues f (insertAll dict entries) =
      insertAll (mapValues f dict) (mapValues f entries) := by
    induction entries with
    | nil => exact fun _ => rfl
    | cons e rest ih =>
      intro dict
      have hstep := ih (insert dict e.1 e.2)
      rwa [mapValues_insert] at hstep
  exact hall []

/-! ## Leaving names out -/

variable {names : List String}

theorem without_cons_of_mem {key : String} (h : key ∈ names) (value : α) (rest : Dict α) :
    without ((key, value) :: rest) names = without rest names := by
  simp [without, h]

theorem without_cons_of_not_mem {key : String} (h : key ∉ names) (value : α) (rest : Dict α) :
    without ((key, value) :: rest) names = (key, value) :: without rest names := by
  simp [without, h]

theorem without_without (dict : Dict α) :
    without (without dict names) names = without dict names := by
  simp [without]

theorem without_append (dict : Dict α) (others : List String) :
    without dict (names ++ others) = without (without dict names) others := by
  simp [without, List.filter_filter, Bool.and_comm]

theorem mapValues_without {β : Type} (f : α → β) (dict : Dict α) :
    mapValues f (without dict names) = without (mapValues f dict) names := by
  simp only [mapValues, without, List.filter_map]
  rfl

theorem sorted_without {dict : Dict α} (h : Sorted dict) : Sorted (without dict names) :=
  h.sublist List.filter_sublist

theorem sorted_mapValues {β : Type} {dict : Dict α} (h : Sorted dict) (f : α → β) :
    Sorted (mapValues f dict) :=
  List.pairwise_map.2 h

/-- What is stored under a name that is not asked for makes no difference. -/
theorem filter_insert (asked : String → Bool) (dict : Dict α) {name : String}
    (h : asked name = false) (value : α) : ((insert dict name value).filter fun e => asked e.1) =
      dict.filter fun e => asked e.1 := by
  induction dict with
  | nil => simp [insert, h]
  | cons e rest ih =>
    obtain ⟨key, old⟩ := e
    unfold insert
    split
    · next hk => simp [← hk, h]
    · split
      · simp [h]
      · rw [List.filter_cons, List.filter_cons, ih]

theorem filter_insertAll (asked : String → Bool) {dict : Dict α} {entries : List (String × α)}
    (h : ∀ e ∈ entries, asked e.1 = false) : ((insertAll dict entries).filter fun e => asked e.1) =
      dict.filter fun e => asked e.1 := by
  induction entries generalizing dict with
  | nil => rfl
  | cons e rest ih =>
    obtain ⟨he, hrest⟩ := List.forall_mem_cons.1 h
    exact (ih hrest).trans (filter_insert asked dict he e.2)

/-- What is stored under a name that is left out makes no difference. -/
theorem without_insert (dict : Dict α) {name : String} (h : name ∈ names) (value : α) :
    without (insert dict name value) names = without dict names :=
  filter_insert (fun key => !names.contains key) dict (by simpa using h) value

theorem without_eq_self {dict : Dict α} (h : ∀ name ∈ names, get? dict name = none) :
    without dict names = dict := by
  refine List.filter_eq_self.2 fun e he => ?_
  have hout : e.1 ∉ names := fun hn => ne_of_get?_eq_none (h _ hn) e he rfl
  simpa using hout

theorem get?_without {dict : Dict α} {name : String} (h : name ∈ names) :
    get? (without dict names) name = none := by
  refine get?_eq_none ?_
  rintro e he rfl
  have hout : e.1 ∉ names := by simpa using (List.mem_filter.1 he).2
  exact hout h

theorem get?_without_of_not_mem (dict : Dict α) {name : String} (h : name ∉ names) :
    get? (without dict names) name = get? dict name := by
  induction dict with
  | nil => rfl
  | cons e rest ih =>
    obtain ⟨key, value⟩ := e
    by_cases hk : key ∈ names
    · have hne : key ≠ name := by
        rintro rfl
        exact h hk
      rw [without_cons_of_mem hk, ih, get?_cons, if_neg hne]
    · rw [without_cons_of_not_mem hk, get?_cons, get?_cons, ih]

/-- **A dictionary that holds some entries, and under all other names what another one holds**, has
these entries and the rest of the other one, each once. -/
theorem perm_append_without {dict first second : Dict α} (hs : Sorted dict)
    (hfirst : (keys first).Nodup) (hsecond : Sorted second)
    (hheld : ∀ e ∈ first, get? dict e.1 = some e.2)
    (hother : ∀ name, name ∉ keys first → get? dict name = get? second name) :
    dict.Perm (first ++ without second (keys first)) := by
  have hrest : Sorted (without second (keys first)) := sorted_without hsecond
  have hapart : ∀ e ∈ first, ∀ e' ∈ without second (keys first), e ≠ e' := by
    rintro e he _ he' rfl
    have hname : e.1 ∈ keys first := mem_keys_of_mem he
    rw [mem_iff_get? hrest, get?_without hname] at he'
    cases he'
  have hnodup : (first ++ without second (keys first)).Nodup :=
    List.nodup_append.2 ⟨nodup_of_keys hfirst, nodup_of_sorted hrest, hapart⟩
  rw [List.perm_ext_iff_of_nodup (nodup_of_sorted hs) hnodup]
  intro e
  rw [List.mem_append, mem_iff_get? hs, mem_iff_get? hrest]
  by_cases hname : e.1 ∈ keys first
  · obtain ⟨e', he', hsame⟩ := List.mem_map.1 hname
    have hheld' : get? dict e.1 = some e'.2 := hsame ▸ hheld e' he'
    rw [hheld', get?_without hname]
    constructor
    · intro hv
      have he : e' = e := Prod.ext hsame (Option.some.inj hv)
      exact .inl (he ▸ he')
    · rintro (he | hv)
      · rw [← hheld', hheld e he]
      · cases hv
  · rw [hother _ hname, get?_without_of_not_mem _ hname]
    have hout : e ∉ first := fun he => hname (mem_keys_of_mem he)
    simp [hout]

/-- Storing a value under a name that a sorted dictionary has keeps the place of the name. -/
theorem insert_without_eq_map {β : Type} {dict : Dict α} (hs : Sorted dict) {name : String}
    {old : α} (h : get? dict name = some old) (f : α → β) (value : β) :
    insert (mapValues f (without dict [name])) name value =
      dict.map fun e => (e.1, if e.1 = name then value else f e.2) := by
  induction dict with
  | nil => cases h
  | cons e rest ih =>
    obtain ⟨key, first⟩ := e
    obtain ⟨hlt, hr⟩ := sorted_cons.1 hs
    by_cases hk : key = name
    · subst hk
      have hne : ∀ e ∈ rest, e.1 ≠ key := ne_of_get?_eq_none (get?_head_eq_none hs)
      have hwithout : without rest [key] = rest :=
        without_eq_self (List.forall_mem_singleton.2 (get?_head_eq_none hs))
      have hmap : (rest.map fun e => (e.1, if e.1 = key then value else f e.2)) =
          mapValues f rest :=
        List.map_congr_left fun e he => by rw [if_neg (hne e he)]
      rw [without_cons_of_mem (.head _), hwithout, List.map_cons, if_pos rfl, hmap]
      cases rest with
      | nil => rfl
      | cons next others =>
        have hnext : key < next.1 := hlt next (.head _)
        have hfirst : key ≠ next.1 := (hne next (.head _)).symm
        rw [mapValues, List.map_cons, insert, if_neg hfirst, if_pos hnext]
    · rw [get?_cons, if_neg hk] at h
      have hbelow : key < name := hlt _ (mem_of_get? h)
      rw [without_cons_of_not_mem (by simpa using hk), List.map_cons, if_neg hk, ← ih hr h,
        mapValues, List.map_cons, insert, if_neg (Ne.symm hk), if_neg (String.lt_asymm hbelow)]
      rfl

end Dict

end SearchNotation
