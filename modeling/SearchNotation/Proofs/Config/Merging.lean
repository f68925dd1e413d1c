import Mathlib.Data.List.Induction
import SearchNotation.Proofs.Config.Precedence
import SearchNotation.Proofs.Config.RoundTrip

/-!
# Merging by precedence

What several files come to: every setting of searches is that of the first file that defines it
(`FirstOr`), and the disabled names are those of all files, each where it comes first. Seen as
steps, a file in front overwrites the settings of those behind it (`mergeSearch_cons`), and a file
at the end appends the names that are new (`allListed_concat`).

The main statement is `merge_by_precedence`. It also says what two runs of files merge to, one after
the other (`Joined`), and that a file which sets nothing (`LayerFile.Silent`) only matters as the
first one, by its directory.
-/

set_option autoImplicit false

namespace SearchNotation

/-! ## What a file sets -/

namespace LayerFile

/-- What a file sets about searches. -/
def sets? {α : Type} (setting : SearchLayer → Option α) (file : LayerFile) : Option α :=
  file.layer.search.bind setting

/-- The names that a file disables. -/
def disables (list : KindLayer → Option (List String)) (file : LayerFile) : List String :=
  (file.layer.kinds.bind list).getD []

/-- A file that sets nothing; it may still say that it is the root. -/
structure Silent (file : LayerFile) : Prop where
  size : file.sets? (·.size) = none
  sort : file.sets? (·.sort) = none
  scrollSeconds : file.sets? (·.scrollSeconds) = none
  queries : file.disables (·.disabledQueries) = []
  aggregations : file.disables (·.disabledAggregations) = []

end LayerFile

/-- Settings with what a layer defines in place of what they were. -/
def SearchSettings.overwritten (settings : SearchSettings) (layer : Option SearchLayer) :
    SearchSettings where
  size := (layer.bind (·.size)).getD settings.size
  sort := (layer.bind (·.sort)).getD settings.sort
  scrollSeconds := (layer.bind (·.scrollSeconds)).getD settings.scrollSeconds

namespace Config

variable {files xs ys : List LayerFile}

/-! ## Settings of searches -/

/-- A value is that of the first file that sets it, or the standard one if none does. -/
def FirstOr {α : Type} (files : List LayerFile) (setting : SearchLayer → Option α)
    (standard value : α) : Prop :=
  (∃ before file after, files = before ++ file :: after ∧
    (∀ f ∈ before, f.sets? setting = none) ∧ file.sets? setting = some value) ∨
  (∀ f ∈ files, f.sets? setting = none) ∧ value = standard

/-- A value is the own one if some file sets it, and the other one if not. -/
def Prefers {α : Type} (files : List LayerFile) (setting : SearchLayer → Option α)
    (own other value : α) : Prop :=
  ((∃ f ∈ files, f.sets? setting ≠ none) → value = own) ∧
    ((∀ f ∈ files, f.sets? setting = none) → value = other)

/-- **A file in front** overwrites the settings of those behind it. -/
theorem mergeSearch_cons (file : LayerFile) (files : List LayerFile) :
    mergeSearch (file :: files) = (mergeSearch files).overwritten file.layer.search := by
  have hfirst : ∀ {α : Type} (setting : SearchLayer → Option α) (standard : α),
      (firstDefined (file :: files) fun layer => layer.search.bind setting).getD standard =
        (file.sets? setting).getD
          ((firstDefined files fun layer => layer.search.bind setting).getD standard) := by
    intro α setting standard
    rw [firstDefined, List.findSome?_cons, LayerFile.sets?]
    cases file.layer.search.bind setting <;> rfl
  simp only [mergeSearch, hfirst]
  rfl

/-- **Overwriting from the last file up** gives the settings. -/
theorem mergeSearch_eq_foldr (files : List LayerFile) :
    mergeSearch files =
      files.foldr (fun file settings => settings.overwritten file.layer.search) {} := by
  induction files with
  | nil => rfl
  | cons file rest ih => rw [mergeSearch_cons, ih, List.foldr_cons]

theorem firstOr_getD {α : Type} (files : List LayerFile) (setting : SearchLayer → Option α)
    (standard : α) :
    FirstOr files setting standard
      ((firstDefined files fun layer => layer.search.bind setting).getD standard) := by
  cases hfirst : firstDefined files fun layer => layer.search.bind setting with
  | none => exact .inr ⟨List.findSome?_eq_none_iff.1 hfirst, rfl⟩
  | some value =>
    obtain ⟨before, file, after, hsplit, hfile, hbefore⟩ := List.findSome?_eq_some_iff.1 hfirst
    exact .inl ⟨before, file, after, hsplit, hbefore, hfile⟩

theorem prefers_append {α : Type} (xs ys : List LayerFile) (setting : SearchLayer → Option α)
    (standard : α) :
    Prefers xs setting
      ((firstDefined xs fun layer => layer.search.bind setting).getD standard)
      ((firstDefined ys fun layer => layer.search.bind setting).getD standard)
      ((firstDefined (xs ++ ys) fun layer => layer.search.bind setting).getD standard) := by
  rw [firstDefined_append]
  cases hfirst : firstDefined xs fun layer => layer.search.bind setting with
  | none =>
    refine ⟨fun ⟨f, hf, hsome⟩ => ?_, fun _ => rfl⟩
    exact absurd (List.findSome?_eq_none_iff.1 hfirst f hf) hsome
  | some value =>
    refine ⟨fun _ => rfl, fun hnone => ?_⟩
    have hundefined := List.findSome?_eq_none_iff.2 hnone
    cases hfirst.symm.trans hundefined

/-! ## Disabled names -/

section
variable (list : KindLayer → Option (List String))

/-- The names of all files, one list after the other. -/
def listed (files : List LayerFile) : List String := files.flatMap (·.disables list)

theorem listed_append (xs ys : List LayerFile) :
    listed list (xs ++ ys) = listed list xs ++ listed list ys :=
  List.flatMap_append

theorem listed_cons (file : LayerFile) (files : List LayerFile) :
    listed list (file :: files) = file.disables list ++ listed list files :=
  List.flatMap_cons

/-- **A file at the end** appends the names that are new. -/
theorem allListed_concat (files : List LayerFile) (file : LayerFile) :
    allListed (files ++ [file]) list = addNew (allListed files list) (file.disables list) := by
  rw [allListed, List.foldl_append]
  rfl

theorem eraseDups_concat (names : List String) (name : String) :
    (names ++ [name]).eraseDups =
      if names.eraseDups.contains name then names.eraseDups else names.eraseDups ++ [name] := by
  rw [List.eraseDups_append]
  by_cases hmem : name ∈ names
  · have hgone : [name].removeAll names = [] := by simp [List.cons_removeAll, hmem]
    simp [hgone, hmem]
  · have hkept : [name].removeAll names = [name] := by simp [List.cons_removeAll, hmem]
    simp [hkept, hmem, List.eraseDups_cons]

theorem addNew_eraseDups (names further : List String) :
    addNew names.eraseDups further = (names ++ further).eraseDups := by
  induction further generalizing names with
  | nil => rw [List.append_nil]; rfl
  | cons name rest ih =>
    rw [List.append_cons, ← ih, eraseDups_concat]
    rfl

/-- **The disabled names** are those of all files, each where it comes first. -/
theorem allListed_eq (files : List LayerFile) :
    allListed files list = (listed list files).eraseDups := by
  induction files using List.reverseRecOn with
  | nil => rfl
  | append_singleton files file ih =>
    rw [allListed_concat, ih, addNew_eraseDups, listed_append, listed_cons]
    exact congrArg (fun names => (listed list files ++ names).eraseDups) (List.append_nil _).symm

theorem eraseDups_filter (p : String → Bool) (names : List String) :
    (names.filter p).eraseDups = names.eraseDups.filter p := by
  induction names using List.reverseRecOn with
  | nil => rfl
  | append_singleton names name ih =>
    rw [List.filter_append, eraseDups_concat]
    cases hp : p name with
    | false =>
      rw [List.filter_cons_of_neg (by simp [hp]), List.filter_nil, List.append_nil, ih]
      split
      · rfl
      · simp [hp]
    | true =>
      rw [List.filter_cons_of_pos hp, List.filter_nil, eraseDups_concat, ih]
      by_cases hmem : name ∈ names <;> simp [hmem, hp]

theorem allListed_append (xs ys : List LayerFile) :
    allListed (xs ++ ys) list =
      allListed xs list ++ (allListed ys list).filter (· ∉ allListed xs list) := by
  have hnew : (listed list ys).removeAll (listed list xs) =
      (listed list ys).filter (· ∉ allListed xs list) := by
    refine List.filter_congr fun name _ => ?_
    simp [allListed_eq]
  rw [allListed_eq, listed_append, List.eraseDups_append, hnew, eraseDups_filter, ← allListed_eq,
    ← allListed_eq]

theorem mem_allListed {name : String} :
    name ∈ allListed files list ↔ ∃ f ∈ files, name ∈ f.disables list := by
  rw [allListed_eq, List.mem_eraseDups, listed, List.mem_flatMap]

end

/-! ## Main statement -/

/-- Names are those that some files disable, each once, where it comes first. -/
structure FirstOccurrences (files : List LayerFile) (list : KindLayer → Option (List String))
    (names : List String) : Prop where
  order : names = (listed list files).eraseDups
  nodup : names.Nodup
  mem : ∀ name, name ∈ names ↔ ∃ f ∈ files, name ∈ f.disables list

/-- A configuration is what files come to, the most important one first. -/
structure ByPrecedence (files : List LayerFile) (config : Config) : Prop where
  size : FirstOr files (·.size) Request.defaultSize config.search.size
  sort : FirstOr files (·.sort) [] config.search.sort
  scrollSeconds : FirstOr files (·.scrollSeconds) 60 config.search.scrollSeconds
  queries : FirstOccurrences files (·.disabledQueries) config.kinds.disabledQueries
  aggregations : FirstOccurrences files (·.disabledAggregations) config.kinds.disabledAggregations
  root : config.root = files.head?.bind (·.path.parent?)

/-- A configuration is that of some files, with that of others for what these do not set. -/
structure Joined (files : List LayerFile) (own other config : Config) : Prop where
  size : Prefers files (·.size) own.search.size other.search.size config.search.size
  sort : Prefers files (·.sort) own.search.sort other.search.sort config.search.sort
  scrollSeconds : Prefers files (·.scrollSeconds) own.search.scrollSeconds
    other.search.scrollSeconds config.search.scrollSeconds
  queries : config.kinds.disabledQueries = own.kinds.disabledQueries ++
    other.kinds.disabledQueries.filter (· ∉ own.kinds.disabledQueries)
  aggregations : config.kinds.disabledAggregations = own.kinds.disabledAggregations ++
    other.kinds.disabledAggregations.filter (· ∉ own.kinds.disabledAggregations)
  root : config.root = if files = [] then other.root else own.root

theorem firstOccurrences_allListed (files : List LayerFile)
    (list : KindLayer → Option (List String)) :
    FirstOccurrences files list (allListed files list) :=
  ⟨allListed_eq list files, nodup_allListed files list, fun _ => mem_allListed list⟩

theorem byPrecedence_merge (files : List LayerFile) : ByPrecedence files (merge files) where
  size := firstOr_getD files _ _
  sort := firstOr_getD files _ _
  scrollSeconds := firstOr_getD files _ _
  queries := firstOccurrences_allListed files _
  aggregations := firstOccurrences_allListed files _
  root := rfl

theorem joined_merge (xs ys : List LayerFile) :
    Joined xs (merge xs) (merge ys) (merge (xs ++ ys)) where
  size := prefers_append xs ys _ _
  sort := prefers_append xs ys _ _
  scrollSeconds := prefers_append xs ys _ _
  queries := allListed_append _ xs ys
  aggregations := allListed_append _ xs ys
  root := by cases xs <;> rfl

theorem mergeSearch_append (xs ys : List LayerFile) : mergeSearch (xs ++ ys) =
    xs.foldr (fun file settings => settings.overwritten file.layer.search) (mergeSearch ys) := by
  rw [mergeSearch_eq_foldr, mergeSearch_eq_foldr, List.foldr_append]

theorem overwritten_of_silent {file : LayerFile} (h : file.Silent) (settings : SearchSettings) :
    settings.overwritten file.layer.search = settings := by
  obtain ⟨hsize, hsort, hscroll, -, -⟩ := h
  unfold LayerFile.sets? at hsize hsort hscroll
  rw [SearchSettings.overwritten, hsize, hsort, hscroll]
  rfl

/-- **A file that sets nothing** changes no setting, wherever it stands. -/
theorem merge_silent {file : LayerFile} (h : file.Silent) (xs ys : List LayerFile) :
    (merge (xs ++ file :: ys)).search = (merge (xs ++ ys)).search ∧
      (merge (xs ++ file :: ys)).kinds = (merge (xs ++ ys)).kinds := by
  have hlisted : ∀ list : KindLayer → Option (List String), file.disables list = [] →
      allListed (xs ++ file :: ys) list = allListed (xs ++ ys) list := by
    intro list hnone
    rw [allListed_eq, allListed_eq, listed_append, listed_cons, hnone, List.nil_append,
      listed_append]
  constructor
  · change mergeSearch (xs ++ file :: ys) = mergeSearch (xs ++ ys)
    rw [mergeSearch_append, mergeSearch_cons, overwritten_of_silent h, ← mergeSearch_append]
  · change mergeKinds (xs ++ file :: ys) = mergeKinds (xs ++ ys)
    rw [mergeKinds, hlisted _ h.queries, hlisted _ h.aggregations]
    rfl

/-- **Merging goes by precedence**: the first file that defines a setting gives it, and the names
that any file disables are disabled. Files that are merged with further ones behind them keep what
they set, and a file that sets nothing has no effect behind another one. -/
theorem merge_by_precedence (xs ys : List LayerFile) :
    ByPrecedence xs (merge xs) ∧ Joined xs (merge xs) (merge ys) (merge (xs ++ ys)) ∧
      ∀ file, LayerFile.Silent file →
        (merge (xs ++ file :: ys)).search = (merge (xs ++ ys)).search ∧
          (merge (xs ++ file :: ys)).kinds = (merge (xs ++ ys)).kinds ∧
          (xs ≠ [] → merge (xs ++ file :: ys) = merge (xs ++ ys)) := by
  refine ⟨byPrecedence_merge xs, joined_merge xs ys, fun file hsilent => ?_⟩
  obtain ⟨hsearch, hkinds⟩ := merge_silent hsilent xs ys
  refine ⟨hsearch, hkinds, fun hne => ?_⟩
  have hroot : (merge (xs ++ file :: ys)).root = (merge (xs ++ ys)).root := by
    obtain ⟨first, rest, rfl⟩ := List.exists_cons_of_ne_nil hne
    rfl
  rw [Config.mk.injEq]
  exact ⟨hsearch, hkinds, hroot⟩

/-- An empty list of sort keys is one that is defined, a name that two files disable comes once, and
a root file that sets nothing has no effect between them. -/
theorem merge_by_precedence_root_between :
    let first : LayerFile := ⟨⟨"/p/q/.esq.toml"⟩, {
      search := some { sort := some [] }
      kinds := some { disabledQueries := some ["term", "ids", "term"] } }⟩
    let idle : LayerFile := ⟨⟨"/p/.esq.toml"⟩, {
      root := some true, search := some {}, kinds := some { disabledQueries := some [] } }⟩
    let last : LayerFile := ⟨⟨"/.esq.toml"⟩, {
      search := some { size := some 5, sort := some ["id"] }
      kinds := some { disabledQueries := some ["match", "ids"] } }⟩
    LayerFile.Silent idle ∧ merge [first, idle, last] = merge [first, last] ∧
      merge [first, last] = {
        search := { size := 5, sort := [] }
        kinds := { disabledQueries := ["term", "ids", "match"] }
        root := some ⟨"/p/q"⟩ } := by
  intro first idle last
  have hsilent : LayerFile.Silent idle := ⟨rfl, rfl, rfl, rfl, rfl⟩
  obtain ⟨-, -, hneutral⟩ := merge_by_precedence [first] [last]
  exact ⟨hsilent, (hneutral idle hsilent).2.2 (List.cons_ne_nil _ _), by decide +kernel⟩

end Config

end SearchNotation
