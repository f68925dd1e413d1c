import SearchNotation.Config.Settings
import SearchNotation.Proofs.Toml.Lines

/-!
# Settings survive a trip through a file

The text of settings is read one line at a time, as a table with two sections
(`read?_settingsText_table`), and these define all the settings that were written
(`read?_settingsText`): of that, numbers have to fit in 64 bits, as all that are read do
(`lt_of_read?`). The lists of names are those that merging made, so merging does not change them
again (`merge_toLayer`).
-/

set_option autoImplicit false

namespace SearchNotation

namespace Config

/-- The layer that defines all settings. -/
def toLayer (config : Config) : ConfigLayer where
  search := some {
    size := some config.search.size
    sort := some config.search.sort
    scrollSeconds := some config.search.scrollSeconds }
  kinds := some {
    disabledQueries := some config.kinds.disabledQueries
    disabledAggregations := some config.kinds.disabledAggregations }

/-- The table that the settings are written as. -/
def toTable (config : Config) : Toml.Table := [
  ("kinds", .table [
    ("disabled_aggregations", .array (config.kinds.disabledAggregations.map .string)),
    ("disabled_queries", .array (config.kinds.disabledQueries.map .string))]),
  ("search", .table [
    ("scroll_seconds", .integer config.search.scrollSeconds),
    ("size", .integer config.search.size),
    ("sort", .array (config.search.sort.map .string))])]

theorem readStatements_settingsText (config : Config) (steps : Nat) :
    Toml.readStatements Toml.inlineTable? (steps + 8) config.settingsText.toList = some [
      .table ⟨"search", []⟩,
      .entry ⟨"size", []⟩ (.integer config.search.size),
      .entry ⟨"sort", []⟩ (.array (config.search.sort.map .string)),
      .entry ⟨"scroll_seconds", []⟩ (.integer config.search.scrollSeconds),
      .table ⟨"kinds", []⟩,
      .entry ⟨"disabled_queries", []⟩ (.array (config.kinds.disabledQueries.map .string)),
      .entry ⟨"disabled_aggregations", []⟩
        (.array (config.kinds.disabledAggregations.map .string))] := by
  have hend : Toml.readStatements Toml.inlineTable? (steps + 1) [] = some [] := rfl
  have hblank : ∀ rest, Toml.readStatements Toml.inlineTable? (steps + 4) ("\n".toList ++ rest) =
      Toml.readStatements Toml.inlineTable? (steps + 4) rest :=
    Toml.readStatements_newline _ _
  have hsearch : Toml.IsBareName "search" := Toml.isBareName_ofList rfl rfl
  have hsize : Toml.IsBareName "size" := Toml.isBareName_ofList rfl rfl
  have hsort : Toml.IsBareName "sort" := Toml.isBareName_ofList rfl rfl
  have hscroll : Toml.IsBareName "scroll_seconds" := Toml.isBareName_ofList rfl rfl
  have hkinds : Toml.IsBareName "kinds" := Toml.isBareName_ofList rfl rfl
  have hqueries : Toml.IsBareName "disabled_queries" := Toml.isBareName_ofList rfl rfl
  have haggregations : Toml.IsBareName "disabled_aggregations" := Toml.isBareName_ofList rfl rfl
  rw [← List.append_nil config.settingsText.toList]
  simp only [settingsText, String.toList_append, List.append_assoc]
  rw [Toml.readStatements_headerLine _ hsearch,
    Toml.readStatements_entryLine _ hsize (Toml.readsTo_number _),
    Toml.readStatements_entryLine _ hsort (Toml.readsTo_stringsText _),
    Toml.readStatements_entryLine _ hscroll (Toml.readsTo_number _), hblank,
    Toml.readStatements_headerLine _ hkinds,
    Toml.readStatements_entryLine _ hqueries (Toml.readsTo_stringsText _),
    Toml.readStatements_entryLine _ haggregations (Toml.readsTo_stringsText _), hend]
  rfl

theorem tableOf?_settings (size sort scrollSeconds queries aggregations : Toml.Value) :
    Toml.tableOf? [
      .table ⟨"search", []⟩,
      .entry ⟨"size", []⟩ size,
      .entry ⟨"sort", []⟩ sort,
      .entry ⟨"scroll_seconds", []⟩ scrollSeconds,
      .table ⟨"kinds", []⟩,
      .entry ⟨"disabled_queries", []⟩ queries,
      .entry ⟨"disabled_aggregations", []⟩ aggregations] = some [
      ("kinds", .table [("disabled_aggregations", aggregations), ("disabled_queries", queries)]),
      ("search", .table [("scroll_seconds", scrollSeconds), ("size", size), ("sort", sort)])] := by
  have hsort : ¬ "sort" < "size" := by decide
  have hscroll : "scroll_seconds" < "size" := by decide
  have haggregations : "disabled_aggregations" < "disabled_queries" := by decide
  have hkinds : "kinds" < "search" := by decide
  simp [Toml.tableOf?, Toml.splitSection, Toml.sections, Toml.Nodes.assignAll, Toml.Nodes.assign,
    Dict.contains, Dict.get?, Dict.insert, Toml.Nodes.place, Toml.Nodes.change, Toml.openTable,
    Toml.entriesOf, Toml.Node.toValue, hsort, hscroll, haggregations, hkinds]

theorem read?_settingsText_table (config : Config) :
    Toml.read? config.settingsText = some config.toTable := by
  have hfirst : ∃ rest, config.settingsText.toList = '[' :: rest := by
    simp [settingsText, Toml.headerLine]
  have hmark : Toml.dropByteOrderMark config.settingsText.toList = config.settingsText.toList := by
    obtain ⟨rest, hrest⟩ := hfirst
    rw [hrest]
    rfl
  have hlength : 7 ≤ config.settingsText.toList.length := by
    simp [settingsText, Toml.headerLine]
  obtain ⟨steps, hsteps⟩ : ∃ s, config.settingsText.toList.length + 1 = s + 8 :=
    ⟨config.settingsText.toList.length - 7, by omega⟩
  simp only [Toml.read?, hmark, hsteps, readStatements_settingsText]
  exact tableOf?_settings _ _ _ _ _

theorem strings?_array (items : List String) :
    ConfigLayer.strings? (.array (items.map .string)) = some items := by
  induction items with
  | nil => rfl
  | cons s items ih =>
    rw [ConfigLayer.strings?] at ih ⊢
    rw [List.map_cons, List.mapM_cons, ih]
    rfl

theorem count?_integer {n : Nat} (h : n < ConfigLayer.countEnd) :
    ConfigLayer.count? (.integer n) = some n := by
  have hrange : (0 : Int) ≤ n ∧ (n : Int) < ConfigLayer.countEnd :=
    ⟨Int.natCast_nonneg n, Int.ofNat_lt.2 h⟩
  rw [ConfigLayer.count?, if_pos hrange, Int.toNat_natCast]

theorem sectionEntries?_table {names : List String} {entries : Toml.Table}
    (h : ∀ e ∈ entries, e.1 ∈ names) :
    ConfigLayer.sectionEntries? names (.table entries) = some entries := by
  have hall : ConfigLayer.othersInRange names entries = true :=
    List.all_eq_true.2 fun e he => by rw [List.contains_iff_mem.2 (h e he), Bool.true_or]
  rw [ConfigLayer.sectionEntries?, if_pos hall]

theorem optional?_of_get? {α : Type} {entries : Toml.Table} {name : String} {value : Toml.Value}
    {decode : Toml.Value → Option α} {x : α} (hget : Dict.get? entries name = some value)
    (hdecode : decode value = some x) :
    ConfigLayer.optional? entries name decode = some (some x) := by
  rw [ConfigLayer.optional?, hget]
  exact congrArg (Option.map some) hdecode

-- The values stay abstract here: reducing a count would compute with the first number too large.
theorem searchOf?_table {size scrollSeconds : Nat} {sort : List String} {x y z : Toml.Value}
    (hscroll : ConfigLayer.count? x = some scrollSeconds) (hsize : ConfigLayer.count? y = some size)
    (hsort : ConfigLayer.strings? z = some sort) :
    ConfigLayer.searchOf? (.table [("scroll_seconds", x), ("size", y), ("sort", z)]) =
      some { size := some size, sort := some sort, scrollSeconds := some scrollSeconds } := by
  rw [ConfigLayer.searchOf?, sectionEntries?_table (by simp), Option.bind_eq_bind,
    Option.bind_some]
  refine Option.bind_eq_some_iff.2 ⟨_, optional?_of_get? rfl hsize, ?_⟩
  refine Option.bind_eq_some_iff.2 ⟨_, optional?_of_get? rfl hsort, ?_⟩
  exact Option.bind_eq_some_iff.2 ⟨_, optional?_of_get? rfl hscroll, rfl⟩

theorem kindsOf?_table {queries aggregations : List String} {x y : Toml.Value}
    (haggregations : ConfigLayer.strings? x = some aggregations)
    (hqueries : ConfigLayer.strings? y = some queries) :
    ConfigLayer.kindsOf? (.table [("disabled_aggregations", x), ("disabled_queries", y)]) =
      some { disabledQueries := some queries, disabledAggregations := some aggregations } := by
  rw [ConfigLayer.kindsOf?, sectionEntries?_table (by simp), Option.bind_eq_bind,
    Option.bind_some]
  refine Option.bind_eq_some_iff.2 ⟨_, optional?_of_get? rfl hqueries, ?_⟩
  exact Option.bind_eq_some_iff.2 ⟨_, optional?_of_get? rfl haggregations, rfl⟩

theorem ofTable?_settings {search : SearchLayer} {kinds : KindLayer} {x y : Toml.Value}
    (hkinds : ConfigLayer.kindsOf? x = some kinds)
    (hsearch : ConfigLayer.searchOf? y = some search) :
    ConfigLayer.ofTable? [("kinds", x), ("search", y)] =
      some { search := some search, kinds := some kinds } := by
  rw [ConfigLayer.ofTable?, sectionEntries?_table (by simp), Option.bind_eq_bind,
    Option.bind_some]
  refine Option.bind_eq_some_iff.2 ⟨_, rfl, ?_⟩
  refine Option.bind_eq_some_iff.2 ⟨_, optional?_of_get? rfl hsearch, ?_⟩
  exact Option.bind_eq_some_iff.2 ⟨_, optional?_of_get? rfl hkinds, rfl⟩

theorem ofTable?_toTable {config : Config} (hsize : config.search.size < ConfigLayer.countEnd)
    (hscroll : config.search.scrollSeconds < ConfigLayer.countEnd) :
    ConfigLayer.ofTable? config.toTable = some config.toLayer := by
  have hkinds := kindsOf?_table (strings?_array config.kinds.disabledAggregations)
    (strings?_array config.kinds.disabledQueries)
  have hsearch := searchOf?_table (count?_integer hscroll) (count?_integer hsize)
    (strings?_array config.search.sort)
  rw [toTable, ofTable?_settings hkinds hsearch, toLayer]

/-- **Settings are read back from their text**, if their numbers have 64 bits. -/
theorem read?_settingsText {config : Config} (hsize : config.search.size < ConfigLayer.countEnd)
    (hscroll : config.search.scrollSeconds < ConfigLayer.countEnd) :
    ConfigLayer.read? config.settingsText = some config.toLayer := by
  rw [ConfigLayer.read?, read?_settingsText_table, Option.bind_some, ofTable?_toTable hsize hscroll]

/-! ## Numbers of layers that are read -/

theorem lt_of_count? {value : Toml.Value} {n : Nat} (h : ConfigLayer.count? value = some n) :
    n < ConfigLayer.countEnd := by
  cases value with
  | integer i =>
    rw [ConfigLayer.count?] at h
    split at h
    · next hrange =>
      cases h
      omega
    · cases h
  | _ => cases h

/-- An entry that is there was decoded. -/
theorem exists_of_optional? {α : Type} {entries : Toml.Table} {name : String}
    {decode : Toml.Value → Option α} {x : α}
    (h : ConfigLayer.optional? entries name decode = some (some x)) :
    ∃ value, decode value = some x := by
  rw [ConfigLayer.optional?] at h
  split at h
  · cases h
  · next value _ =>
    obtain ⟨y, hy, heq⟩ := Option.map_eq_some_iff.1 h
    cases heq
    exact ⟨value, hy⟩

theorem lt_of_optional? {entries : Toml.Table} {name : String} {count : Option Nat}
    (h : ConfigLayer.optional? entries name ConfigLayer.count? = some count) :
    ∀ n, count = some n → n < ConfigLayer.countEnd := by
  rintro n rfl
  obtain ⟨value, hvalue⟩ := exists_of_optional? h
  exact lt_of_count? hvalue

theorem lt_of_searchOf? {value : Toml.Value} {search : SearchLayer}
    (h : ConfigLayer.searchOf? value = some search) :
    (∀ n, search.size = some n → n < ConfigLayer.countEnd) ∧
      ∀ n, search.scrollSeconds = some n → n < ConfigLayer.countEnd := by
  obtain ⟨entries, -, h⟩ := Option.bind_eq_some_iff.1 h
  obtain ⟨size, hsize, h⟩ := Option.bind_eq_some_iff.1 h
  obtain ⟨sort, -, h⟩ := Option.bind_eq_some_iff.1 h
  obtain ⟨scrollSeconds, hscroll, h⟩ := Option.bind_eq_some_iff.1 h
  cases h
  exact ⟨lt_of_optional? hsize, lt_of_optional? hscroll⟩

theorem lt_of_read? {text : String} {layer : ConfigLayer} {search : SearchLayer}
    (h : ConfigLayer.read? text = some layer) (hs : layer.search = some search) :
    (∀ n, search.size = some n → n < ConfigLayer.countEnd) ∧
      ∀ n, search.scrollSeconds = some n → n < ConfigLayer.countEnd := by
  obtain ⟨table, -, h⟩ := Option.bind_eq_some_iff.1 h
  obtain ⟨entries, -, h⟩ := Option.bind_eq_some_iff.1 h
  obtain ⟨root, -, h⟩ := Option.bind_eq_some_iff.1 h
  obtain ⟨found, hfound, h⟩ := Option.bind_eq_some_iff.1 h
  obtain ⟨kinds, -, h⟩ := Option.bind_eq_some_iff.1 h
  cases h
  cases hs
  obtain ⟨value, hvalue⟩ := exists_of_optional? hfound
  exact lt_of_searchOf? hvalue

/-! ## Merging -/

/-- A number that is merged is the standard one or stands in one of the files. -/
theorem lt_of_firstDefined {files : List LayerFile} (setting : SearchLayer → Option Nat)
    {standard limit : Nat} (hstandard : standard < limit)
    (h : ∀ f ∈ files, ∀ search, f.layer.search = some search → ∀ n, setting search = some n →
      n < limit) :
    (firstDefined files fun layer => layer.search.bind setting).getD standard < limit := by
  cases hdefined : firstDefined files fun layer => layer.search.bind setting with
  | none => exact hstandard
  | some n =>
    obtain ⟨f, hf, hn⟩ := List.exists_of_findSome?_eq_some hdefined
    obtain ⟨search, hsearch, hn⟩ := Option.bind_eq_some_iff.1 hn
    exact h f hf search hsearch n hn

theorem nodup_addNew {names : List String} (h : names.Nodup) (further : List String) :
    (addNew names further).Nodup := by
  unfold addNew
  induction further generalizing names with
  | nil => exact h
  | cons name further ih =>
    rw [List.foldl_cons]
    refine ih ?_
    split
    · exact h
    · next hnew =>
      rw [List.contains_iff_mem] at hnew
      refine List.nodup_append.2 ⟨h, List.pairwise_singleton _ _, ?_⟩
      rintro a ha b hb rfl
      rw [List.mem_singleton] at hb
      exact hnew (hb ▸ ha)

theorem nodup_allListed (files : List LayerFile) (list : KindLayer → Option (List String)) :
    (allListed files list).Nodup := by
  have hall : ∀ names : List String, names.Nodup → (files.foldl
      (fun names f => addNew names ((f.layer.kinds.bind list).getD [])) names).Nodup := by
    induction files with
    | nil => exact fun names h => h
    | cons f files ih => exact fun names h => ih _ (nodup_addNew h _)
  exact hall [] .nil

/-- Names that differ from each other and from those before are all appended. -/
theorem addNew_of_nodup (names : List String) {further : List String}
    (h : (names ++ further).Nodup) :
    addNew names further = names ++ further := by
  unfold addNew
  induction further generalizing names with
  | nil => exact (List.append_nil names).symm
  | cons name further ih =>
    have hnew : names.contains name = false := by
      rw [← Bool.not_eq_true, List.contains_iff_mem]
      intro hmem
      exact (List.nodup_append.1 h).2.2 name hmem name (.head _) rfl
    rw [List.append_cons] at h ⊢
    rw [List.foldl_cons, hnew]
    exact ih _ h

theorem merge_toLayer (path : Path) {config : Config} (hq : config.kinds.disabledQueries.Nodup)
    (ha : config.kinds.disabledAggregations.Nodup) :
    (merge [⟨path, config.toLayer⟩]).search = config.search ∧
      (merge [⟨path, config.toLayer⟩]).kinds = config.kinds := by
  refine ⟨rfl, ?_⟩
  have hkinds : (merge [⟨path, config.toLayer⟩]).kinds =
      { disabledQueries := addNew [] config.kinds.disabledQueries
        disabledAggregations := addNew [] config.kinds.disabledAggregations } := rfl
  rw [hkinds, addNew_of_nodup [] hq, addNew_of_nodup [] ha]
  rfl

/-- The numbers that files are merged to have 64 bits, as those that were read. -/
theorem merge_counts_lt {files : List LayerFile}
    (h : ∀ f ∈ files, ∃ text, ConfigLayer.read? text = some f.layer) :
    (merge files).search.size < ConfigLayer.countEnd ∧
      (merge files).search.scrollSeconds < ConfigLayer.countEnd := by
  constructor
  · refine lt_of_firstDefined SearchLayer.size (by decide) fun f hf search hs => ?_
    obtain ⟨text, htext⟩ := h f hf
    exact (lt_of_read? htext hs).1
  · refine lt_of_firstDefined SearchLayer.scrollSeconds (by decide) fun f hf search hs => ?_
    obtain ⟨text, htext⟩ := h f hf
    exact (lt_of_read? htext hs).2

/-- **Settings survive a trip through a file**: those of any files that are read are written as one
that is read again, is not a root, and alone gives the same settings. -/
theorem merge_read?_settingsText {files : List LayerFile}
    (h : ∀ f ∈ files, ∃ text, ConfigLayer.read? text = some f.layer) :
    ∃ layer, ConfigLayer.read? (merge files).settingsText = some layer ∧ layer.root = none ∧
      ∀ path, (merge [⟨path, layer⟩]).search = (merge files).search ∧
        (merge [⟨path, layer⟩]).kinds = (merge files).kinds := by
  obtain ⟨hsize, hscroll⟩ := merge_counts_lt h
  refine ⟨(merge files).toLayer, read?_settingsText hsize hscroll, rfl, fun path => ?_⟩
  exact merge_toLayer path (nodup_allListed files _) (nodup_allListed files _)

/-- The greatest number, a list from two files, and a string with every mark, a backslash, a line
break and a control character. -/
theorem merge_read?_settingsText_marks :
    let first : LayerFile := ⟨⟨"/p/.esq.toml"⟩, {
      search := some { size := some 18446744073709551615, sort := some ["'\""] }
      kinds := some { disabledQueries := some ["term"] } }⟩
    let second : LayerFile := ⟨⟨"/.esq.toml"⟩, {
      root := some true
      kinds := some { disabledQueries := some ["'''\"\"\"\\\r\n\u0001", "term"] } }⟩
    ∃ layer, ConfigLayer.read? (merge [first, second]).settingsText = some layer ∧
      (merge [⟨⟨"/p/.esq.toml"⟩, layer⟩]).search =
        { size := 18446744073709551615, sort := ["'\""] } ∧
      (merge [⟨⟨"/p/.esq.toml"⟩, layer⟩]).kinds =
        { disabledQueries := ["term", "'''\"\"\"\\\r\n\u0001"] } := by
  intro first second
  have hfirst : ConfigLayer.read? ("[search]\nsize = 18446744073709551615\nsort = \"'\\\"\"\n" ++
      "[kinds]\ndisabled_queries = 'term'\n") = some first.layer := by
    decide +kernel
  have hsecond : ConfigLayer.read? ("root = true\n" ++
      "kinds = [[\"'''\\\"\\\"\\\"\\\\\\r\\n\\u0001\", 'term']]\n") = some second.layer := by
    decide +kernel
  have hread : ∀ f ∈ [first, second], ∃ text, ConfigLayer.read? text = some f.layer :=
    List.forall_mem_cons.2 ⟨⟨_, hfirst⟩, List.forall_mem_singleton.2 ⟨_, hsecond⟩⟩
  obtain ⟨layer, hlayer, -, hmerge⟩ := merge_read?_settingsText hread
  obtain ⟨hsearch, hkinds⟩ := hmerge ⟨"/p/.esq.toml"⟩
  exact ⟨layer, hlayer, hsearch.trans rfl, hkinds.trans (by decide +kernel)⟩

end Config

end SearchNotation
