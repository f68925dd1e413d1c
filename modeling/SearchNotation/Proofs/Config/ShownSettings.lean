import SearchNotation.Proofs.Config.NewFile
import SearchNotation.Proofs.Config.RoundTrip

/-!
# The settings that are shown, as a file

The settings in effect are shown below a list of the files that they come from, each in a line of
comment. The whole is a file with the same settings (`Config.Means`) where the reader takes the list
for comments: a path that goes on in comments to its end (`Toml.IsCommentText`) is skipped
(`skipGaps_fileLines`), and one without a line break that has a control character ends the reading
(`skipGaps_fileLines_eq_none`).

The main statement is `run_settings_means`. A path may have a line break, and what follows that need
not be a comment: `run_settings_broken`.
-/

set_option autoImplicit false

namespace SearchNotation

/-! ## Comments -/

namespace Toml

/-- A text that is comments and blanks to its end, where a comment has begun before it. -/
def IsCommentText (text : List Char) : Prop := skipGaps true text = some []

instance (text : List Char) : Decidable (IsCommentText text) :=
  inferInstanceAs (Decidable (_ = _))

theorem skipGaps_plain {c : Char} (h : isPlain c = true) (rest : List Char) :
    skipGaps true (c :: rest) = skipGaps true rest := by
  have hbreak : c ≠ '\n' ∧ c ≠ '\r' := by
    constructor <;> rintro rfl <;> exact absurd h (by decide)
  rw [skipGaps]
  simp [hbreak, h]

theorem skipGaps_newline (inComment : Bool) (text : List Char) :
    skipGaps inComment ('\n' :: text) = skipGaps false text :=
  rfl

theorem skipGaps_mark (text : List Char) : skipGaps false ('#' :: text) = skipGaps true text := rfl

theorem isCommentText_of_plain {text : List Char} (h : ∀ c ∈ text, isPlain c = true) :
    IsCommentText text := by
  induction text with
  | nil => rfl
  | cons c text ih =>
    obtain ⟨hc, htext⟩ := List.forall_mem_cons.1 h
    rw [IsCommentText, skipGaps_plain hc]
    exact ih htext

/-- What is skipped to its end is skipped in front of a line break too. -/
theorem skipGaps_append_newline {inComment : Bool} {text : List Char}
    (h : skipGaps inComment text = some []) (rest : List Char) :
    skipGaps inComment (text ++ '\n' :: rest) = skipGaps false rest := by
  fun_induction skipGaps inComment text with
  | case1 => rfl
  | case2 b text ih => simpa [skipGaps] using ih h
  | case3 b c text hbreak hreturn ih =>
    obtain ⟨hc, next, rfl⟩ : c = '\r' ∧ ∃ next, text = '\n' :: next := by
      cases text <;> simp_all
    simpa [skipGaps, hc] using ih h
  | case4 c text _ _ hplain ih => rw [List.cons_append, skipGaps_plain hplain, ih h]
  | case5 => cases h
  | case6 b text hb _ _ ih =>
    rw [Bool.not_eq_true] at hb
    subst hb
    exact ih h
  | case7 b c text hbreak _ hb hmark hblank ih =>
    have hreturn : c ≠ '\r' := by
      rintro rfl
      exact absurd hblank (by decide)
    rw [List.cons_append, skipGaps]
    simp [hbreak, hreturn, hb, hmark, hblank, ih h]
  | case8 => cases h

/-- **A control character on the line of a comment** ends the reading. -/
theorem skipGaps_eq_none {line : List Char} (hbreak : '\n' ∉ line)
    (hlast : line.getLast? ≠ some '\r') (h : ∃ c ∈ line, isPlain c = false) (rest : List Char) :
    skipGaps true (line ++ rest) = none := by
  induction line with
  | nil => simp at h
  | cons c line ih =>
    obtain ⟨hc, hline⟩ := not_or.1 (mt List.mem_cons.2 hbreak)
    cases hplain : isPlain c with
    | true =>
      have hmore : ∃ d ∈ line, isPlain d = false := by simpa [hplain] using h
      obtain ⟨d, hd, hbad⟩ := hmore
      rw [List.getLast?_cons_of_ne_nil (List.ne_nil_of_mem hd)] at hlast
      rw [List.cons_append, skipGaps_plain hplain]
      exact ih hline hlast ⟨d, hd, hbad⟩
    | false =>
      -- a carriage return stands alone: the line has something else after it, and no line break
      have halone : (decide (c = '\r') && decide ((line ++ rest).head? = some '\n')) = false := by
        cases line with
        | nil =>
          have hreturn : c ≠ '\r' := by simpa using hlast
          simp [hreturn]
        | cons d line =>
          have hd : d ≠ '\n' := fun hd => hline (hd ▸ .head _)
          simp [hd]
      rw [List.cons_append, skipGaps, if_neg (Ne.symm hc), halone]
      simp [hplain]

/-- What the reader skips at the front does not matter. -/
theorem readStatements_congr {inlineTable? : List (Key × Value) → Option Table} {steps : Nat}
    {text text' : List Char} (h : skipGaps false text = skipGaps false text') :
    readStatements inlineTable? steps text = readStatements inlineTable? steps text' := by
  cases steps with
  | zero => rfl
  | succ steps =>
    change (skipGaps false text >>= _) = (skipGaps false text' >>= _)
    rw [h]

/-- Where the reader cannot skip what is at the front there are no statements. -/
theorem readStatements_eq_none {inlineTable? : List (Key × Value) → Option Table}
    {text : List Char} (h : skipGaps false text = none) (steps : Nat) :
    readStatements inlineTable? steps text = none := by
  cases steps with
  | zero => rfl
  | succ steps =>
    change (skipGaps false text >>= _) = none
    rw [h]
    rfl

end Toml

/-! ## The list of files -/

namespace Config

/-- The lines that list names as comments. -/
def fileLines (names : List String) : String :=
  String.join (names.map fun name => "#   " ++ name ++ "\n")

theorem toList_fileLines_cons (name : String) (names : List String) :
    (fileLines (name :: names)).toList =
      '#' :: ' ' :: ' ' :: ' ' :: (name.toList ++ '\n' :: (fileLines names).toList) := by
  simp [fileLines]

theorem skipGaps_fileLines_cons (name : String) (names : List String) (rest : List Char) :
    Toml.skipGaps false ((fileLines (name :: names)).toList ++ rest) =
      Toml.skipGaps true (name.toList ++ '\n' :: ((fileLines names).toList ++ rest)) := by
  rw [toList_fileLines_cons]
  simp only [List.cons_append, List.append_assoc]
  rfl

/-- **Names that are read as comments are skipped.** -/
theorem skipGaps_fileLines {names : List String}
    (h : ∀ name ∈ names, Toml.IsCommentText name.toList) (rest : List Char) :
    Toml.skipGaps false ((fileLines names).toList ++ rest) = Toml.skipGaps false rest := by
  induction names with
  | nil => rfl
  | cons name names ih =>
    obtain ⟨hname, hnames⟩ := List.forall_mem_cons.1 h
    rw [skipGaps_fileLines_cons, Toml.skipGaps_append_newline hname, ih hnames]

/-- **A control character in a name** ends the reading, if no name has a line break. -/
theorem skipGaps_fileLines_eq_none {names : List String}
    (hbreak : ∀ name ∈ names, '\n' ∉ name.toList)
    (hlast : ∀ name ∈ names, name.toList.getLast? ≠ some '\r')
    (h : ¬ ∀ name ∈ names, ∀ c ∈ name.toList, Toml.isPlain c = true) (rest : List Char) :
    Toml.skipGaps false ((fileLines names).toList ++ rest) = none := by
  induction names with
  | nil => exact absurd (List.forall_mem_nil _) h
  | cons name names ih =>
    obtain ⟨hbreak, hbreaks⟩ := List.forall_mem_cons.1 hbreak
    obtain ⟨hlast, hlasts⟩ := List.forall_mem_cons.1 hlast
    rw [skipGaps_fileLines_cons]
    by_cases hplain : ∀ c ∈ name.toList, Toml.isPlain c = true
    · rw [Toml.skipGaps_append_newline (Toml.isCommentText_of_plain hplain)]
      exact ih hbreaks hlasts fun hall => h (List.forall_mem_cons.2 ⟨hplain, hall⟩)
    · refine Toml.skipGaps_eq_none hbreak hlast ?_ _
      simpa using hplain

/-! ## Configurations that are loaded -/

theorem exists_text_of_readFile {disk : Disk} {path : Path} {file : LayerFile}
    (h : readFile disk path = .ok file) : ∃ text, ConfigLayer.read? text = some file.layer := by
  unfold readFile at h
  split at h
  · next text _ =>
    unfold readLayer at h
    split at h
    · next layer hlayer =>
      cases h
      exact ⟨text, hlayer⟩
    · cases h
  · cases h

/-- A configuration that is loaded is merged from files that are read. -/
theorem exists_files_of_load {disk : Disk} {home : Option Path} {directory : Path}
    {config : Config} (h : load disk home directory = .ok config) :
    ∃ files, config = merge files ∧
      ∀ f ∈ files, ∃ text, ConfigLayer.read? text = some f.layer := by
  obtain ⟨files, hfiles, rfl⟩ := Except.map_eq_ok.1 h
  refine ⟨files, rfl, fun f hf => ?_⟩
  obtain ⟨path, -, hread⟩ := exists_of_forall₂_of_mem (Except.mapM_eq_ok.1 hfiles) hf
  exact exists_text_of_readFile hread

/-- What is discovered is the file of some directory. -/
theorem exists_join_of_mem_discover {disk : Disk} {home : Option Path} {directory path : Path}
    (h : path ∈ discover disk home directory) : ∃ d : Path, path = d.join fileName := by
  rw [discover_eq_append] at h
  rcases List.mem_append.1 h with h | h
  · obtain ⟨d, -, rfl, -⟩ := mem_filesIn.1 (filesUpToRoot_subset disk directory.ancestors h)
    exact ⟨d, rfl⟩
  · split at h
    · cases h
    · obtain ⟨home, -, rfl⟩ := List.mem_map.1 (List.mem_filter.1 h).1
      exact ⟨home, rfl⟩

theorem getLast?_join_fileName (d : Path) :
    (d.join fileName).text.toList.getLast? ≠ some '\r' := by
  have hname : fileName.toList.getLast? = some 'l' := by decide
  have hslash : ("/" ++ fileName).toList.getLast? = some 'l' := by decide
  unfold Path.join
  split
  · simp [List.getLast?_append, hname]
  · rw [String.append_assoc, String.toList_append, List.getLast?_append, hslash]
    simp

end Config

/-! ## Main statement -/

namespace Config

/-- A text is read as a file that alone gives the settings of a configuration. -/
def Means (text : String) (config : Config) : Prop :=
  ∃ layer, ConfigLayer.read? text = some layer ∧
    ∀ path, (merge [⟨path, layer⟩]).settings = config.settings

end Config

namespace Session

/-- The names that are listed above the settings. -/
def shownNames (session : Session) : List String :=
  let files := Config.discover session.disk session.home session.directory
  if files.isEmpty then ["(none, using defaults)"] else files.map (·.text)

theorem configText_eq (session : Session) (config : Config) :
    session.configText config = "# Config files (highest precedence first):\n" ++
      Config.fileLines session.shownNames ++ "\n" ++ config.settingsText :=
  rfl

/-- What holds of the note that there are no files and of every path that is discovered, holds of
the names that are listed. -/
theorem forall_shownNames {session : Session} {P : String → Prop}
    (hnone : P "(none, using defaults)") :
    (∀ name ∈ session.shownNames, P name) ↔
      ∀ file ∈ Config.discover session.disk session.home session.directory, P file.text := by
  unfold shownNames
  cases Config.discover session.disk session.home session.directory with
  | nil => simpa using hnone
  | cons file files => simp

theorem toList_configText (session : Session) (config : Config) :
    (session.configText config).toList =
      '#' :: (" Config files (highest precedence first):".toList ++
        '\n' :: ((Config.fileLines session.shownNames).toList ++
          '\n' :: config.settingsText.toList)) := by
  have htitle : "# Config files (highest precedence first):\n".toList =
      '#' :: (" Config files (highest precedence first):".toList ++ ['\n']) := by
    simp
  have hbreak : "\n".toList = ['\n'] := rfl
  rw [configText_eq]
  simp only [String.toList_append, htitle, hbreak, List.append_assoc, List.cons_append,
    List.nil_append]

/-- The reader meets the list of files first, behind the line above it. -/
theorem skipGaps_configText (session : Session) (config : Config) :
    Toml.skipGaps false (session.configText config).toList =
      Toml.skipGaps false ((Config.fileLines session.shownNames).toList ++
        '\n' :: config.settingsText.toList) := by
  have htitle : ∀ c ∈ " Config files (highest precedence first):".toList,
      Toml.isPlain c = true := Config.isPlain_ofList (by decide +kernel)
  rw [toList_configText, Toml.skipGaps_mark, Toml.skipGaps_comment htitle]

theorem read?_configText (session : Session) (config : Config) :
    Toml.read? (session.configText config) =
      (Toml.readStatements Toml.inlineTable? ((session.configText config).toList.length + 1)
        (session.configText config).toList).bind Toml.tableOf? := by
  have hmark : Toml.dropByteOrderMark (session.configText config).toList =
      (session.configText config).toList := by
    rw [toList_configText]
    rfl
  rw [Toml.read?, hmark]
  rfl

/-- **Names that are read as comments** leave the table of the settings. -/
theorem read?_configText_eq_some {session : Session} (config : Config)
    (h : ∀ name ∈ session.shownNames, Toml.IsCommentText name.toList) :
    Toml.read? (session.configText config) = some config.toTable := by
  have hgaps : Toml.skipGaps false (session.configText config).toList =
      Toml.skipGaps false config.settingsText.toList := by
    rw [skipGaps_configText, Config.skipGaps_fileLines h, Toml.skipGaps_newline]
  have hlength : 7 ≤ (session.configText config).toList.length := by
    have hsettings : 7 ≤ config.settingsText.toList.length := by
      simp [Config.settingsText, Toml.headerLine]
    have hsuffix : config.settingsText.toList <:+ (session.configText config).toList := by
      rw [configText_eq, String.toList_append]
      exact List.suffix_append _ _
    exact Nat.le_trans hsettings hsuffix.length_le
  obtain ⟨steps, hsteps⟩ : ∃ s, (session.configText config).toList.length + 1 = s + 8 :=
    ⟨(session.configText config).toList.length - 7, by omega⟩
  rw [read?_configText, hsteps, Toml.readStatements_congr hgaps, Config.readStatements_settingsText]
  exact Config.tableOf?_settings _ _ _ _ _

theorem read?_configText_eq_none {session : Session} (config : Config)
    (h : Toml.skipGaps false ((Config.fileLines session.shownNames).toList ++
      '\n' :: config.settingsText.toList) = none) :
    Toml.read? (session.configText config) = none := by
  rw [read?_configText, Toml.readStatements_eq_none (by rw [skipGaps_configText, h])]
  rfl

theorem means_of_read? {text : String} {config : Config} {files : List LayerFile}
    (hfiles : config = Config.merge files)
    (hread : ∀ f ∈ files, ∃ text, ConfigLayer.read? text = some f.layer)
    (htable : Toml.read? text = some config.toTable) : Config.Means text config := by
  subst hfiles
  obtain ⟨hsize, hscroll⟩ := Config.merge_counts_lt hread
  refine ⟨(Config.merge files).toLayer, ?_, fun path => ?_⟩
  · rw [ConfigLayer.read?, htable, Option.bind_some, Config.ofTable?_toTable hsize hscroll]
  · refine Prod.ext_iff.2 ?_
    exact Config.merge_toLayer path (Config.nodup_allListed files _)
      (Config.nodup_allListed files _)

/-- **The settings that are shown are a file with these settings** where all paths are read as
comments. Of paths without a line break these are the ones without a control character other than
the tab, and with any other path what is shown is no file. -/
theorem run_settings_means {session : Session} {config : Config}
    (hload : Config.load session.disk session.home session.directory = .ok config) :
    ((∀ file ∈ Config.discover session.disk session.home session.directory,
        Toml.IsCommentText file.text.toList) →
      Config.Means (session.run (.report .settings)).output config) ∧
    ((∀ file ∈ Config.discover session.disk session.home session.directory,
        '\n' ∉ file.text.toList) →
      (Config.Means (session.run (.report .settings)).output config ↔
        ∀ file ∈ Config.discover session.disk session.home session.directory,
          ∀ c ∈ file.text.toList, Toml.isPlain c = true)) := by
  have houtput : (session.run (.report .settings)).output = session.configText config := by
    rw [run, hload]
    rfl
  rw [houtput]
  have hnote : ∀ c ∈ "(none, using defaults)".toList, Toml.isPlain c = true :=
    Config.isPlain_ofList (by decide +kernel)
  obtain ⟨files, hfiles, hread⟩ := Config.exists_files_of_load hload
  have hmeans : (∀ file ∈ Config.discover session.disk session.home session.directory,
      Toml.IsCommentText file.text.toList) → Config.Means (session.configText config) config :=
    fun h => means_of_read? hfiles hread <|
      read?_configText_eq_some config
        ((forall_shownNames (Toml.isCommentText_of_plain hnote)).2 h)
  refine ⟨hmeans, fun hbreak => ⟨?_, fun hplain => hmeans fun file hfile =>
    Toml.isCommentText_of_plain (hplain file hfile)⟩⟩
  rintro ⟨layer, hlayer, -⟩
  by_contra hcontrol
  have hlast : ∀ file ∈ Config.discover session.disk session.home session.directory,
      file.text.toList.getLast? ≠ some '\r' := by
    intro file hfile
    obtain ⟨d, rfl⟩ := Config.exists_join_of_mem_discover hfile
    exact Config.getLast?_join_fileName d
  have hnone := Config.skipGaps_fileLines_eq_none
    ((forall_shownNames (by decide +kernel)).2 hbreak)
    ((forall_shownNames (by decide +kernel)).2 hlast)
    (fun h => hcontrol ((forall_shownNames hnote).1 h))
    ('\n' :: config.settingsText.toList)
  rw [ConfigLayer.read?, read?_configText_eq_none config hnone] at hlayer
  cases hlayer

/-- A session in a directory with a name, where a file sets the page size. -/
def sessionIn (name : String) : Session where
  disk := ⟨[(name, .directory), (name ++ "/.esq.toml", .file (some "[search]\nsize = 3\n"))]⟩
  directory := ⟨"/" ++ name⟩
  home := some ⟨"/home"⟩
  input := .terminal

/-- A line break does no harm in front of a comment. -/
theorem run_settings_means_commented :
    let session := sessionIn "a\n# b"
    let config : Config := { search := { size := 3 }, root := some ⟨"/a\n# b"⟩ }
    Config.load session.disk session.home session.directory = .ok config ∧
      Config.Means (session.run (.report .settings)).output config := by
  intro session config
  have hload : Config.load session.disk session.home session.directory = .ok config := by
    decide +kernel
  have hdiscover : Config.discover session.disk session.home session.directory =
      [⟨"/a\n# b/.esq.toml"⟩] := by
    decide +kernel
  refine ⟨hload, (run_settings_means hload).1 ?_⟩
  rw [hdiscover]
  exact List.forall_mem_singleton.2 (by decide +kernel)

/-- A line break in front of a name breaks what is shown. -/
theorem run_settings_broken :
    let session := sessionIn "a\nb"
    let config : Config := { search := { size := 3 }, root := some ⟨"/a\nb"⟩ }
    Config.load session.disk session.home session.directory = .ok config ∧
      ConfigLayer.read? (session.run (.report .settings)).output = none ∧
      ¬ Config.Means (session.run (.report .settings)).output config := by
  intro session config
  have hread : ConfigLayer.read? (session.run (.report .settings)).output = none := by
    decide +kernel
  refine ⟨by decide +kernel, hread, ?_⟩
  rintro ⟨layer, hlayer, -⟩
  rw [hread] at hlayer
  cases hlayer

end Session

end SearchNotation
