import SearchNotation.Command.Run
import SearchNotation.Proofs.Config.Precedence
import SearchNotation.Proofs.Files.Disk

/-!
# A new configuration file changes nothing

A text of comments defines nothing (`read?_commentText`). A file that defines nothing can stand
anywhere among the files that are merged (`settings_merge_filter`), and new ones neither end the way
up nor take the place of another file: without them the files that apply are those from before
(`discover_filter`), so the configuration of every directory has the same settings or fails with the
same error (`settings_load`).

The main statement is `run_init_neutral`: this is what writing a new configuration file does.
-/

set_option autoImplicit false

namespace SearchNotation

/-! ## Comments -/

namespace Toml

theorem skipGaps_comment {line : List Char} (h : ∀ c ∈ line, isPlain c = true)
    (rest : List Char) : skipGaps true (line ++ '\n' :: rest) = skipGaps false rest := by
  induction line with
  | nil => rfl
  | cons c line ih =>
    obtain ⟨hc, hline⟩ := List.forall_mem_cons.1 h
    have hbreak : c ≠ '\n' := by
      rintro rfl
      exact absurd hc (by decide)
    have hreturn : c ≠ '\r' := by
      rintro rfl
      exact absurd hc (by decide)
    rw [List.cons_append, skipGaps]
    simp [hbreak, hreturn, hc, ih hline]

end Toml

namespace Config

theorem skipGaps_commentLine {line : String} (h : ∀ c ∈ line.toList, Toml.isPlain c = true)
    (rest : List Char) :
    Toml.skipGaps false ((commentLine line).toList ++ '\n' :: rest) = Toml.skipGaps false rest := by
  unfold commentLine
  split
  · next hline =>
    rw [hline]
    rfl
  · next chars hline =>
    rw [hline] at h ⊢
    exact Toml.skipGaps_comment (List.forall_mem_cons.1 h).2 rest
  · have hblank : ∀ c ∈ ' ' :: line.toList, Toml.isPlain c = true :=
      List.forall_mem_cons.2 ⟨rfl, h⟩
    have htext : ("# " ++ line).toList = '#' :: ' ' :: line.toList := by simp
    rw [htext]
    exact Toml.skipGaps_comment hblank rest

theorem skipGaps_commentText {lines : List String}
    (h : ∀ line ∈ lines, ∀ c ∈ line.toList, Toml.isPlain c = true) :
    Toml.skipGaps false (commentText lines).toList = some [] := by
  rw [commentText, String.toList_join]
  induction lines with
  | nil => rfl
  | cons line rest ih =>
    obtain ⟨hline, hrest⟩ := List.forall_mem_cons.1 h
    have htext : (commentLine line ++ "\n").toList = (commentLine line).toList ++ ['\n'] := by simp
    rw [List.map_cons, List.flatMap_cons, htext, List.append_assoc, List.singleton_append,
      skipGaps_commentLine hline, ih hrest]

theorem dropByteOrderMark_commentText (lines : List String) :
    Toml.dropByteOrderMark (commentText lines).toList = (commentText lines).toList := by
  have hfirst : ∀ line : String, ∃ c chars, (commentLine line ++ "\n").toList = c :: chars ∧
      c ≠ '\uFEFF' := by
    intro line
    unfold commentLine
    split
    · next hline => exact ⟨'\n', [], by simp [hline], by decide⟩
    · next chars hline => exact ⟨'#', chars ++ ['\n'], by simp [hline], by decide⟩
    · exact ⟨'#', ' ' :: line.toList ++ ['\n'], by simp, by decide⟩
  cases lines with
  | nil => rfl
  | cons line rest =>
    obtain ⟨c, chars, hline, hc⟩ := hfirst line
    rw [commentText, String.toList_join, List.map_cons, List.flatMap_cons, hline, List.cons_append]
    unfold Toml.dropByteOrderMark
    split
    · next hmark =>
      rw [List.cons.injEq] at hmark
      exact absurd hmark.1 hc
    · rfl

/-- **A text of comments defines nothing.** -/
theorem read?_commentText {lines : List String}
    (h : ∀ line ∈ lines, ∀ c ∈ line.toList, Toml.isPlain c = true) :
    ConfigLayer.read? (commentText lines) = some {} := by
  have hread : Toml.read? (commentText lines) = some [] := by
    rw [Toml.read?, dropByteOrderMark_commentText]
    change (Toml.skipGaps false (commentText lines).toList >>= _) >>= _ = _
    rw [skipGaps_commentText h]
    rfl
  rw [ConfigLayer.read?, hread]
  rfl

-- Comparing the lines with lists of characters spares the kernel the decoding of their bytes.
theorem isPlain_ofList {chars : List Char} (h : chars.all Toml.isPlain = true) :
    ∀ c ∈ (String.ofList chars).toList, Toml.isPlain c = true := by
  rw [String.toList_ofList]
  exact List.all_eq_true.1 h

theorem isPlain_localLines :
    ∀ line ∈ localLines, ∀ c ∈ line.toList, Toml.isPlain c = true := by
  simp only [localLines, List.forall_mem_cons]
  and_intros
  on_goal -1 => exact List.forall_mem_nil _
  all_goals exact isPlain_ofList (by decide +kernel)

theorem isPlain_globalLines :
    ∀ line ∈ globalLines, ∀ c ∈ line.toList, Toml.isPlain c = true := by
  simp only [globalLines, List.forall_mem_cons]
  and_intros
  on_goal -1 => exact List.forall_mem_nil _
  all_goals exact isPlain_ofList (by decide +kernel)

/-! ## Files that define nothing -/

/-- What a configuration sets, without the directory that it comes from. -/
def settings (config : Config) : SearchSettings × KindSettings := (config.search, config.kinds)

/-- Whether a file defines anything. -/
def definesAny (file : LayerFile) : Bool := file.layer != {}

theorem layer_of_not_definesAny {file : LayerFile} (h : ¬ definesAny file = true) :
    file.layer = {} := by
  simpa [definesAny] using h

theorem firstDefined_filter {α : Type} {setting : ConfigLayer → Option α} (h : setting {} = none)
    (files : List LayerFile) :
    firstDefined (files.filter definesAny) setting = firstDefined files setting := by
  unfold firstDefined
  induction files with
  | nil => rfl
  | cons file rest ih =>
    by_cases hany : definesAny file = true
    · rw [List.filter_cons_of_pos hany, List.findSome?_cons, List.findSome?_cons, ih]
    · rw [List.filter_cons_of_neg hany, List.findSome?_cons, layer_of_not_definesAny hany, h, ih]

theorem allListed_filter (files : List LayerFile) (list : KindLayer → Option (List String)) :
    allListed (files.filter definesAny) list = allListed files list := by
  have hall : ∀ names : List String,
      (files.filter definesAny).foldl
          (fun names f => addNew names ((f.layer.kinds.bind list).getD [])) names =
        files.foldl (fun names f => addNew names ((f.layer.kinds.bind list).getD [])) names := by
    induction files with
    | nil => exact fun _ => rfl
    | cons file rest ih =>
      intro names
      by_cases hany : definesAny file = true
      · rw [List.filter_cons_of_pos hany, List.foldl_cons, List.foldl_cons, ih]
      · have hnone : addNew names ((file.layer.kinds.bind list).getD []) = names := by
          rw [layer_of_not_definesAny hany]
          rfl
        rw [List.filter_cons_of_neg hany, List.foldl_cons, hnone, ih]
  exact hall []

/-- **A file that defines nothing can stand anywhere** among the files that are merged. -/
theorem settings_merge_filter (files : List LayerFile) :
    (merge (files.filter definesAny)).settings = (merge files).settings := by
  have hsearch : mergeSearch (files.filter definesAny) = mergeSearch files := by
    simp only [mergeSearch]
    rw [firstDefined_filter rfl, firstDefined_filter rfl, firstDefined_filter rfl]
  have hkinds : mergeKinds (files.filter definesAny) = mergeKinds files := by
    simp only [mergeKinds, allListed_filter]
  simp only [settings, merge, hsearch, hkinds]

/-! ## Discovery -/

section
variable {disk disk' : Disk} {text : String}

/-- A path is as it was, or a new file with the text. -/
theorem sameFile_or_new (h : Disk.Adds disk disk' text) (path : Path) :
    SameFile disk disk' path ∨ disk.isFile path = false ∧ disk.find path = .error .missing ∧
      disk'.isFile path = true ∧ disk'.read path = .ok text := by
  rcases h.find path with hsame | ⟨hnone, hgone | ⟨place, hnew⟩⟩
  · refine .inl ⟨?_, fun _ => ?_⟩
    · rw [Disk.isFile, Disk.isFile, hsame]
    · rw [Disk.read, Disk.read, hsame]
  · have hfile : disk.isFile path = false := by rw [Disk.isFile, hnone]
    refine .inl ⟨?_, fun htrue => ?_⟩
    · rw [hfile, Disk.isFile, hgone]
    · rw [hfile] at htrue
      cases htrue
  · refine .inr ⟨?_, hnone, ?_, ?_⟩
    · rw [Disk.isFile, hnone]
    · rw [Disk.isFile, hnew]
    · rw [Disk.read, hnew]

theorem isFile_of_adds (h : Disk.Adds disk disk' text) {path : Path}
    (hfile : disk.isFile path = true) : disk'.isFile path = true := by
  rcases sameFile_or_new h path with hsame | ⟨hnone, -⟩
  · rw [← hsame.1, hfile]
  · rw [hfile] at hnone
    cases hnone

variable (hadds : Disk.Adds disk disk' text) (hread : ConfigLayer.read? text = some {})
include hadds hread

theorem isRootFile_of_adds (path : Path) : isRootFile disk' path = isRootFile disk path := by
  rcases sameFile_or_new hadds path with hsame | ⟨hnone, -, -, hnew⟩
  · exact hsame.isRootFile_eq.symm
  · have hold : isRootFile disk path = false := by
      rw [← Bool.not_eq_true]
      intro hroot
      rw [isFile_of_isRootFile hroot] at hnone
      cases hnone
    rw [hold, isRootFile, hnew]
    simp [hread]

/-- The way up leads through the same directories. -/
theorem exists_filesIn (directories : List Path) : ∃ walked rooted,
    filesUpToRoot disk directories = (filesIn disk walked, rooted) ∧
      filesUpToRoot disk' directories = (filesIn disk' walked, rooted) := by
  have hroots := isRootFile_of_adds hadds hread
  rcases rootless_or_exists_root disk directories with
    hall | ⟨below, root, above, rfl, hbelow, hroot⟩
  · have hall' : Rootless disk' directories := fun d hd => by rw [hroots, hall d hd]
    exact ⟨directories, false, filesUpToRoot_of_rootless hall, filesUpToRoot_of_rootless hall'⟩
  · have hbelow' : Rootless disk' below := fun d hd => by rw [hroots, hbelow d hd]
    have hroot' : isRootFile disk' (root.join fileName) = true := by rw [hroots, hroot]
    refine ⟨below ++ [root], true, ?_, ?_⟩
    · rw [filesUpToRoot_append hbelow, filesUpToRoot_root hroot, filesIn_append,
        filesIn_singleton (isFile_of_isRootFile hroot)]
    · rw [filesUpToRoot_append hbelow', filesUpToRoot_root hroot', filesIn_append,
        filesIn_singleton (isFile_of_isRootFile hroot')]

omit hread in
theorem filesIn_filter (directories : List Path) :
    (filesIn disk' directories).filter disk.isFile = filesIn disk directories := by
  rw [filesIn, filesIn, List.filter_filter]
  refine List.filter_congr fun path _ => ?_
  cases hfile : disk.isFile path with
  | true => simp [isFile_of_adds hadds hfile]
  | false => rfl

omit hread in
/-- A new file is not in the place of the one in the home directory. -/
theorem any_same_filesIn {global : Path} (hglobal : disk.isFile global = true)
    (directories : List Path) :
    (filesIn disk' directories).any global.same = (filesIn disk directories).any global.same := by
  rw [Bool.eq_iff_iff, List.any_eq_true, List.any_eq_true]
  constructor
  · rintro ⟨path, hpath, hsame⟩
    obtain ⟨d, hd, rfl, hfile'⟩ := mem_filesIn.1 hpath
    refine ⟨_, mem_filesIn.2 ⟨d, hd, rfl, ?_⟩, hsame⟩
    rcases sameFile_or_new hadds (d.join fileName) with hold | ⟨-, hmissing, -⟩
    · rw [hold.1, hfile']
    · have hfound := Disk.find_ne_missing_of_same (Path.same_symm hsame)
        (Disk.text_join_ne (by decide) d) hglobal
      exact absurd hmissing hfound
  · rintro ⟨path, hpath, hsame⟩
    obtain ⟨d, hd, rfl, hfile⟩ := mem_filesIn.1 hpath
    exact ⟨_, mem_filesIn.2 ⟨d, hd, rfl, isFile_of_adds hadds hfile⟩, hsame⟩

/-- **Without the new files, the same files apply** in the same order. -/
theorem discover_filter (home : Option Path) (directory : Path) :
    (discover disk' home directory).filter disk.isFile = discover disk home directory := by
  obtain ⟨walked, rooted, hup, hup'⟩ := exists_filesIn hadds hread directory.ancestors
  rw [discover_eq_append, discover_eq_append, hup, hup', List.filter_append,
    filesIn_filter hadds walked]
  refine congrArg (filesIn disk walked ++ ·) ?_
  cases rooted with
  | true => rfl
  | false =>
    simp only [Bool.false_eq_true, if_false, globalFile, List.filter_filter]
    refine List.filter_congr fun global _ => ?_
    cases hglobal : disk.isFile global with
    | true =>
      rw [isFile_of_adds hadds hglobal, any_same_filesIn hadds hglobal walked, Bool.true_and]
    | false => rfl

end

theorem isFile_of_mem_discover {disk : Disk} {home : Option Path} {directory path : Path}
    (h : path ∈ discover disk home directory) : disk.isFile path = true := by
  rw [discover_eq_append] at h
  rcases List.mem_append.1 h with h | h
  · obtain ⟨-, -, -, hfile⟩ := mem_filesIn.1 (filesUpToRoot_subset disk directory.ancestors h)
    exact hfile
  · split at h
    · cases h
    · have hboth := (List.mem_filter.1 h).2
      rw [Bool.and_eq_true] at hboth
      exact hboth.1

/-! ## Loading -/

theorem map_filter_cons {ε : Type} (x : Except ε (List LayerFile)) (file : LayerFile) :
    (x >>= fun files => pure (file :: files)).map (List.filter definesAny) =
      (x.map (List.filter definesAny)).map fun files =>
        if definesAny file then file :: files else files := by
  cases x with
  | error e => rfl
  | ok files =>
    by_cases hany : definesAny file = true
    · simp [Except.map, bind, Except.bind, pure, Except.pure, hany]
    · simp [Except.map, bind, Except.bind, pure, Except.pure, hany]

section
variable {disk disk' : Disk} {text : String}
variable (hadds : Disk.Adds disk disk' text) (hread : ConfigLayer.read? text = some {})
include hadds hread

/-- Reading the files gives the same files that define anything, or the same error. -/
theorem mapM_readFile {paths : List Path} (h : ∀ path ∈ paths, disk'.isFile path = true) :
    (paths.mapM (readFile disk')).map (List.filter definesAny) =
      ((paths.filter disk.isFile).mapM (readFile disk)).map (List.filter definesAny) := by
  induction paths with
  | nil => rfl
  | cons path rest ih =>
    obtain ⟨hpath, hrest⟩ := List.forall_mem_cons.1 h
    have ih := ih hrest
    rw [List.mapM_cons]
    rcases sameFile_or_new hadds path with hsame | ⟨hnone, -, -, hnew⟩
    · have hfile : disk.isFile path = true := by rw [hsame.1, hpath]
      have heq : readFile disk' path = readFile disk path := by
        rw [readFile, readFile, hsame.2 hfile]
      rw [List.filter_cons_of_pos hfile, List.mapM_cons, heq]
      cases readFile disk path with
      | error e => rfl
      | ok file =>
        have hleft := map_filter_cons (rest.mapM (readFile disk')) file
        have hright := map_filter_cons ((rest.filter disk.isFile).mapM (readFile disk)) file
        rw [ih] at hleft
        exact hleft.trans hright.symm
    · have hempty : readFile disk' path = .ok ⟨path, {}⟩ := by
        rw [readFile, hnew]
        simp [readLayer, hread]
      have hfile : ¬ disk.isFile path = true := by simp [hnone]
      have hleft := map_filter_cons (rest.mapM (readFile disk')) ⟨path, {}⟩
      have hsilent : definesAny ⟨path, {}⟩ = false := by simp [definesAny]
      rw [ih] at hleft
      simp only [hsilent, Bool.false_eq_true, if_false] at hleft
      rw [List.filter_cons_of_neg hfile, hempty]
      refine hleft.trans ?_
      cases ((rest.filter disk.isFile).mapM (readFile disk)).map (List.filter definesAny) <;> rfl

/-- **The configuration of every directory** has the same settings or fails with the same error. -/
theorem settings_load (home : Option Path) (directory : Path) :
    (load disk' home directory).map settings = (load disk home directory).map settings := by
  have hmerge : ∀ x : Except ConfigError (List LayerFile),
      (x.map merge).map settings = (x.map (List.filter definesAny)).map fun files =>
        (merge files).settings := by
    rintro (e | files)
    · rfl
    · exact congrArg Except.ok (settings_merge_filter files).symm
  have hisFile : ∀ path ∈ discover disk' home directory, disk'.isFile path = true :=
    fun _ hpath => isFile_of_mem_discover hpath
  have hfiles := mapM_readFile hadds hread hisFile
  rw [load, load, loadFiles, loadFiles, hmerge, hmerge, hfiles, discover_filter hadds hread]

end

end Config

/-! ## Writing a new configuration file -/

namespace Session

/-- The file that is written: the one in the home directory if it is asked for or worked in, or else
the one in the working directory. -/
def newFile? (session : Session) (global : Bool) : Option Path :=
  if global || session.home.any session.directory.same then session.home.map Config.globalPath
  else some (session.directory.join Config.fileName)

theorem isName_fileName : Path.IsName Config.fileName := by decide

theorem isHome_eq (session : Session) :
    session.isHome = session.home.any session.directory.same := by
  unfold isHome
  cases session.home with
  | none => rfl
  | some home =>
    obtain ⟨parent, hparent, hsame⟩ := Path.exists_parent?_join isName_fileName home
    simp only [Option.any_some, Config.globalPath, hparent]
    obtain ⟨habsolute, hnames⟩ := Path.same_iff.1 hsame
    rw [Path.same, Path.same, habsolute, hnames]

theorem read?_localTemplate : ConfigLayer.read? Config.localTemplate = some {} :=
  Config.read?_commentText Config.isPlain_localLines

theorem read?_globalTemplate : ConfigLayer.read? Config.globalTemplate = some {} :=
  Config.read?_commentText Config.isPlain_globalLines

/-- A file that is written where nothing was is new, and the only one. -/
theorem adds_initIn {session : Session} {directory : Path} {template : String} {force : Bool}
    (hnew : session.disk.contains (directory.join Config.fileName) = false)
    (hok : (initIn session directory template force).exit = .success) :
    Disk.Adds session.disk (initIn session directory template force).disk template ∧
      (initIn session directory template force).disk.read (directory.join Config.fileName) =
        .ok template := by
  simp only [initIn, hnew, Bool.false_and, Bool.false_eq_true, if_false] at hok ⊢
  cases hwrite : session.disk.write directory Config.fileName template with
  | error e =>
    rw [hwrite] at hok
    cases hok
  | ok disk =>
    obtain ⟨hadds, -, hread⟩ :=
      Disk.adds_write isName_fileName (by decide) (by decide) hnew hwrite
    exact ⟨hadds, hread⟩

/-- **A new configuration file changes nothing**: it is written as a text that defines nothing, and
the configuration of every directory has the settings it had or fails with the error it had. -/
theorem run_init_neutral {session : Session} {global force : Bool} {path : Path}
    (hpath : session.newFile? global = some path) (hnew : session.disk.contains path = false)
    (hok : (session.run (.init global force)).exit = .success) :
    (∃ text, (session.run (.init global force)).disk.read path = .ok text ∧
      ConfigLayer.read? text = some {}) ∧
    ∀ directory,
      (Config.load (session.run (.init global force)).disk session.home directory).map
          Config.settings =
        (Config.load session.disk session.home directory).map Config.settings := by
  rw [newFile?, ← isHome_eq] at hpath
  rw [run, runInit] at hok ⊢
  split at hpath
  · next hhome =>
    rw [if_pos hhome] at hok ⊢
    obtain ⟨home, hsome, rfl⟩ := Option.map_eq_some_iff.1 hpath
    rw [hsome] at hok ⊢
    obtain ⟨hadds, hread⟩ := adds_initIn hnew hok
    refine ⟨⟨_, hread, read?_globalTemplate⟩, fun directory => ?_⟩
    exact Config.settings_load hadds read?_globalTemplate _ directory
  · next hhome =>
    rw [if_neg hhome] at hok ⊢
    cases hpath
    obtain ⟨hadds, hread⟩ := adds_initIn hnew hok
    refine ⟨⟨_, hread, read?_localTemplate⟩, fun directory => ?_⟩
    exact Config.settings_load hadds read?_localTemplate _ directory

/-- A project directory between a file that defines the page size and two files below it, of which
one disables a kind and the other is malformed. -/
def projectSession : Session where
  disk := ⟨[(".esq.toml", .file (some "[search]\nsize = 2\n")), ("home", .directory),
    ("home/p", .directory), ("home/p/q", .directory),
    ("home/p/q/.esq.toml", .file (some "kinds = ['term']\n")), ("home/p/r", .directory),
    ("home/p/r/.esq.toml", .file (some "[search"))]⟩
  directory := ⟨"/home/p"⟩
  home := some ⟨"/home"⟩
  input := .terminal

theorem run_init_neutral_project :
    (projectSession.run (.init false false)).exit = .success ∧
      (Config.load (projectSession.run (.init false false)).disk projectSession.home
          ⟨"/home/p/q"⟩).map Config.settings =
        .ok ({ size := 2 }, { disabledQueries := ["term"] }) ∧
      (Config.load (projectSession.run (.init false false)).disk projectSession.home
          ⟨"/home/p/r"⟩).map Config.settings =
        .error (.malformed ⟨"/home/p/r/.esq.toml"⟩) := by
  have hpath : projectSession.newFile? false = some ⟨"/home/p/.esq.toml"⟩ := by decide +kernel
  have hnew : projectSession.disk.contains ⟨"/home/p/.esq.toml"⟩ = false := by decide +kernel
  have hok : (projectSession.run (.init false false)).exit = .success := by decide +kernel
  have hneutral := (run_init_neutral hpath hnew hok).2
  have hq : (Config.load projectSession.disk projectSession.home ⟨"/home/p/q"⟩).map
      Config.settings = .ok ({ size := 2 }, { disabledQueries := ["term"] }) := by decide +kernel
  have hr : (Config.load projectSession.disk projectSession.home ⟨"/home/p/r"⟩).map
      Config.settings = .error (.malformed ⟨"/home/p/r/.esq.toml"⟩) := by decide +kernel
  exact ⟨hok, (hneutral _).trans hq, (hneutral _).trans hr⟩

end Session

end SearchNotation
