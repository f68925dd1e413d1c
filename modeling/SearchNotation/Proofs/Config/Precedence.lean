import SearchNotation.Proofs.Config.Discovery
import SearchNotation.Proofs.Files.Path
import SearchNotation.Proofs.Logged

/-!
# The precedence of the file in the home directory

`GlobalLowest`: the file in the home directory comes last of the files that apply, and every setting
that another file defines is taken from the others. This holds unless the way up from the working
directory leads through the home directory (`PassesHome`): then its file is found where it stands,
and goes before the files above it.

The main statement is `globalLowest_iff`. What is discovered is what the way up finds, followed by
the file in the home directory if it was not among that (`exists_walk`).
-/

set_option autoImplicit false

namespace SearchNotation.Config

variable {disk : Disk} {home directory : Path}

/-! ## What is discovered -/

theorem discover_eq_append (disk : Disk) (home : Option Path) (directory : Path) :
    discover disk home directory = (filesUpToRoot disk directory.ancestors).1 ++
      if (filesUpToRoot disk directory.ancestors).2 then []
      else globalFile disk home (filesUpToRoot disk directory.ancestors).1 := by
  rcases hup : filesUpToRoot disk directory.ancestors with ⟨files, rooted⟩
  rw [discover, hup]
  cases rooted <;> simp

theorem globalFile_length_le (disk : Disk) (home : Path) (files : List Path) :
    (globalFile disk (some home) files).length ≤ 1 :=
  List.length_filter_le _ _

theorem not_isGlobal_of_mem_globalFile {files : List Path} {file other : Path}
    (hfile : file ∈ globalFile disk (some home) files) (hother : other ∈ files) :
    ¬ isGlobal (some home) other = true := by
  intro hglobal
  obtain ⟨hmem, hnew⟩ := List.mem_filter.1 hfile
  have hpath : file = globalPath home := by simpa using hmem
  subst hpath
  have hnone : ∀ x ∈ files, (globalPath home).same x = false := by
    simp only [Bool.and_eq_true, Bool.not_eq_true', List.any_eq_false, Bool.not_eq_true] at hnew
    exact hnew.2
  have hsame : (globalPath home).same other = true := Path.same_symm hglobal
  rw [hnone other hother] at hsame
  cases hsame

/-- **The files that apply**: those of the directories that are walked, of which only the last may
have a root file, and at most one more, if none of them is the one in the home directory. -/
theorem exists_walk (disk : Disk) (home directory : Path) :
    ∃ walked rest tail, directory.ancestors = walked ++ rest ∧ Rootless disk walked.dropLast ∧
      discover disk (some home) directory = filesIn disk walked ++ tail ∧ tail.length ≤ 1 ∧
      ∀ file ∈ tail, ∀ other ∈ filesIn disk walked, ¬ isGlobal (some home) other = true := by
  have hdiscover := discover_eq_append disk (some home) directory
  rcases rootless_or_exists_root disk directory.ancestors with
    hall | ⟨below, root, above, hsplit, hbelow, hroot⟩
  · rw [filesUpToRoot_of_rootless hall] at hdiscover
    refine ⟨directory.ancestors, [], _, (List.append_nil _).symm,
      fun d hd => hall d ((List.dropLast_subset _) hd), hdiscover, ?_, ?_⟩
    · exact globalFile_length_le disk home _
    · exact fun file hfile other hother => not_isGlobal_of_mem_globalFile hfile hother
  · have hrooted : RootedAt disk directory below root := ⟨⟨above, by simp [hsplit]⟩, hbelow, hroot⟩
    refine ⟨below ++ [root], above, [], by simp [hsplit], ?_, ?_, Nat.zero_le _, ?_⟩
    · rwa [List.dropLast_concat]
    · rw [hrooted.discover_eq, List.append_nil]
    · exact fun file hfile => nomatch hfile

theorem exists_of_filesIn_eq {directories before after : List Path} {file : Path}
    (h : filesIn disk directories = before ++ file :: after) :
    ∃ below here above, directories = below ++ here :: above ∧ here.join fileName = file ∧
      disk.isFile file = true ∧ filesIn disk above = after := by
  obtain ⟨xs, ys, hxy, -, hys⟩ := List.filter_eq_append_iff.1 h
  obtain ⟨passed, others, rfl, -, hfile, hafter⟩ := List.filter_eq_cons_iff.1 hys
  rw [← List.append_assoc] at hxy
  obtain ⟨below, tail, rfl, -, htail⟩ := List.map_eq_append_iff.1 hxy
  obtain ⟨here, above, rfl, hhere, habove⟩ := List.map_eq_cons_iff.1 htail
  exact ⟨below, here, above, rfl, hhere, hfile, by rw [filesIn, habove, hafter]⟩

theorem filesUpToRoot_ne_nil {directories : List Path} {d : Path} (hd : d ∈ directories)
    (hf : disk.isFile (d.join fileName) = true) : (filesUpToRoot disk directories).1 ≠ [] := by
  rcases rootless_or_exists_root disk directories with
    hall | ⟨below, root, above, rfl, hbelow, hroot⟩
  · rw [filesUpToRoot_of_rootless hall]
    exact List.ne_nil_of_mem (mem_filesIn.2 ⟨d, hd, rfl, hf⟩)
  · rw [filesUpToRoot_append hbelow, filesUpToRoot_root hroot]
    simp

/-! ## Precedence -/

/-- Settings have the values that the first of some files that defines them gives. -/
structure Follows (settings : SearchSettings) (files : List LayerFile) : Prop where
  size : ∀ n, firstDefined files (fun layer => layer.search.bind (·.size)) = some n →
    settings.size = n
  sort : ∀ keys, firstDefined files (fun layer => layer.search.bind (·.sort)) = some keys →
    settings.sort = keys
  scrollSeconds : ∀ n, firstDefined files (fun layer => layer.search.bind (·.scrollSeconds)) =
    some n → settings.scrollSeconds = n

/-- If the file in the home directory is discovered, it is the last one. -/
def GlobalLast (disk : Disk) (home directory : Path) : Prop :=
  ∀ before file after, discover disk (some home) directory = before ++ file :: after →
    isGlobal (some home) file = true → after = []

/-- The file in the home directory comes last, and what another file defines goes before it. -/
structure GlobalLowest (disk : Disk) (home directory : Path) : Prop where
  last : GlobalLast disk home directory
  overridden : ∀ config, load disk (some home) directory = .ok config → ∃ others,
    ((discover disk (some home) directory).filter fun path =>
      !isGlobal (some home) path).mapM (readFile disk) = .ok others ∧ Follows config.search others

/-- The way up finds the file in the home directory, which is not a root file and has none below
it, and there is another file above it. -/
def PassesHome (disk : Disk) (home directory : Path) : Prop :=
  ∃ below here above, directory.ancestors = below ++ here :: above ∧ here.same home = true ∧
    disk.isFile (here.join fileName) = true ∧ Rootless disk (below ++ [here]) ∧
    ∃ higher ∈ above, disk.isFile (higher.join fileName) = true

theorem isGlobal_join_iff {here : Path} :
    isGlobal (some home) (here.join fileName) = true ↔ here.same home = true :=
  Path.same_join (by decide) here home

theorem firstDefined_append {α : Type} (xs ys : List LayerFile)
    (setting : ConfigLayer → Option α) :
    firstDefined (xs ++ ys) setting = (firstDefined xs setting).or (firstDefined ys setting) :=
  List.findSome?_append

/-- **Files that come first are followed.** -/
theorem follows_merge_append (xs ys : List LayerFile) : Follows (merge (xs ++ ys)).search xs := by
  have hfirst : ∀ {α : Type} (setting : ConfigLayer → Option α) {value : α} (standard : α),
      firstDefined xs setting = some value →
      (firstDefined (xs ++ ys) setting).getD standard = value := by
    intro α setting value standard h
    rw [firstDefined_append, h]
    rfl
  exact ⟨fun n => hfirst _ _, fun keys => hfirst _ _, fun n => hfirst _ _⟩

theorem eq_filter_append_filter {α : Type} {p : α → Bool} {l : List α}
    (h : ∀ before x after, l = before ++ x :: after → p x = true → after = []) :
    l = l.filter (fun x => !p x) ++ l.filter p := by
  induction l with
  | nil => rfl
  | cons x rest ih =>
    cases hx : p x with
    | true =>
      have hrest := h [] x rest rfl hx
      simp [hrest, hx]
    | false =>
      have hsplit := ih fun before y after hl => h (x :: before) y after (by rw [hl]; rfl)
      rw [List.filter_cons_of_pos (by simpa using hx), List.filter_cons_of_neg (by simpa using hx),
        List.cons_append, ← hsplit]

theorem GlobalLast.overridden (hlast : GlobalLast disk home directory) {config : Config}
    (hload : load disk (some home) directory = .ok config) :
    ∃ others, ((discover disk (some home) directory).filter fun path =>
      !isGlobal (some home) path).mapM (readFile disk) = .ok others ∧
        Follows config.search others := by
  obtain ⟨layers, hread, rfl⟩ := Except.map_eq_ok.1 hload
  rw [eq_filter_append_filter hlast, List.mapM_append] at hread
  obtain ⟨others, hothers, hread⟩ := Except.bind_eq_ok.1 hread
  obtain ⟨globals, -, hlayers⟩ := Except.bind_eq_ok.1 hread
  cases hlayers
  exact ⟨others, hothers, follows_merge_append others globals⟩

/-- A file that is found after the one in the home directory stands above it. -/
theorem passesHome_of_filesIn_eq {walked rest before found : List Path} {file : Path}
    (hwalk : directory.ancestors = walked ++ rest) (hrootless : Rootless disk walked.dropLast)
    (hfiles : filesIn disk walked = before ++ file :: found)
    (hglobal : isGlobal (some home) file = true) (hne : found ≠ []) :
    PassesHome disk home directory := by
  obtain ⟨below, here, above, rfl, rfl, hfile, rfl⟩ := exists_of_filesIn_eq hfiles
  obtain ⟨path, hpath⟩ := List.exists_mem_of_ne_nil _ hne
  obtain ⟨higher, hhigher, rfl, hisFile⟩ := mem_filesIn.1 hpath
  have hlast : (below ++ here :: above).dropLast = below ++ here :: above.dropLast := by
    rw [List.dropLast_append_of_ne_nil (List.cons_ne_nil _ _),
      List.dropLast_cons_of_ne_nil (List.ne_nil_of_mem hhigher)]
  refine ⟨below, here, above ++ rest, ?_, isGlobal_join_iff.1 hglobal, hfile, ?_, higher,
    List.mem_append_left _ hhigher, hisFile⟩
  · rw [hwalk, List.append_assoc, List.cons_append]
  · rw [hlast, List.append_cons] at hrootless
    exact fun d hd => hrootless d (List.mem_append_left _ hd)

theorem globalLast_of_not_passesHome (hno : ¬ PassesHome disk home directory) :
    GlobalLast disk home directory := by
  intro before file after hdiscover hglobal
  obtain ⟨walked, rest, tail, hwalk, hrootless, hfiles, hlength, hnew⟩ :=
    exists_walk disk home directory
  rw [hfiles] at hdiscover
  have hshort : ∀ front, tail = front ++ file :: after → after = [] := by
    rintro front rfl
    simp only [List.length_append, List.length_cons] at hlength
    exact List.length_eq_zero_iff.1 (by omega)
  -- the file is the one at the end, or was found on the way up
  rcases List.append_eq_append_iff.1 hdiscover with ⟨front, -, htail⟩ | ⟨back, hback, hafter⟩
  · exact hshort front htail
  rcases List.append_eq_cons_iff.1 hafter.symm with ⟨-, htail⟩ | ⟨found, rfl, rfl⟩
  · exact hshort [] htail
  have hmem : file ∈ filesIn disk walked := by
    rw [hback]
    exact List.mem_append_right _ (.head _)
  have htail : tail = [] :=
    List.eq_nil_iff_forall_not_mem.2 fun g hg => hnew g hg file hmem hglobal
  rw [htail, List.append_nil]
  by_contra hne
  exact hno (passesHome_of_filesIn_eq hwalk hrootless hback hglobal hne)

/-- **The file in the home directory has the lowest precedence** exactly if the way up does not pass
it to reach another file. -/
theorem globalLowest_iff (disk : Disk) (home directory : Path) :
    GlobalLowest disk home directory ↔ ¬ PassesHome disk home directory := by
  constructor
  · rintro hlowest ⟨below, here, above, hsplit, hhere, hfile, hrootless, higher, hhigher, hisFile⟩
    have hup : filesUpToRoot disk directory.ancestors =
        (filesIn disk (below ++ [here]) ++ (filesUpToRoot disk above).1,
          (filesUpToRoot disk above).2) := by
      rw [← filesUpToRoot_append hrootless, hsplit, List.append_assoc, List.singleton_append]
    have hdiscover := discover_eq_append disk (some home) directory
    rw [hup, filesIn_append, filesIn_singleton hfile] at hdiscover
    simp only [List.append_assoc, List.singleton_append] at hdiscover
    have hnil := hlowest.last _ _ _ hdiscover (isGlobal_join_iff.2 hhere)
    exact filesUpToRoot_ne_nil hhigher hisFile (List.append_eq_nil_iff.1 hnil).1
  · intro hno
    have hlast := globalLast_of_not_passesHome hno
    exact ⟨hlast, fun config hload => hlast.overridden hload⟩

/-- The file in the home directory overrides the one above it. -/
theorem global_overrides_file_above :
    let disk : Disk := ⟨[(".esq.toml", .file (some "[search]\nsize = 2\n")), ("home", .directory),
      ("home/.esq.toml", .file (some "[search]\nsize = 1\n")), ("home/p", .directory),
      ("home/p/.esq.toml", .file (some "[search]\nscroll_seconds = 3\n"))]⟩
    let home : Path := ⟨"/home"⟩
    let directory : Path := ⟨"/home/p"⟩
    discover disk (some home) directory =
        [⟨"/home/p/.esq.toml"⟩, ⟨"/home/.esq.toml"⟩, ⟨"/.esq.toml"⟩] ∧
      load disk (some home) directory =
        .ok { search := { size := 1, scrollSeconds := 3 }, root := some directory } ∧
      ¬ GlobalLowest disk home directory := by
  intro disk home directory
  have hdiscover : discover disk (some home) directory =
      [⟨"/home/p/.esq.toml"⟩] ++ ⟨"/home/.esq.toml"⟩ :: [⟨"/.esq.toml"⟩] := by
    decide +kernel
  refine ⟨hdiscover, by decide +kernel, fun h => ?_⟩
  have hnil := h.last _ _ _ hdiscover (by decide)
  cases hnil

end SearchNotation.Config
