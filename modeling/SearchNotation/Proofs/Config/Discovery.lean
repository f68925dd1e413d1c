import Mathlib.Control.Monad.Basic
import SearchNotation.Config.Load

/-!
# The files that are discovered

`filesIn disk directories`: the configuration files of some directories. On the way up from a
directory the files of directories without a root file (`Rootless`) are taken one after the other
(`filesUpToRoot_append`), and the first root file is the last that is taken (`filesUpToRoot_root`).

The main statement is `eq_of_sameFile_up_to_root`: a root file isolates the directories up to it.
Two disks with the same files up to the nearest root file (`RootedAt`, `SameFile`) give the same
paths and the same configuration or error, whatever else they hold and wherever the home directory
is.
-/

set_option autoImplicit false

namespace SearchNotation.Config

/-- The configuration files of directories. -/
def filesIn (disk : Disk) (directories : List Path) : List Path :=
  (directories.map (Path.join · fileName)).filter disk.isFile

/-- None of the directories has a root file. -/
def Rootless (disk : Disk) (directories : List Path) : Prop :=
  ∀ d ∈ directories, isRootFile disk (d.join fileName) = false

instance (disk : Disk) (directories : List Path) : Decidable (Rootless disk directories) :=
  inferInstanceAs (Decidable (∀ d ∈ directories, isRootFile disk (d.join fileName) = false))

section
variable {disk : Disk}

theorem filesIn_append (xs ys : List Path) :
    filesIn disk (xs ++ ys) = filesIn disk xs ++ filesIn disk ys := by
  simp [filesIn]

theorem mem_filesIn {directories : List Path} {path : Path} : path ∈ filesIn disk directories ↔
    ∃ d ∈ directories, d.join fileName = path ∧ disk.isFile path = true := by
  simp only [filesIn, List.mem_filter, List.mem_map]
  grind

theorem filesIn_singleton {d : Path} (h : disk.isFile (d.join fileName) = true) :
    filesIn disk [d] = [d.join fileName] := by
  simp [filesIn, h]

theorem isFile_of_isRootFile {path : Path} (h : isRootFile disk path = true) :
    disk.isFile path = true := by
  unfold isRootFile Disk.read at h
  unfold Disk.isFile
  split at h
  · next text hread =>
    split at hread
    · cases hread
    · cases hread
    · cases hread
    · next hfind => rw [hfind]
  · cases h

/-! ## Going up -/

/-- **Directories without a root file are passed.** -/
theorem filesUpToRoot_append {below : List Path} (h : Rootless disk below) (rest : List Path) :
    filesUpToRoot disk (below ++ rest) =
      (filesIn disk below ++ (filesUpToRoot disk rest).1, (filesUpToRoot disk rest).2) := by
  induction below with
  | nil => rfl
  | cons d below ih =>
    obtain ⟨hd, hbelow⟩ := List.forall_mem_cons.1 h
    rw [List.cons_append, filesUpToRoot, ih hbelow]
    by_cases hf : disk.isFile (d.join fileName) = true
    · simp [filesIn, hf, hd]
    · simp [filesIn, hf]

/-- **The first root file ends the way up.** -/
theorem filesUpToRoot_root {d : Path} (h : isRootFile disk (d.join fileName) = true)
    (above : List Path) : filesUpToRoot disk (d :: above) = ([d.join fileName], true) := by
  rw [filesUpToRoot]
  simp [isFile_of_isRootFile h, h]

theorem filesUpToRoot_of_rootless {directories : List Path} (h : Rootless disk directories) :
    filesUpToRoot disk directories = (filesIn disk directories, false) := by
  have hall := filesUpToRoot_append h []
  simpa [filesUpToRoot] using hall

theorem filesUpToRoot_subset (disk : Disk) (directories : List Path) :
    (filesUpToRoot disk directories).1 ⊆ filesIn disk directories := by
  induction directories with
  | nil => exact List.Subset.refl []
  | cons d rest ih =>
    have hsplit : filesIn disk (d :: rest) = filesIn disk [d] ++ filesIn disk rest :=
      filesIn_append [d] rest
    rw [filesUpToRoot, hsplit]
    by_cases hf : disk.isFile (d.join fileName) = true
    · rw [if_pos hf, filesIn_singleton hf]
      split
      · exact List.subset_append_left _ _
      · exact List.cons_subset_cons _ ih
    · rw [if_neg hf]
      exact List.subset_append_of_subset_right _ ih

theorem rootless_or_exists_root (disk : Disk) (directories : List Path) :
    Rootless disk directories ∨ ∃ below root above, directories = below ++ root :: above ∧
      Rootless disk below ∧ isRootFile disk (root.join fileName) = true := by
  induction directories with
  | nil => exact .inl fun d hd => nomatch hd
  | cons d rest ih =>
    by_cases hd : isRootFile disk (d.join fileName) = true
    · exact .inr ⟨[], d, rest, rfl, fun d hd => (nomatch hd), hd⟩
    have hd : isRootFile disk (d.join fileName) = false := by simpa using hd
    rcases ih with hall | ⟨below, root, above, rfl, hbelow, hroot⟩
    · exact .inl (List.forall_mem_cons.2 ⟨hd, hall⟩)
    · exact .inr ⟨d :: below, root, above, rfl, List.forall_mem_cons.2 ⟨hd, hbelow⟩, hroot⟩

end

/-! ## Isolation by a root file -/

/-- Going up from a directory, the nearest root file is that of `root`, after `below`. -/
structure RootedAt (disk : Disk) (directory : Path) (below : List Path) (root : Path) : Prop where
  above : below ++ [root] <+: directory.ancestors
  nearest : Rootless disk below
  isRoot : isRootFile disk (root.join fileName) = true

/-- Two disks have the same file at a path, or none at all. -/
def SameFile (disk₁ disk₂ : Disk) (path : Path) : Prop :=
  disk₁.isFile path = disk₂.isFile path ∧
    (disk₁.isFile path = true → disk₁.read path = disk₂.read path)

instance (disk₁ disk₂ : Disk) (path : Path) : Decidable (SameFile disk₁ disk₂ path) :=
  inferInstanceAs (Decidable (_ ∧ _))

theorem RootedAt.discover_eq {disk : Disk} {directory root : Path} {below : List Path}
    (h : RootedAt disk directory below root) (home : Option Path) :
    discover disk home directory = filesIn disk (below ++ [root]) := by
  obtain ⟨above, habove⟩ := h.above
  have hup : filesUpToRoot disk directory.ancestors =
      (filesIn disk below ++ [root.join fileName], true) := by
    rw [← habove, List.append_assoc, List.singleton_append, filesUpToRoot_append h.nearest,
      filesUpToRoot_root h.isRoot]
  rw [discover, hup, filesIn_append, filesIn_singleton (isFile_of_isRootFile h.isRoot)]
  rfl

section
variable {disk₁ disk₂ : Disk}

theorem SameFile.isRootFile_eq {path : Path} (h : SameFile disk₁ disk₂ path) :
    isRootFile disk₁ path = isRootFile disk₂ path := by
  by_cases hf : disk₁.isFile path = true
  · rw [isRootFile, isRootFile, h.2 hf]
  · have h₁ : ¬ isRootFile disk₁ path = true := mt isFile_of_isRootFile hf
    have h₂ : ¬ isRootFile disk₂ path = true := mt isFile_of_isRootFile (h.1 ▸ hf)
    rw [Bool.not_eq_true] at h₁ h₂
    rw [h₁, h₂]

theorem filesIn_congr {directories : List Path}
    (h : ∀ d ∈ directories, SameFile disk₁ disk₂ (d.join fileName)) :
    filesIn disk₁ directories = filesIn disk₂ directories := by
  refine List.filter_congr fun path hp => ?_
  obtain ⟨d, hd, rfl⟩ := List.mem_map.1 hp
  exact (h d hd).1

theorem RootedAt.transfer {directory root : Path} {below : List Path}
    (h : RootedAt disk₁ directory below root)
    (hsame : ∀ d ∈ below ++ [root], SameFile disk₁ disk₂ (d.join fileName)) :
    RootedAt disk₂ directory below root where
  above := h.above
  nearest := fun d hd => by
    rw [← (hsame d (List.mem_append_left _ hd)).isRootFile_eq]
    exact h.nearest d hd
  isRoot := by
    rw [← (hsame root (List.mem_append_right _ (.head _))).isRootFile_eq]
    exact h.isRoot

theorem loadFiles_congr {paths : List Path}
    (h : ∀ path ∈ paths, disk₁.read path = disk₂.read path) :
    loadFiles disk₁ paths = loadFiles disk₂ paths := by
  have hread : paths.mapM (readFile disk₁) = paths.mapM (readFile disk₂) := by
    induction paths with
    | nil => rfl
    | cons path rest ih =>
      obtain ⟨hpath, hrest⟩ := List.forall_mem_cons.1 h
      rw [List.mapM_cons, List.mapM_cons, ih hrest, readFile, readFile, hpath]
  rw [loadFiles, loadFiles, hread]

/-- **A root file isolates the directories up to it** from all files above and from the file in the
home directory. -/
theorem eq_of_sameFile_up_to_root {directory root : Path} {below : List Path}
    (h : RootedAt disk₁ directory below root)
    (hsame : ∀ d ∈ below ++ [root], SameFile disk₁ disk₂ (d.join fileName))
    (home₁ home₂ : Option Path) :
    discover disk₁ home₁ directory = discover disk₂ home₂ directory ∧
      load disk₁ home₁ directory = load disk₂ home₂ directory := by
  have h₂ := h.transfer hsame
  have hfiles : discover disk₁ home₁ directory = discover disk₂ home₂ directory := by
    rw [h.discover_eq, h₂.discover_eq, filesIn_congr hsame]
  refine ⟨hfiles, ?_⟩
  rw [load, load, ← hfiles, h.discover_eq]
  refine loadFiles_congr fun path hp => ?_
  obtain ⟨d, hd, rfl, hf⟩ := mem_filesIn.1 hp
  exact (hsame d hd).2 hf

end

/-- On one disk the file above the root file is malformed, and so is the one in the home directory;
the other disk has neither. -/
theorem eq_of_sameFile_malformed_above :
    let disk₁ : Disk := ⟨[(".esq.toml", .file (some "[search")), ("home", .directory),
      ("home/.esq.toml", .file (some "size")), ("p", .directory),
      ("p/.esq.toml", .file (some "root = true\n[search]\nsize = 9\n")), ("p/s", .directory),
      ("p/s/.esq.toml", .file (some "[search]\nsort = 'x'\n"))]⟩
    let disk₂ : Disk := ⟨[("p", .directory),
      ("p/.esq.toml", .file (some "root = true\n[search]\nsize = 9\n")), ("p/s", .directory),
      ("p/s/.esq.toml", .file (some "[search]\nsort = 'x'\n")), ("p/s/t", .directory)]⟩
    let directory : Path := ⟨"/p/s/t"⟩
    let below : List Path := [⟨"/p/s/t"⟩, ⟨"/p/s"⟩]
    let root : Path := ⟨"/p"⟩
    RootedAt disk₁ directory below root ∧
      (∀ d ∈ below ++ [root], SameFile disk₁ disk₂ (d.join fileName)) ∧
      discover disk₁ (some ⟨"/home"⟩) directory = discover disk₂ none directory ∧
      load disk₁ (some ⟨"/home"⟩) directory = load disk₂ none directory ∧
      load disk₂ none directory =
        .ok { search := { size := 9, sort := ["x"] }, root := some ⟨"/p/s"⟩ } := by
  intro disk₁ disk₂ directory below root
  have hrooted : RootedAt disk₁ directory below root :=
    ⟨by decide, by decide +kernel, by decide +kernel⟩
  have hsame : ∀ d ∈ below ++ [root], SameFile disk₁ disk₂ (d.join fileName) := by
    decide +kernel
  obtain ⟨hfiles, hload⟩ := eq_of_sameFile_up_to_root hrooted hsame (some ⟨"/home"⟩) none
  exact ⟨hrooted, hsame, hfiles, hload, by decide +kernel⟩

end SearchNotation.Config
