import SearchNotation.Files.Disk
import SearchNotation.Proofs.Dict
import SearchNotation.Proofs.Files.Path
import SearchNotation.Proofs.Logged

/-!
# Writing files on a disk

`Adds disk disk' text`: the second disk holds what the first one holds, and maybe new files, all
with one text. Writing a file where nothing was is such a step (`adds_write`). What a path led to,
it leads to still: a lookup gives what it gave before, unless it found nothing and now meets a new
file (`Adds.find`).

Writing a file, over an old one or not, changes nothing else (`changesOnly_write`): the way to it
leads through directories, which stay (`exists_of_write`).

A name in a directory is looked up after the directory (`walk_join`), and idle parts of a path only
matter behind a file (`walk_filter`), so of two paths that are the same none misses what the other
finds (`find_ne_missing_of_same`).
-/

set_option autoImplicit false

namespace SearchNotation.Disk

open SearchNotation.Path (IsName isIdle)

variable {disk disk' : Disk} {name text : String}

/-! ## Steps of a lookup -/

theorem walk_append (location : Location) (entry : DiskEntry) (xs ys : List String) :
    walk disk location entry (xs ++ ys) =
      walk disk location entry xs >>= fun r => walk disk r.1 r.2 ys := by
  induction xs generalizing location entry with
  | nil => rfl
  | cons part rest ih =>
    cases entry with
    | file content => rfl
    | directory =>
      simp only [List.cons_append, walk]
      by_cases hidle : isIdle part = true
      · simp only [if_pos hidle, ih]
      by_cases hup : part = ".."
      · simp only [if_neg hidle, if_pos hup, ih]
      by_cases hlong : maxNameBytes < part.utf8ByteSize
      · simp only [if_neg hidle, if_neg hup, if_pos hlong]
        rfl
      simp only [if_neg hidle, if_neg hup, if_neg hlong]
      cases disk.entry? (location ++ [part]) with
      | none => rfl
      | some next => exact ih _ _

/-- **A name in a directory** is looked up where the directory is. -/
theorem walk_join (hn : IsName name) (p : Path) :
    walk disk [] .directory (p.join name).parts =
      walk disk [] .directory p.parts >>= fun r => walk disk r.1 r.2 [name] := by
  rcases Path.parts_join hn p with ⟨kept, hparts, hj⟩ | ⟨-, hj⟩
  · rw [hparts, hj, walk_append, walk_append, bind_assoc]
    refine congrArg (walk disk [] .directory kept >>= ·) (funext fun r => ?_)
    obtain ⟨place, entry⟩ := r
    cases entry <;> rfl
  · rw [hj, walk_append]

theorem walk_name (hn : IsName name) (hup : name ≠ "..")
    (hsize : name.utf8ByteSize ≤ maxNameBytes) (location : Location) :
    walk disk location .directory [name] =
      match disk.entry? (location ++ [name]) with
      | none => .error .missing
      | some entry => .ok (location ++ [name], entry) := by
  have hidle : ¬ isIdle name = true := by simp [hn.2]
  rw [walk, if_neg hidle, if_neg hup, if_neg (Nat.not_lt.2 hsize)]
  cases disk.entry? (location ++ [name]) <;> rfl

theorem find_of_textError?_eq_none {p : Path} (hp : p.text ≠ "") (h : textError? p = none) :
    disk.find p = disk.walk [] .directory p.parts := by
  rw [find, if_neg hp, h]

/-! ## Paths that are the same -/

theorem walk_filter (disk : Disk) (location : Location) (entry : DiskEntry)
    (parts : List String) :
    walk disk location entry parts = walk disk location entry (parts.filter (!isIdle ·)) ∨
      walk disk location entry parts = .error .notDirectory := by
  induction parts generalizing location entry with
  | nil => exact .inl rfl
  | cons part rest ih =>
    cases entry with
    | file content => exact .inr rfl
    | directory =>
      by_cases hidle : isIdle part = true
      · have hdrop : (part :: rest).filter (!isIdle ·) = rest.filter (!isIdle ·) := by simp [hidle]
        rw [hdrop, walk, if_pos hidle]
        exact ih location .directory
      have hkeep : (part :: rest).filter (!isIdle ·) = part :: rest.filter (!isIdle ·) := by
        simp [hidle]
      rw [hkeep, walk, walk, if_neg hidle, if_neg hidle]
      by_cases hup : part = ".."
      · rw [if_pos hup, if_pos hup]
        exact ih _ _
      by_cases hlong : maxNameBytes < part.utf8ByteSize
      · rw [if_neg hup, if_neg hup, if_pos hlong, if_pos hlong]
        exact .inl rfl
      rw [if_neg hup, if_neg hup, if_neg hlong, if_neg hlong]
      cases disk.entry? (location ++ [part]) with
      | none => exact .inl rfl
      | some next => exact ih _ _

theorem exists_walk_of_isFile {p : Path} (h : disk.isFile p = true) :
    ∃ place content, disk.walk [] .directory p.parts = .ok (place, .file content) := by
  unfold isFile at h
  split at h
  · next place content hfind =>
    refine ⟨place, content, ?_⟩
    unfold find at hfind
    split at hfind
    · cases hfind
    · split at hfind
      · cases hfind
      · exact hfind
  · cases h

theorem walk_eq_missing_of_find {p : Path} (hp : p.text ≠ "") (h : disk.find p = .error .missing) :
    disk.walk [] .directory p.parts = .error .missing := by
  rw [find, if_neg hp] at h
  split at h
  · next e he =>
    exfalso
    obtain rfl : e = .missing := by simpa using h
    unfold textError? at he
    split at he
    · cases he
    · split at he <;> cases he
  · exact h

/-- **A path does not miss what the same path finds.** -/
theorem find_ne_missing_of_same {p q : Path} (hsame : p.same q = true) (hp : p.text ≠ "")
    (hq : disk.isFile q = true) : disk.find p ≠ .error .missing := by
  intro hfind
  have hparts := Path.filter_parts_of_same hsame
  have hmissing := walk_eq_missing_of_find hp hfind
  obtain ⟨place, content, hfound⟩ := exists_walk_of_isFile hq
  have hp' := walk_filter disk [] .directory p.parts
  have hq' := walk_filter disk [] .directory q.parts
  simp only [hmissing, hfound, ← hparts, Except.error.injEq, reduceCtorEq, or_false] at hp' hq'
  rw [← hp'] at hq'
  cases hq'

/-! ## New files -/

/-- The second disk holds what the first one holds and maybe new files with the text. -/
def Adds (disk disk' : Disk) (text : String) : Prop :=
  ∀ location, disk'.entry? location = disk.entry? location ∨
    disk.entry? location = none ∧ disk'.entry? location = some (.file (some text))

theorem adds_put {location : Location} (h : disk.entry? location = none) :
    Adds disk (disk.put location (.file (some text))) text := by
  have hne : location ≠ [] := by
    rintro rfl
    cases h
  unfold entry? at h
  rw [if_neg hne] at h
  intro other
  unfold entry?
  by_cases hother : other = []
  · simp [hother]
  · simp only [if_neg hother, put, Dict.get?_insert]
    split
    · next hkey => exact .inr ⟨hkey ▸ h, rfl⟩
    · exact .inl rfl

namespace Adds

variable (h : Adds disk disk' text)
include h

theorem walk (location : Location) (entry : DiskEntry) (parts : List String) :
    disk'.walk location entry parts = disk.walk location entry parts ∨
      disk.walk location entry parts = .error .missing ∧
        (disk'.walk location entry parts = .error .notDirectory ∨
          ∃ place, disk'.walk location entry parts = .ok (place, .file (some text))) := by
  induction parts generalizing location entry with
  | nil => exact .inl rfl
  | cons part rest ih =>
    cases entry with
    | file content => exact .inl rfl
    | directory =>
      simp only [Disk.walk]
      by_cases hidle : isIdle part = true
      · simpa only [if_pos hidle] using ih location .directory
      by_cases hup : part = ".."
      · simpa only [if_neg hidle, if_pos hup] using ih location.dropLast .directory
      by_cases hlong : maxNameBytes < part.utf8ByteSize
      · simp only [if_neg hidle, if_neg hup, if_pos hlong, true_or]
      simp only [if_neg hidle, if_neg hup, if_neg hlong]
      rcases h (location ++ [part]) with hsame | ⟨hnone, hnew⟩
      · rw [hsame]
        cases disk.entry? (location ++ [part]) with
        | none => exact .inl rfl
        | some next => exact ih _ _
      · rw [hnone, hnew]
        refine .inr ⟨rfl, ?_⟩
        cases rest with
        | nil => exact .inr ⟨_, rfl⟩
        | cons next others => exact .inl rfl

/-- **A lookup gives what it gave before**, unless it meets a new file where there was nothing. -/
theorem find (p : Path) : disk'.find p = disk.find p ∨
    disk.find p = .error .missing ∧ (disk'.find p = .error .notDirectory ∨
      ∃ place, disk'.find p = .ok (place, .file (some text))) := by
  unfold Disk.find
  split
  · exact .inl rfl
  · split
    · exact .inl rfl
    · exact h.walk [] .directory p.parts

end Adds

/-! ## Writing -/

theorem text_join_ne (hn : IsName name) (p : Path) : (p.join name).text ≠ "" := by
  have hname : name ≠ "" := by
    rintro rfl
    exact absurd hn.2 (by decide)
  unfold Path.join
  split <;> simp [hname]

section
variable {location : Location} {entry : DiskEntry}

theorem entry?_put_self (h : location ≠ []) :
    entry? (disk.put location entry) location = some entry := by
  simp [ entry?, h, put, Dict.get?_insert_self]

theorem entry?_put_of_key_ne {other : Location} (h : key other ≠ key location) :
    entry? (disk.put location entry) other = disk.entry? other := by
  simp [ entry?, put, Dict.get?_insert_of_ne _ _ h.symm]

/-- What was put in the place of no directory leaves all directories. -/
theorem isDirectory_put (hne : location ≠ []) (hold : disk.entry? location ≠ some .directory)
    {other : Location} (h : disk.entry? other = some .directory) :
    entry? (disk.put location entry) other = some .directory := by
  by_cases hother : other = []
  · simp [ entry?, hother]
  by_cases hkey : key other = key location
  · have hsame : disk.entry? other = disk.entry? location := by
      rw [ entry?, entry?, if_neg hother, if_neg hne, hkey]
    exact absurd (hsame.symm.trans h) hold
  · rw [entry?_put_of_key_ne hkey, h]

/-- **A way through directories** leads to where it did while these stay. -/
theorem walk_directory {parts : List String} {place : Location}
    (hkept : ∀ other, disk.entry? other = some .directory → disk'.entry? other = some .directory)
    (h : disk.walk location entry parts = .ok (place, .directory)) :
    disk'.walk location entry parts = .ok (place, .directory) := by
  induction parts generalizing location entry with
  | nil => exact h
  | cons part rest ih =>
    cases entry with
    | file content => cases h
    | directory =>
      rw [walk] at h ⊢
      split at h
      · next hidle =>
        rw [if_pos hidle]
        exact ih h
      next hidle =>
      split at h
      · next hup =>
        rw [if_neg hidle, if_pos hup]
        exact ih h
      next hup =>
      split at h
      · cases h
      next hlong =>
      rw [if_neg hidle, if_neg hup, if_neg hlong]
      split at h
      · cases h
      next next hnext =>
      cases next with
      | directory =>
        rw [hkept _ hnext]
        exact ih h
      | file content => cases rest <;> cases h

/-- **Where a file is written**: the path leads there while all directories stay. -/
theorem exists_of_write (hn : IsName name) (hup : name ≠ "..")
    (hsize : name.utf8ByteSize ≤ maxNameBytes) {directory : Path}
    (h : disk.write directory name text = .ok disk') :
    ∃ location, location ≠ [] ∧ disk.entry? location ≠ some .directory ∧
      disk' = disk.put location (.file (some text)) ∧
      ∀ d : Disk,
        (∀ other, disk.entry? other = some .directory → d.entry? other = some .directory) →
        d.find (directory.join name) =
          match d.entry? location with
          | none => .error .missing
          | some entry => .ok (location, entry) := by
  unfold write at h
  split at h
  · cases h
  next htext =>
  split at h
  · cases h
  · cases h
  next place hwalk =>
  split at h
  · cases h
  next hold =>
  cases h
  refine ⟨place ++ [name], by simp, hold, rfl, fun d hkept => ?_⟩
  rw [find_of_textError?_eq_none (text_join_ne hn directory) htext, walk_join hn,
    walk_directory hkept hwalk]
  exact walk_name hn hup hsize place

end

/-- **A file that is written where nothing was** is there, and nothing else is new. -/
theorem adds_write (hn : IsName name) (hup : name ≠ "..")
    (hsize : name.utf8ByteSize ≤ maxNameBytes) {directory : Path}
    (hfree : disk.contains (directory.join name) = false)
    (h : disk.write directory name text = .ok disk') :
    Adds disk disk' text ∧ disk'.isFile (directory.join name) = true ∧
      disk'.read (directory.join name) = .ok text := by
  obtain ⟨location, hne, hold, rfl, hfind⟩ := exists_of_write hn hup hsize h
  have hnone : disk.entry? location = none := by
    rw [contains, hfind disk fun _ => id] at hfree
    cases hentry : disk.entry? location with
    | none => rfl
    | some entry =>
      rw [hentry] at hfree
      cases hfree
  have hfound := hfind (disk.put location (.file (some text))) fun _ => isDirectory_put hne hold
  rw [entry?_put_self hne] at hfound
  refine ⟨adds_put hnone, ?_, ?_⟩
  · rw [isFile, hfound]
  · rw [read, hfound]

/-- The second disk is the first one but for the text in the file at a path; it stands where there
was nothing, or in the place of the file that was there. -/
def ChangesOnly (disk disk' : Disk) (path : Path) (text : String) : Prop :=
  ∃ location, (disk.find path = .error .missing ∨
      ∃ content, disk.find path = .ok (location, .file content)) ∧
    disk'.find path = .ok (location, .file (some text)) ∧
    ∀ other, key other ≠ key location → disk'.entry? other = disk.entry? other

/-- **Writing a file** changes nothing else. -/
theorem changesOnly_write (hn : IsName name) (hup : name ≠ "..")
    (hsize : name.utf8ByteSize ≤ maxNameBytes) {directory : Path}
    (h : disk.write directory name text = .ok disk') :
    ChangesOnly disk disk' (directory.join name) text := by
  obtain ⟨location, hne, hold, rfl, hfind⟩ := exists_of_write hn hup hsize h
  refine ⟨location, ?_, ?_, fun other hkey => entry?_put_of_key_ne hkey⟩
  · rw [hfind disk fun _ => id]
    cases hentry : disk.entry? location with
    | none => exact .inl rfl
    | some entry =>
      cases entry with
      | directory => exact absurd hentry hold
      | file content => exact .inr ⟨content, rfl⟩
  · rw [hfind _ fun _ => isDirectory_put hne hold, entry?_put_self hne]

end SearchNotation.Disk
