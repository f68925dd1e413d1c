import SearchNotation.Proofs.Config.NewFile

/-!
# What commands leave behind

A command that fails prints nothing but its error and leaves every file as it was
(`Outcome.Fails`). A report shows something or fails (`run_report`); a new configuration file is
written at the path that `Session.newFile?` names, or the command fails (`runInit_cases`).

The main statement is `run_leaves`, for every command, disk, directory, home and input.
-/

set_option autoImplicit false

namespace SearchNotation

/-- A failure with its error alone, and the disk as it was. -/
def Outcome.Fails (session : Session) (outcome : Outcome) : Prop :=
  ∃ errors, outcome = ⟨.failure, "", errors, session.disk⟩

/-- A success with its output alone, and the disk as it was. -/
def Outcome.Shows (session : Session) (outcome : Outcome) : Prop :=
  ∃ output, outcome = Outcome.ok session output

/-- A success with the disk on which a file was written at a path, over an old one only by force. -/
def Outcome.Writes (session : Session) (path : Path) (force : Bool) (outcome : Outcome) : Prop :=
  ∃ output disk text, outcome = ⟨.success, output, "", disk⟩ ∧
    (force = false → session.disk.contains path = false) ∧
    Disk.ChangesOnly session.disk disk path text

namespace Session

variable (session : Session)

/-! ## Reports -/

/-- **A report shows something or fails.** -/
theorem run_report (report : Report) : (session.run (.report report)).Shows session ∨
    (session.run (.report report)).Fails session := by
  rw [run]
  cases Config.load session.disk session.home session.directory with
  | error e => exact .inr ⟨_, rfl⟩
  | ok config =>
    cases hresult : reportText session config report with
    | ok output => exact .inl ⟨output, by simp only [hresult]; rfl⟩
    | error message => exact .inr ⟨_, by simp only [hresult]; rfl⟩

/-! ## New configuration files -/

/-- **A new file of a directory** is written, or the command fails. -/
theorem initIn_cases (directory : Path) (template : String) (force : Bool) :
    (initIn session directory template force).Writes session
        (directory.join Config.fileName) force ∨
      (initIn session directory template force).Fails session := by
  rw [initIn]
  by_cases hold : (session.disk.contains (directory.join Config.fileName) && !force) = true
  · exact .inr ⟨_, if_pos hold⟩
  simp only [if_neg hold]
  cases hwrite : session.disk.write directory Config.fileName template with
  | error e => exact .inr ⟨_, rfl⟩
  | ok disk =>
    refine .inl ⟨_, disk, template, rfl, ?_, ?_⟩
    · rintro rfl
      simpa using hold
    · exact Disk.changesOnly_write isName_fileName (by decide) (by decide) hwrite

/-- **The new file** is that of the home directory or of the working directory. -/
theorem runInit_cases (global force : Bool) :
    (∃ path, session.newFile? global = some path ∧
        (runInit session global force).Writes session path force) ∨
      (runInit session global force).Fails session := by
  rw [newFile?, ← isHome_eq, runInit]
  by_cases hhome : (global || isHome session) = true
  · rw [if_pos hhome, if_pos hhome]
    cases session.home with
    | none => exact .inr ⟨_, rfl⟩
    | some home =>
      rcases initIn_cases session home Config.globalTemplate force with hwrites | hfails
      · exact .inl ⟨_, rfl, hwrites⟩
      · exact .inr hfails
  · rw [if_neg hhome, if_neg hhome]
    rcases initIn_cases session session.directory Config.localTemplate force with hwrites | hfails
    · exact .inl ⟨_, rfl, hwrites⟩
    · exact .inr hfails

/-! ## All commands -/

/-- How every command ends. -/
theorem run_cases (command : Command) :
    (∀ global force, command ≠ .init global force) ∧ (session.run command).Shows session ∨
      (session.run command).Fails session ∨
      ∃ global force path, command = .init global force ∧ session.newFile? global = some path ∧
        (session.run command).Writes session path force := by
  cases command with
  | version => exact .inl ⟨nofun, _, rfl⟩
  | report report =>
    rcases run_report session report with hshows | hfails
    · exact .inl ⟨nofun, hshows⟩
    · exact .inr (.inl hfails)
  | init global force =>
    rcases runInit_cases session global force with ⟨path, hpath, hwrites⟩ | hfails
    · exact .inr (.inr ⟨global, force, path, rfl, hpath, hwrites⟩)
    · exact .inr (.inl hfails)

/-- **A failing command leaves nothing behind**: no output and every file as it was. Only a new
configuration file changes the disk, and when it is written only the path changes that is that of
the home directory if this is asked for or worked in, or else that of the working directory; nothing
stood there unless it is forced. -/
theorem run_leaves (session : Session) (command : Command) :
    ((session.run command).exit = .failure →
      (session.run command).output = "" ∧ (session.run command).disk = session.disk) ∧
    ((session.run command).disk ≠ session.disk → ∃ global force, command = .init global force) ∧
    ∀ global force, command = .init global force → (session.run command).exit = .success →
      ∃ path text, session.newFile? global = some path ∧
        (force = false → session.disk.contains path = false) ∧
        Disk.ChangesOnly session.disk (session.run command).disk path text := by
  rcases run_cases session command with
    ⟨hno, output, hrun⟩ | ⟨errors, hrun⟩ |
      ⟨global, force, path, rfl, hpath, output, disk, text, hrun, hforce, hchanges⟩
  · rw [hrun]
    exact ⟨fun h => (nomatch h), fun h => absurd rfl h, fun _ _ h => absurd h (hno _ _)⟩
  · rw [hrun]
    exact ⟨fun _ => ⟨rfl, rfl⟩, fun h => absurd rfl h, fun _ _ _ h => nomatch h⟩
  · rw [hrun]
    refine ⟨fun h => (nomatch h), fun _ => ⟨global, force, rfl⟩, fun g f h _ => ?_⟩
    cases h
    exact ⟨path, text, hpath, hforce, hchanges⟩

/-- A working directory that is the home directory and has a file already. -/
def homeSession : Session where
  disk := ⟨[("home", .directory), ("home/.esq.toml", .file (some "size = 3\n"))]⟩
  directory := ⟨"/home"⟩
  home := some ⟨"/home/"⟩
  input := .terminal

/-- The file in the home directory is kept, and overwritten by force alone. -/
theorem run_leaves_old_file :
    (homeSession.run (.init false false)).output = "" ∧
      (homeSession.run (.init false false)).disk = homeSession.disk ∧
      ∃ text, Disk.ChangesOnly homeSession.disk (homeSession.run (.init false true)).disk
        ⟨"/home/.esq.toml"⟩ text := by
  have hfails : (homeSession.run (.init false false)).exit = .failure := by decide +kernel
  have hok : (homeSession.run (.init false true)).exit = .success := by decide +kernel
  obtain ⟨houtput, hdisk⟩ := (run_leaves homeSession (.init false false)).1 hfails
  obtain ⟨path, text, hpath, -, hchanges⟩ :=
    (run_leaves homeSession (.init false true)).2.2 false true rfl hok
  have hhome : homeSession.newFile? false = some ⟨"/home/.esq.toml"⟩ := by decide +kernel
  obtain rfl : path = ⟨"/home/.esq.toml"⟩ := Option.some.inj (hpath.symm.trans hhome)
  exact ⟨houtput, hdisk, text, hchanges⟩

end Session

end SearchNotation
