import SearchNotation.Dict
import SearchNotation.Files.Path

/-!
# Disks

A disk holds files and directories by their locations, the lists of names from the root. A path is
looked up name by name: two dots go up, and what a name is looked up in has to be a directory.
There are no links. A name has at most 255 bytes, and none has the character zero.
-/

set_option autoImplicit false

namespace SearchNotation

/-- What stands at a location. -/
inductive DiskEntry where
  | directory
  /-- A file with its text, or one that holds no valid text. -/
  | file (content : Option String)
  deriving DecidableEq, Repr

/-- Why a file was not read or written. -/
inductive DiskError where
  | missing
  | isDirectory
  | notDirectory
  | invalidText
  /-- A name, or the whole path, has too many bytes. -/
  | nameTooLong
  /-- The path has a character that no name has. -/
  | zeroCharacter
  deriving DecidableEq, Repr

/-- The wording of an error. -/
def DiskError.message : DiskError → String
  | .missing => "No such file or directory (os error 2)"
  | .isDirectory => "Is a directory (os error 21)"
  | .notDirectory => "Not a directory (os error 20)"
  | .invalidText => "stream did not contain valid UTF-8"
  | .nameTooLong => "File name too long (os error 36)"
  | .zeroCharacter => "file name contained an unexpected NUL byte"

/-- The names from the root to an entry. -/
abbrev Location := List String

/-- A disk: what stands at each location but the root, by the location's names with slashes. -/
structure Disk where
  entries : Dict DiskEntry
  deriving DecidableEq

namespace Disk

/-- How a location is written. -/
def key (location : Location) : String := "/".intercalate location

/-- What stands at a location. -/
def entry? (disk : Disk) (location : Location) : Option DiskEntry :=
  if location = [] then some .directory else Dict.get? disk.entries (key location)

/-- The number of bytes that a name may have. -/
def maxNameBytes : Nat := 255

/-- The number of bytes that a path may have. -/
def maxPathBytes : Nat := 4095

/-- Goes on from an entry through the parts of a path. -/
def walk (disk : Disk) (location : Location) (entry : DiskEntry) :
    List String → Except DiskError (Location × DiskEntry)
  | [] => .ok (location, entry)
  | part :: rest =>
    match entry with
    | .file _ => .error .notDirectory
    | .directory =>
      if Path.isIdle part then walk disk location .directory rest
      else if part = ".." then walk disk location.dropLast .directory rest
      else if maxNameBytes < part.utf8ByteSize then .error .nameTooLong
      else
        match disk.entry? (location ++ [part]) with
        | none => .error .missing
        | some entry => walk disk (location ++ [part]) entry rest

/-- Why nothing is looked up under a text, whatever the disk holds. -/
def textError? (path : Path) : Option DiskError :=
  if path.text.toList.contains '\x00' then some .zeroCharacter
  else if maxPathBytes < path.text.utf8ByteSize then some .nameTooLong
  else none

/-- Looks up a path; one that does not start at the root is taken from there too. -/
def find (disk : Disk) (path : Path) : Except DiskError (Location × DiskEntry) :=
  if path.text = "" then .error .missing
  else
    match textError? path with
    | some e => .error e
    | none => disk.walk [] .directory path.parts

/-- Whether there is something at a path. -/
def contains (disk : Disk) (path : Path) : Bool := (disk.find path).isOk

/-- Whether there is a file at a path. -/
def isFile (disk : Disk) (path : Path) : Bool :=
  match disk.find path with
  | .ok (_, .file _) => true
  | _ => false

/-- The text of the file at a path. -/
def read (disk : Disk) (path : Path) : Except DiskError String :=
  match disk.find path with
  | .error e => .error e
  | .ok (_, .directory) => .error .isDirectory
  | .ok (_, .file none) => .error .invalidText
  | .ok (_, .file (some text)) => .ok text

/-- Puts an entry at a location. -/
def put (disk : Disk) (location : Location) (entry : DiskEntry) : Disk :=
  ⟨Dict.insert disk.entries (key location) entry⟩

/-- Writes the file with a name in a directory, in place of what it held. -/
def write (disk : Disk) (directory : Path) (name text : String) : Except DiskError Disk :=
  match textError? (directory.join name) with
  | some e => .error e
  | none =>
    match disk.walk [] .directory directory.parts with
    | .error e => .error e
    | .ok (_, .file _) => .error .notDirectory
    | .ok (location, .directory) =>
      match disk.entry? (location ++ [name]) with
      | some .directory => .error .isDirectory
      | _ => .ok (disk.put (location ++ [name]) (.file (some text)))

/-- The files that hold another text than on an older disk, by the names of their locations. -/
def changes (disk old : Disk) : List (String × String) :=
  disk.entries.filterMap fun e =>
    match e.2 with
    | .file (some text) => if Dict.get? old.entries e.1 = some e.2 then none else some (e.1, text)
    | _ => none

/-- Makes a directory and those that it stands in, over what was there. -/
def makeDirectory (disk : Disk) (location : Location) : Disk :=
  ((List.range location.length).map fun n => location.take (n + 1)).foldl
    (fun disk location => disk.put location .directory) disk

end Disk

end SearchNotation
