import SearchNotation.Config.Discovery
import SearchNotation.Config.Settings

/-!
# Loading the configuration

The files that apply are read in their order, and the first one that fails fails all.
-/

set_option autoImplicit false

namespace SearchNotation

/-- Why there is no configuration. -/
inductive ConfigError where
  | unreadable (path : Path) (cause : DiskError)
  | malformed (path : Path)
  | noHome
  deriving DecidableEq, Repr

/-- The message of an error. -/
def ConfigError.message : ConfigError → String
  | .unreadable path cause => s!"failed to read config file {path.text}: {cause.message}"
  | .malformed path => s!"failed to parse config file {path.text}: TOML parse error"
  | .noHome => "could not determine home directory"

namespace Config

/-- The layer that a text defines as the file at a path. -/
def readLayer (path : Path) (text : String) : Except ConfigError LayerFile :=
  match ConfigLayer.read? text with
  | some layer => .ok ⟨path, layer⟩
  | none => .error (.malformed path)

/-- Reads the file at a path. -/
def readFile (disk : Disk) (path : Path) : Except ConfigError LayerFile :=
  match disk.read path with
  | .ok text => readLayer path text
  | .error e => .error (.unreadable path e)

/-- The configuration of files, the most important one first. -/
def loadFiles (disk : Disk) (paths : List Path) : Except ConfigError Config :=
  (paths.mapM (readFile disk)).map merge

/-- The configuration that applies in a working directory. -/
def load (disk : Disk) (home : Option Path) (directory : Path) : Except ConfigError Config :=
  loadFiles disk (discover disk home directory)

end Config

end SearchNotation
