import SearchNotation.Config.Layer
import SearchNotation.Files.Disk

/-!
# Finding configuration files

Files are looked for from the working directory upward, up to one that says it is the root. If
none does, the file in the home directory comes last, unless it was found on the way.
-/

set_option autoImplicit false

namespace SearchNotation.Config

/-- The name of a configuration file. -/
def fileName : String := ".esq.toml"

/-- The file in the home directory. -/
def globalPath (home : Path) : Path := home.join fileName

/-- Whether a path is that of the file in the home directory. -/
def isGlobal (home : Option Path) (path : Path) : Bool :=
  home.any fun home => path.same (globalPath home)

/-- Whether the file at a path can be read and says that it is the root. -/
def isRootFile (disk : Disk) (path : Path) : Bool :=
  match disk.read path with
  | .ok text => (ConfigLayer.read? text).any fun layer => layer.root == some true
  | .error _ => false

/-- The files in directories up to a root file, and whether there is one. -/
def filesUpToRoot (disk : Disk) : List Path → List Path × Bool
  | [] => ([], false)
  | directory :: rest =>
    let path := directory.join fileName
    if disk.isFile path then
      if isRootFile disk path then ([path], true)
      else
        let (files, rooted) := filesUpToRoot disk rest
        (path :: files, rooted)
    else filesUpToRoot disk rest

/-- The file in the home directory, if it is there and not among the files. -/
def globalFile (disk : Disk) (home : Option Path) (files : List Path) : List Path :=
  (home.toList.map globalPath).filter fun path => disk.isFile path && !files.any path.same

/-- The files that apply in a working directory, the most important one first. -/
def discover (disk : Disk) (home : Option Path) (directory : Path) : List Path :=
  let (files, rooted) := filesUpToRoot disk directory.ancestors
  if rooted then files else files ++ globalFile disk home files

end SearchNotation.Config
