import SearchNotation.Config.Layer
import SearchNotation.Files.Path
import SearchNotation.Request.Basic
import SearchNotation.Toml.Writer

/-!
# Settings

The settings in effect are merged from the layers of several files, the most important one first.
A setting is that of the first layer that defines it, with a whole list of sort keys as one
setting; the names that any layer disables are all disabled. `Config.settingsText` writes settings
as a file that defines all of them.
-/

set_option autoImplicit false

namespace SearchNotation

/-- The defaults of requests. -/
structure SearchSettings where
  size : Nat := Request.defaultSize
  sort : List String := []
  scrollSeconds : Nat := 60
  deriving DecidableEq, Repr

/-- The kinds that are not in use. -/
structure KindSettings where
  disabledQueries : List String := []
  disabledAggregations : List String := []
  deriving DecidableEq, Repr

/-- All settings. -/
structure Config where
  search : SearchSettings := {}
  kinds : KindSettings := {}
  /-- The directory of the most important file. -/
  root : Option Path := none
  deriving DecidableEq, Repr

/-- A layer and the file that defines it. -/
structure LayerFile where
  path : Path
  layer : ConfigLayer
  deriving DecidableEq, Repr

namespace Config

/-! ## Merging -/

/-- What the first file that defines a setting gives it. -/
def firstDefined {α : Type} (files : List LayerFile) (setting : ConfigLayer → Option α) :
    Option α :=
  files.findSome? fun f => setting f.layer

/-- The names with further ones appended that are not among them. -/
def addNew (names further : List String) : List String :=
  further.foldl (fun names name => if names.contains name then names else names ++ [name]) names

/-- All names that the files list, each where it comes first. -/
def allListed (files : List LayerFile) (list : KindLayer → Option (List String)) : List String :=
  files.foldl (fun names f => addNew names ((f.layer.kinds.bind list).getD [])) []

/-- The settings about searches. -/
def mergeSearch (files : List LayerFile) : SearchSettings :=
  let setting {α : Type} (f : SearchLayer → Option α) : Option α :=
    firstDefined files fun layer => layer.search.bind f
  let standard : SearchSettings := {}
  { size := (setting (·.size)).getD standard.size
    sort := (setting (·.sort)).getD standard.sort
    scrollSeconds := (setting (·.scrollSeconds)).getD standard.scrollSeconds }

/-- The settings about kinds. -/
def mergeKinds (files : List LayerFile) : KindSettings :=
  { disabledQueries := allListed files (·.disabledQueries)
    disabledAggregations := allListed files (·.disabledAggregations) }

/-- The settings of files, the most important one first. -/
def merge (files : List LayerFile) : Config :=
  { search := mergeSearch files, kinds := mergeKinds files
    root := files.head?.bind fun f => f.path.parent? }

/-! ## Text -/

/-- The settings as the text of a file. -/
def settingsText (config : Config) : String :=
  Toml.headerLine "search"
    ++ Toml.entryLine "size" (toString config.search.size)
    ++ Toml.entryLine "sort" (Toml.stringsText config.search.sort)
    ++ Toml.entryLine "scroll_seconds" (toString config.search.scrollSeconds)
    ++ "\n"
    ++ Toml.headerLine "kinds"
    ++ Toml.entryLine "disabled_queries" (Toml.stringsText config.kinds.disabledQueries)
    ++ Toml.entryLine "disabled_aggregations" (Toml.stringsText config.kinds.disabledAggregations)

end Config

end SearchNotation
