/-!
# Templates of configuration files

A new configuration file shows examples of settings and defines none: every line that is not blank
is a comment.
-/

set_option autoImplicit false

namespace SearchNotation.Config

/-- The lines of a project's file. -/
def localLines : List String := [
  "# esq project configuration.",
  "#",
  "# Files named .esq.toml are discovered from the working directory upwards. Closer files",
  "# take precedence; ~/.esq.toml is read last.",
  "",
  "# Stop discovery at this file and ignore parent and global configs.",
  "root = false",
  "",
  "[search]",
  "# Page size for assembled requests.",
  "size = 10",
  "",
  "# Sort keys as \"field\" or \"field:asc\" / \"field:desc\". A single string is also accepted.",
  "sort = [\"_score:desc\"]",
  "",
  "# Scroll keep-alive in seconds for `esq request --scroll`.",
  "scroll_seconds = 60",
  "",
  "[kinds]",
  "# Query kinds to remove from the registry. Keys naming them fall back to field rules.",
  "disabled_queries = []",
  "",
  "# Aggregation kinds to remove from the registry. Keys naming them are dropped.",
  "disabled_aggregations = []"]

/-- The lines of the file in the home directory. -/
def globalLines : List String := [
  "# esq global configuration (~/.esq.toml).",
  "#",
  "# Lowest precedence: any .esq.toml between the working directory and the filesystem root",
  "# overrides these values.",
  "",
  "[search]",
  "# Page size for assembled requests.",
  "size = 10",
  "",
  "# Scroll keep-alive in seconds for `esq request --scroll`.",
  "scroll_seconds = 60",
  "",
  "[kinds]",
  "# Query kinds to remove from the registry everywhere.",
  "disabled_queries = []"]

/-- A line made a comment, unless it is blank or one already. -/
def commentLine (line : String) : String :=
  match line.toList with
  | [] | '#' :: _ => line
  | _ => "# " ++ line

/-- The text of lines that are all made comments. -/
def commentText (lines : List String) : String :=
  String.join (lines.map fun line => commentLine line ++ "\n")

/-- A new file of a project. -/
def localTemplate : String := commentText localLines

/-- A new file for the home directory. -/
def globalTemplate : String := commentText globalLines

end SearchNotation.Config
