import SearchNotation.Aggregation.Compile
import SearchNotation.Command.Listing
import SearchNotation.Command.Reader
import SearchNotation.Config.Load
import SearchNotation.Config.Template
import SearchNotation.Json.Writer
import SearchNotation.Query.Compile

/-!
# Running commands

A command takes a session, the disk and what else it can see, to an outcome: what it prints, how
it ends, and the disk after it. A command that fails prints nothing but its error, and only a new
configuration file changes the disk.
-/

set_option autoImplicit false

namespace SearchNotation

/-- The standard input. -/
inductive Input where
  | text (content : String)
  /-- It holds no valid text. -/
  | invalid
  /-- Someone would have to type it. -/
  | terminal
  deriving DecidableEq, Repr

/-- What a command can see. -/
structure Session where
  disk : Disk
  /-- The working directory. -/
  directory : Path
  home : Option Path
  input : Input

/-- How a command ends. -/
inductive Exit where
  | success
  | failure
  /-- The arguments are wrong. -/
  | usage
  deriving DecidableEq, Repr

/-- The exit code. -/
def Exit.code : Exit → Nat
  | .success => 0
  | .failure => 1
  | .usage => 2

/-- What a command leaves. -/
structure Outcome where
  exit : Exit
  /-- The standard output. -/
  output : String
  /-- The standard error output. -/
  errors : String
  disk : Disk

namespace Outcome

/-- A success with its output. -/
def ok (session : Session) (output : String) : Outcome := ⟨.success, output, "", session.disk⟩

/-- A failure with its message. -/
def fail (session : Session) (message : String) : Outcome :=
  ⟨.failure, "", "error: " ++ message ++ "\n", session.disk⟩

/-- What the answer of a fallible step leaves. -/
def ofExcept (session : Session) : Except String String → Outcome
  | .ok output => ok session output
  | .error message => fail session message

end Outcome

namespace Session

/-! ## Notations -/

/-- The text of a notation, which the standard input may hold. -/
def notationText (session : Session) (text : String) : Except String String :=
  if text ≠ inputMark then .ok text
  else
    match session.input with
    | .text content => .ok content
    | .invalid => .error ("failed to read stdin: " ++ DiskError.invalidText.message)
    | .terminal => .error "expected notation on stdin"

/-- The query that a text stands for. -/
def readQuery (session : Session) (registry : Registry) (text : String) : Except String Query := do
  let text ← notationText session text
  match (Query.compileText registry.queries (some text)).result with
  | .ok query => return query
  | .error e => throw ("invalid query: " ++ e.message)

/-- The aggregations that a text stands for. -/
def readAggregations (session : Session) (registry : Registry) (text : String) :
    Except String (List Aggregation) := do
  let text ← notationText session text
  match (Aggregation.compileText registry (some text)).result with
  | .ok aggregations => return aggregations
  | .error e => throw ("invalid aggregations: " ++ e.message)

/-- JSON with a line break at its end. -/
def jsonText (compact : Bool) (json : Json) : String :=
  (if compact then json.compact else json.pretty) ++ "\n"

/-- The query of a notation, as it is shown. -/
def queryText (session : Session) (registry : Registry) (text : String) (display : Display) :
    Except String String := do
  let query ← readQuery session registry text
  return if display.tree then query.text else jsonText display.compact query.toJson

/-- The aggregations of a notation, as they are shown. -/
def aggregationsText (session : Session) (registry : Registry) (text : String)
    (display : Display) : Except String String := do
  let aggregations ← readAggregations session registry text
  return if display.tree then
      if aggregations.isEmpty then "(no aggregations)\n"
      else String.join (aggregations.map Aggregation.text)
    else jsonText display.compact (Aggregation.siblingsToJson aggregations)

/-! ## Requests -/

/-- The sort keys of a request: those that are given, or else the configured ones. -/
def sortKeys (options : RequestOptions) (settings : SearchSettings) :
    Except InvalidSort (List SortKey) :=
  if options.sort.isEmpty then settings.sort.mapM SortKey.parse else .ok options.sort

/-- The seconds of the scroll cursor that is asked for. -/
def scrollSeconds (settings : SearchSettings) : ScrollOption → Nat
  | .configured => settings.scrollSeconds
  | .seconds n => n

/-- The request with the options in place of the settings. -/
def applyOptions (options : RequestOptions) (settings : SearchSettings) (request : Request) :
    Except InvalidSort Request := do
  let sort ← sortKeys options settings
  let request := (((request.setSize (options.size.getD settings.size)).setOffset
    options.offset).addIncludes options.includes).addExcludes options.excludes
  let request := sort.foldl Request.addSort request
  match options.scroll with
  | none => return request
  | some scroll => return request.setScroll (Request.second * scrollSeconds settings scroll)

/-- The request as it is sent: where, with which parameters, and with which body. -/
def requestJson (request : Request) : Json :=
  .object (Dict.ofList [("index", .string request.index),
    ("params", .object (request.scrollParam.toList.map fun s => ("scroll", .string s))),
    ("body", request.toBody)])

/-- The request that options stand for, as it is shown. -/
def requestText (session : Session) (registry : Registry) (settings : SearchSettings)
    (options : RequestOptions) : Except String String := do
  if options.query = some inputMark ∧ options.aggregations = some inputMark then
    throw "only one of --query and --aggs can read stdin"
  let query ← match options.query with
    | some text => readQuery session registry text
    | none => pure .matchAll
  let aggregations ← match options.aggregations with
    | some text => readAggregations session registry text
    | none => pure []
  match applyOptions options settings
      ((Request.new options.index query).setAggregations aggregations) with
  | .ok request => return jsonText options.compact (requestJson request)
  | .error e => throw ("invalid sort in configuration: " ++ e.message)

/-! ## Configuration -/

/-- The files that apply, as comments, and the settings that they give. -/
def configText (session : Session) (config : Config) : String :=
  let files := Config.discover session.disk session.home session.directory
  let names := if files.isEmpty then ["(none, using defaults)"] else files.map (·.text)
  "# Config files (highest precedence first):\n"
    ++ String.join (names.map fun name => "#   " ++ name ++ "\n")
    ++ "\n" ++ config.settingsText

/-- Whether the working directory is the home directory. -/
def isHome (session : Session) : Bool :=
  session.home.any fun home => ((Config.globalPath home).parent?).any session.directory.same

/-- Writes a new configuration file of a directory, over an old one only by force. -/
def initIn (session : Session) (directory : Path) (template : String) (force : Bool) : Outcome :=
  let path := directory.join Config.fileName
  if session.disk.contains path && !force then
    let problem := s!"error: configuration file already exists: {path.text}\n"
    ⟨.failure, "", problem ++ "use --force to overwrite\n", session.disk⟩
  else
    match session.disk.write directory Config.fileName template with
    | .ok disk => ⟨.success, s!"Created {path.text}\n", "", disk⟩
    | .error e => Outcome.fail session s!"failed to write {path.text}: {e.message}"

/-- Writes a new configuration file, that of the home directory if it is asked for or worked in. -/
def runInit (session : Session) (global force : Bool) : Outcome :=
  if global || isHome session then
    match session.home with
    | some home => initIn session home Config.globalTemplate force
    | none => Outcome.fail session ConfigError.noHome.message
  else initIn session session.directory Config.localTemplate force

/-! ## All commands -/

/-- The standard kinds without those that a configuration disables. -/
def registryOf (config : Config) : Registry :=
  (Registry.standardWithout config.kinds.disabledQueries config.kinds.disabledAggregations).1

/-- What a report shows under a configuration, or its error. -/
def reportText (session : Session) (config : Config) : Report → Except String String
  | .query text display => queryText session (registryOf config) text display
  | .aggregations text display => aggregationsText session (registryOf config) text display
  | .request options => requestText session (registryOf config) config.search options
  | .kinds family true => .ok (jsonText false (Listing.json (registryOf config) family))
  | .kinds family false => .ok (Listing.text (registryOf config) family)
  | .settings => .ok (configText session config)

/-- The version of the program. -/
def versionText : String := "esq 0.1.0\n"

/-- Runs a command. -/
def run (session : Session) : Command → Outcome
  | .version => Outcome.ok session versionText
  | .init global force => runInit session global force
  | .report report =>
    match Config.load session.disk session.home session.directory with
    | .ok config => Outcome.ofExcept session (reportText session config report)
    | .error e => Outcome.fail session ("failed to load configuration: " ++ e.message)

/-- Runs the command that arguments stand for. -/
def runArguments (session : Session) (arguments : List String) : Outcome :=
  match Command.ofArguments? arguments with
  | some command => run session command
  | none => ⟨.usage, "", "error: the arguments are not understood\n", session.disk⟩

end Session

end SearchNotation
