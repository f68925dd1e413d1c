import SearchNotation.Command.Arguments
import SearchNotation.Command.Basic

/-!
# Reading command lines

`Command.ofArguments?` gives the command that a list of arguments stands for, and nothing where the
arguments are wrong: a command or option that there is not, one value too few or too many, an
option given twice, a number that is none or sort keys that are none.
-/

set_option autoImplicit false

namespace SearchNotation

namespace Command

/-- The first number that an option does not take. -/
def countEnd : Nat := Nat.pow 2 64

/-- The number that a text of digits is, which may have a plus sign in front. -/
def count? (text : String) : Option Nat :=
  let digits := match text.toList with
    | '+' :: rest => rest
    | chars => chars
  if digits.isEmpty || !digits.all Char.isDigit then none
  else
    let n := digits.foldl (fun n c => n * 10 + (c.toNat - '0'.toNat)) 0
    if n < countEnd then some n else none

/-- The number that an option is given, if it is given; fails at a value that is none. -/
def optionalCount? (arguments : List Argument) (option : String) : Option (Option Nat) :=
  match Argument.value? arguments option with
  | none => some none
  | some text => (count? text).map some

/-! ## Options -/

/-- The options of showing a compiled notation. -/
def displayOptions : List OptionSpec :=
  [⟨"tree", none, .none, false⟩, ⟨"compact", none, .none, false⟩]

/-- The options of a request. -/
def requestOptions : List OptionSpec := [
  ⟨"query", some 'q', .required, false⟩,
  ⟨"aggs", some 'a', .required, false⟩,
  ⟨"size", some 'n', .required, false⟩,
  ⟨"from", none, .required, false⟩,
  ⟨"scroll", none, .optional, false⟩,
  ⟨"sort", some 's', .required, true⟩,
  ⟨"include", none, .required, true⟩,
  ⟨"exclude", none, .required, true⟩,
  ⟨"compact", none, .none, false⟩]

/-- The options of a new configuration file. -/
def initOptions : List OptionSpec := [⟨"global", none, .none, false⟩, ⟨"force", none, .none, false⟩]

/-- The option of listing kinds. -/
def kindOptions : List OptionSpec := [⟨"json", none, .none, false⟩]

/-! ## Commands -/

/-- A notation and how it is shown. -/
def notation? (texts : List String) : Option (String × Display) := do
  let arguments ← Argument.readAll displayOptions texts
  match Argument.positionals arguments with
  | [text] =>
    return (text, ⟨Argument.has arguments "tree", Argument.has arguments "compact"⟩)
  | _ => none

/-- The scroll cursor that is asked for, if there is one. -/
def scroll? (arguments : List Argument) : Option (Option ScrollOption) :=
  if !Argument.has arguments "scroll" then some none
  else
    match Argument.value? arguments "scroll" with
    | none => some (some .configured)
    | some text => (count? text).map fun n => some (.seconds n)

/-- A request. -/
def request? (texts : List String) : Option RequestOptions := do
  let arguments ← Argument.readAll requestOptions texts
  let index ← match Argument.positionals arguments with
    | [index] => some index
    | _ => none
  let size ← optionalCount? arguments "size"
  let offset ← optionalCount? arguments "from"
  let scroll ← scroll? arguments
  let sort ← (Argument.values arguments "sort").mapM fun text => (SortKey.parse text).toOption
  return {
    index, size, scroll, sort
    query := Argument.value? arguments "query"
    aggregations := Argument.value? arguments "aggs"
    offset := offset.getD 0
    includes := Argument.values arguments "include"
    excludes := Argument.values arguments "exclude"
    compact := Argument.has arguments "compact" }

/-- The family with the name of a list. -/
def family? : String → Option Family
  | "queries" => some .query
  | "aggregations" => some .aggregation
  | _ => none

/-- The options of a list of kinds; the answer says whether it is shown as JSON. -/
def listed? (texts : List String) : Option Bool := do
  let arguments ← Argument.readAll kindOptions texts
  if (Argument.positionals arguments).isEmpty then some (Argument.has arguments "json") else none

/-- A list of kinds; options stand before the name of a family or after it. -/
def kinds? (before : List String) : List String → Option Report
  | [] => (listed? before).map (.kinds none)
  | text :: rest =>
    match family? text with
    | some family => do
      let json ← listed? before
      let json' ← listed? rest
      if before.contains "--" then none else some (.kinds (some family) (json || json'))
    | none => kinds? (before ++ [text]) rest

/-- A new configuration file. -/
def init? (texts : List String) : Option Command := do
  let arguments ← Argument.readAll initOptions texts
  if (Argument.positionals arguments).isEmpty then
    some (.init (Argument.has arguments "global") (Argument.has arguments "force"))
  else none

/-- The settings, which are shown without options. -/
def settings? (texts : List String) : Option Report := do
  let arguments ← Argument.readAll [] texts
  if arguments.isEmpty then some .settings else none

/-- Whether an argument asks for the version. -/
def isVersion (text : String) : Bool :=
  text == "--version" ||
    match text.toList with
    | '-' :: 'V' :: _ => true
    | _ => false

/-- The command that arguments stand for. -/
def ofArguments? : List String → Option Command
  | [] => none
  | "query" :: rest => (notation? rest).map fun n => .report (.query n.1 n.2)
  | "aggs" :: rest => (notation? rest).map fun n => .report (.aggregations n.1 n.2)
  | "request" :: rest => (request? rest).map fun options => .report (.request options)
  | "kinds" :: rest => (kinds? [] rest).map .report
  | "config" :: rest => (settings? rest).map .report
  | "init" :: rest => init? rest
  | text :: _ => if isVersion text then some .version else none

end Command

end SearchNotation
