/-!
# Arguments

Arguments are options and values. A long option starts with two hyphens and a short one with one;
the value of an option follows it, or stands in the same argument, after an equals sign or right
after the letter of a short option. What follows two hyphens alone is a value. A value apart from
its option does not start with a hyphen, unless it is one.
-/

set_option autoImplicit false

namespace SearchNotation

/-- Whether an option has a value. -/
inductive OptionValue where
  | none
  | optional
  | required
  deriving DecidableEq, Repr

/-- An option that is understood. -/
structure OptionSpec where
  long : String
  short : Option Char := Option.none
  value : OptionValue := .none
  /-- Whether it may be given more than once. -/
  repeated : Bool := false
  deriving DecidableEq, Repr

/-- A part of a command line. -/
inductive Argument where
  | given (option : String) (value : Option String)
  | positional (text : String)
  deriving DecidableEq, Repr

namespace Argument

/-- What an argument may be by its hyphens. -/
inductive Shape where
  /-- The rest are values. -/
  | separator
  | long (name : List Char) (value : Option (List Char))
  | short (letter : Char) (value : Option (List Char))
  | value
  deriving DecidableEq, Repr

/-- The text after the first equals sign. -/
def afterEquals : List Char → Option (List Char)
  | [] => none
  | c :: rest => if c = '=' then some rest else afterEquals rest

/-- The shape of an argument. -/
def shape (text : List Char) : Shape :=
  match text with
  | ['-', '-'] => .separator
  | '-' :: '-' :: rest => .long (rest.takeWhile (· != '=')) (afterEquals rest)
  | ['-'] => .value
  | '-' :: letter :: [] => .short letter none
  | '-' :: letter :: '=' :: rest => .short letter (some rest)
  | '-' :: letter :: rest => .short letter (some rest)
  | _ => .value

/-- What is left of an option without its value. -/
def withoutValue (option : OptionSpec) : Option (List Argument) :=
  if option.value = .required then none else some [.given option.long none]

/-- The arguments of an option that waits for its value, where none comes. -/
def closed (waiting : Option OptionSpec) : Option (List Argument) :=
  match waiting with
  | none => some []
  | some option => withoutValue option

/-- An option with what stands in its argument: the finished part, or the option that waits. -/
def start (option : OptionSpec) (value : Option (List Char)) :
    Option (List Argument × Option OptionSpec) :=
  match option.value, value with
  | .none, none => some ([.given option.long none], none)
  | .none, some _ => none
  | _, some value => some ([.given option.long (some (String.ofList value))], none)
  | _, none => some ([], some option)

/-- Reads arguments, where an option may wait for its value. -/
def read (options : List OptionSpec) (waiting : Option OptionSpec) :
    List String → Option (List Argument)
  | [] => closed waiting
  | text :: rest =>
    match shape text.toList with
    | .separator => do
      let before ← closed waiting
      return before ++ rest.map .positional
    | .long name value => do
      let before ← closed waiting
      let option ← options.find? fun o => o.long = String.ofList name
      let (parts, waiting) ← start option value
      let others ← read options waiting rest
      return before ++ parts ++ others
    | .short letter value => do
      let before ← closed waiting
      let option ← options.find? fun o => o.short = some letter
      let (parts, waiting) ← start option value
      let others ← read options waiting rest
      return before ++ parts ++ others
    | .value => do
      let others ← read options none rest
      match waiting with
      | none => return .positional text :: others
      | some option => return .given option.long (some text) :: others

/-- How often an option is given. -/
def count (arguments : List Argument) (option : String) : Nat :=
  arguments.countP fun a => match a with
    | .given name _ => name = option
    | .positional _ => false

/-- Reads arguments, among which only repeated options are given twice. -/
def readAll (options : List OptionSpec) (texts : List String) : Option (List Argument) :=
  (read options none texts).filter fun arguments =>
    options.all fun o => o.repeated || count arguments o.long ≤ 1

/-- The values without options. -/
def positionals (arguments : List Argument) : List String :=
  arguments.filterMap fun a => match a with
    | .positional text => some text
    | .given .. => none

/-- Whether an option is given. -/
def has (arguments : List Argument) (option : String) : Bool := count arguments option != 0

/-- The values that an option is given, in their order. -/
def values (arguments : List Argument) (option : String) : List String :=
  arguments.filterMap fun a => match a with
    | .given name value => if name = option then value else none
    | .positional _ => none

/-- The value that an option is given. -/
def value? (arguments : List Argument) (option : String) : Option String :=
  (values arguments option).head?

end Argument

end SearchNotation
