/-!
# Styles of terminal text

A style surrounds a text with the control sequences that turn it on and off again. Where the
output is no terminal, texts are left as they are.
-/

set_option autoImplicit false

namespace SearchNotation

/-- What a text is shown as. -/
inductive Style where
  | header
  | subheader
  | dim
  | success
  | warning
  | failure
  deriving DecidableEq, Repr

namespace Style

/-- The control sequence with a number. -/
def sequence (number : Nat) : String := "\x1b[" ++ toString number ++ "m"

/-- What turns every style off. -/
def reset : String := sequence 0

/-- What turns a style on. -/
def start : Style → String
  | .header => sequence 1 ++ sequence 36
  | .subheader => sequence 1
  | .dim => sequence 2
  | .success => sequence 32
  | .warning => sequence 33
  | .failure => sequence 31

/-- A text in a style. -/
def apply (style : Style) (text : String) : String := style.start ++ text ++ reset

/-- A text in a style where there are any. -/
def paint (enabled : Bool) (style : Style) (text : String) : String :=
  if enabled then style.apply text else text

end Style

end SearchNotation
