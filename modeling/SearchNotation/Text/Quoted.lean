import SearchNotation.Text.Extender
import SearchNotation.Text.Hexadecimal
import SearchNotation.Text.Hidden

/-!
# Quoted names

A name between quotes in which nothing is invisible: a character without a form of its own is
written by its code point, so that the name stays on its line and can be read back.
-/

set_option autoImplicit false

namespace SearchNotation.Text

/-- How a character is written inside a quoted name. -/
def quoteChar (c : Char) : List Char :=
  if c = '"' then ['\\', '"']
  else if c = '\\' then ['\\', '\\']
  else if c = '\n' then ['\\', 'n']
  else if c = '\r' then ['\\', 'r']
  else if c = '\t' then ['\\', 't']
  else if c = '\x00' then ['\\', '0']
  else if 0x20 ≤ c.toNat && c.toNat < 0x7F then [c]
  else if isExtender c || isHidden c then '\\' :: 'u' :: '\x7b' :: hexDigits c.toNat ++ ['\x7d']
  else [c]

/-- The characters of a name between quotes. -/
def quotedChars (name : String) : List Char := '"' :: name.toList.flatMap quoteChar ++ ['"']

/-- A name between quotes. -/
def quoted (name : String) : String := String.ofList (quotedChars name)

end SearchNotation.Text
