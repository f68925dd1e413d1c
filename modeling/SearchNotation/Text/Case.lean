import SearchNotation.Text.Case.Cased
import SearchNotation.Text.Case.Ignorable
import SearchNotation.Text.Case.Mapping

/-!
# Changing the case of a text

The full mappings, in which one character may become several. A capital sigma becomes the final
small sigma at the end of a word, that is after a letter and not before one, where characters that
do not part a word are passed over.
-/

set_option autoImplicit false

namespace SearchNotation.Text

/-- The lower case of a character by itself. -/
def lowerChar (c : Char) : List Char :=
  if c.toNat < 0x80 then [c.toLower]
  else if c = 'İ' then ['i', '\u0307']
  else
    match CaseRun.image? lowerRuns c.toNat with
    | some image => [Char.ofNat image]
    | none => [c]

/-- The upper case of a character. -/
def upperChar (c : Char) : List Char :=
  if c.toNat < 0x80 then [c.toUpper]
  else
    match upperExpansions.lookup c.toNat with
    | some image => image.map Char.ofNat
    | none =>
      match CaseRun.image? upperRuns c.toNat with
      | some image => [Char.ofNat image]
      | none => [c]

/-- Whether a letter comes next, passing over what does not part a word. -/
def letterFollows (text : List Char) : Bool :=
  match text.dropWhile isCaseIgnorable with
  | [] => false
  | c :: _ => isCased c

/-- The lower case of a text after `before`, whose last character comes first. -/
def lowerAfter (before : List Char) : List Char → List Char
  | [] => []
  | c :: rest =>
    let image :=
      if c = 'Σ' then
        [if letterFollows before && !letterFollows rest then 'ς' else 'σ']
      else lowerChar c
    image ++ lowerAfter (c :: before) rest

/-- The lower case of a text. -/
def lowerChars (text : List Char) : List Char := lowerAfter [] text

end SearchNotation.Text
