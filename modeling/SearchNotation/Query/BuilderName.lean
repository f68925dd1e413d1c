import SearchNotation.Text.Case
import SearchNotation.Text.Split

/-!
# Names of query builders

The builder of a kind is named after it in mixed case: `match_phrase` becomes `matchPhraseQuery`.
The builder of `common` is named for the terms that it looks for.
-/

set_option autoImplicit false

namespace SearchNotation

namespace QueryKind

/-- A word in lower case with its first letter in upper case. -/
def capitalize (word : List Char) : List Char :=
  match Text.lowerChars word with
  | [] => []
  | first :: rest => Text.upperChar first ++ rest

/-- The text with its first letter in lower case. -/
def lowerFirst : List Char → List Char
  | [] => []
  | first :: rest => Text.lowerChar first ++ rest

/-- The name of the builder of a kind. -/
def builderName (kind : String) : String :=
  if kind = "common" then "commonTermsQuery"
  else
    let words := (Text.splitAt '_' kind.toList).flatMap capitalize
    String.ofList (lowerFirst (words ++ "Query".toList))

end QueryKind

end SearchNotation
