/-!
# Spans of code points

A property of characters is kept as the list of the spans of code points that have it, in
increasing order.
-/

set_option autoImplicit false

namespace SearchNotation.Text

/-- The first and the last code point of a span. -/
abbrev Span := Nat × Nat

/-- Whether one of the spans holds a character; the spans are in increasing order. -/
def Span.covers : List Span → Char → Bool
  | [], _ => false
  | (first, last) :: rest, c =>
    if c.toNat < first then false else if c.toNat ≤ last then true else covers rest c

end SearchNotation.Text
