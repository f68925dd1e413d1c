import SearchNotation.Decimal.Binary64

/-!
# Numbers of JSON

A number is an integer of at most 64 bits or a finite floating point value. The two never mix: a
number with a point or an exponent, one outside the integers, and `-0` are floating point, and
what is written for them always shows it.
-/

set_option autoImplicit false

namespace SearchNotation.Json

/-- A number of JSON. -/
inductive Number where
  /-- An integer from `-2 ^ 63` up to `2 ^ 64 - 1`. -/
  | int (value : Int)
  /-- Any other number. -/
  | real (value : Binary64)
  deriving DecidableEq, Repr

namespace Number

/-- The first integer that is too large. -/
def intEnd : Nat := Nat.pow 2 64

/-- The magnitude of the least integer. -/
def minIntMagnitude : Nat := Nat.pow 2 63

/-- The same number, with positive zero in place of negative zero. -/
def withoutZeroSign : Number → Number
  | .int n => .int n
  | .real x => .real (if x.isZero then .zero false else x)

/-! ## Text -/

/-- How floating point values are written. -/
structure RealFormat where
  /-- The least exponent of the leading digit that is written with a plain point. -/
  minPlain : Int
  /-- The first exponent of the leading digit that is no longer written so. -/
  plainEnd : Int

/-- A plain point from `1e-5` to below `1e16`, an exponent with its sign elsewhere. -/
def realFormat : RealFormat := ⟨-5, 16⟩

/-- The digits with a point after the first `whole` of them; neither side stays empty. -/
def withPoint (digits : String) (whole : Int) : String :=
  let length : Int := digits.length
  if whole ≤ 0 then "0." ++ String.ofList (List.replicate (-whole).toNat '0') ++ digits
  else if length ≤ whole then
    digits ++ String.ofList (List.replicate (whole - length).toNat '0') ++ ".0"
  else (digits.take whole.toNat).toString ++ "." ++ (digits.drop whole.toNat).toString

/-- One digit, the point and the others if there are any, and the exponent. -/
def withExponent (digits : String) (leading : Int) : String :=
  let rest := (digits.drop 1).toString
  let mantissa := if rest.isEmpty then digits else (digits.take 1).toString ++ "." ++ rest
  let sign := if leading < 0 then "-" else "+"
  mantissa ++ "e" ++ sign ++ toString leading.natAbs

/-- The fewest digits that read back, in the format's layout. -/
def realText (x : Binary64) : String :=
  let sign := if x.negative then "-" else ""
  let d := x.shortest
  let digits := toString d.digits
  let leading := d.exponent + digits.length - 1
  if x.isZero || (realFormat.minPlain ≤ leading && leading < realFormat.plainEnd) then
    sign ++ withPoint digits (leading + 1)
  else sign ++ withExponent digits leading

/-- The text of a number. -/
def text : Number → String
  | .int n => toString n
  | .real x => realText x

end Number

end SearchNotation.Json
