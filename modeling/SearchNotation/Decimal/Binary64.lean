/-!
# Binary floating point with 53 digits

A `Binary64` is a finite value `±mantissa · 2 ^ exponent` of the 64-bit binary format, with both
zeros. All arithmetic is done exactly on natural numbers and rounded once: `nearest` gives the
value closest to a quotient, of two equally close ones the one with the even mantissa, and `none`
where the format has only an infinity.
-/

set_option autoImplicit false

namespace SearchNotation

/-- A finite value of the 64-bit binary format. -/
structure Binary64 where
  /-- Whether the sign is minus, for zero too. -/
  negative : Bool
  /-- Below `2 ^ 53`, and at least `2 ^ 52` unless the exponent is the least one. -/
  mantissa : Nat
  /-- The power of two that the mantissa is multiplied by, from `-1074` to `971`. -/
  exponent : Int
  deriving DecidableEq, Repr

namespace Binary64

/-- The exponent of the smallest positive value. -/
def minExponent : Int := -1074

/-- The exponent of the largest values. -/
def maxExponent : Int := 971

/-- The number of binary digits of a mantissa. -/
def precision : Nat := 53

/-- Positive or negative zero. -/
def zero (negative : Bool) : Binary64 := ⟨negative, 0, minExponent⟩

/-- Whether the value is one of the two zeros. -/
def isZero (x : Binary64) : Bool := x.mantissa == 0

/-- The quotient rounded to the nearest natural number, a half going to the even one. -/
def roundHalfEven (num den : Nat) : Nat :=
  let quotient := num / den
  let twice := 2 * (num % den)
  if den < twice then quotient + 1
  else if twice = den then quotient + quotient % 2
  else quotient

/-- The greatest `k` with `2 ^ k ≤ num / den`, for positive `num` and `den`. -/
def floorLog2 (num den : Nat) : Int :=
  let guess : Int := (num.log2 : Int) - den.log2
  let reached :=
    if 0 ≤ guess then den * Nat.pow 2 guess.toNat ≤ num else den ≤ num * Nat.pow 2 (-guess).toNat
  if reached then guess else guess - 1

/-- The value nearest to `± num / den`, if it is finite. -/
def nearest (negative : Bool) (num den : Nat) : Option Binary64 :=
  if num = 0 then some (zero negative)
  else
    let exponent := max minExponent (floorLog2 num den - (precision - 1))
    let mantissa :=
      if 0 ≤ exponent then roundHalfEven num (den * Nat.pow 2 exponent.toNat)
      else roundHalfEven (num * Nat.pow 2 (-exponent).toNat) den
    let (mantissa, exponent) :=
      if mantissa = Nat.pow 2 precision then (Nat.pow 2 (precision - 1), exponent + 1)
      else (mantissa, exponent)
    if maxExponent < exponent then none else some ⟨negative, mantissa, exponent⟩

/-- The numerator of the magnitude over the denominator `x.den`. -/
def num (x : Binary64) : Nat :=
  if 0 ≤ x.exponent then x.mantissa * Nat.pow 2 x.exponent.toNat else x.mantissa

/-- A denominator of the magnitude. -/
def den (x : Binary64) : Nat := if 0 ≤ x.exponent then 1 else Nat.pow 2 (-x.exponent).toNat

/-- The rounded product. -/
def mul (x y : Binary64) : Option Binary64 :=
  nearest (x.negative != y.negative) (x.num * y.num) (x.den * y.den)

/-- The rounded quotient by a value other than zero. -/
def div (x y : Binary64) : Option Binary64 :=
  nearest (x.negative != y.negative) (x.num * y.den) (x.den * y.num)

/-! ## Decimal input

A decimal `digits · 10 ^ exponent` is converted in two rounded steps: the digits to a value, then
one multiplication or division by the value nearest to the power of ten. That is not always the
value nearest to the decimal. The largest power of ten in the format is `10 ^ 308`; a division by
a larger one is split into divisions by that one.
-/

/-- The largest exponent of a power of ten in the format. -/
def maxTenExponent : Nat := 308

/-- The value nearest to `10 ^ n`, for `n` up to `maxTenExponent`. -/
def tenPow (n : Nat) : Binary64 := (nearest false (Nat.pow 10 n) 1).getD (zero false)

/-- Divides by `10 ^ n` in steps of at most `10 ^ 308`; zero is reached after few of them. -/
def divTenPow (x : Binary64) (n : Nat) : Option Binary64 :=
  if n ≤ maxTenExponent then x.div (tenPow n)
  else if x.isZero then some x
  else (x.div (tenPow maxTenExponent)).bind fun y => divTenPow y (n - maxTenExponent)
  termination_by n
  decreasing_by simp [maxTenExponent] at *; omega

/-- The value of `± digits · 10 ^ exponent`, or `none` if it is out of range. -/
def ofDecimal (negative : Bool) (digits : Nat) (exponent : Int) : Option Binary64 :=
  (nearest negative digits 1).bind fun x =>
    if exponent < 0 then x.divTenPow exponent.natAbs
    else if exponent.toNat ≤ maxTenExponent then x.mul (tenPow exponent.toNat)
    else if x.isZero then some x
    else none

/-! ## The fewest digits that read back -/

/-- The greatest `k` with `10 ^ k ≤ num / den`, for positive `num` and `den`. -/
def floorLog10 (num den : Nat) : Int :=
  if den ≤ num then ((Nat.toDigits 10 (num / den)).length : Int) - 1
  else
    let length := (Nat.toDigits 10 (den / num)).length
    if den ≤ Nat.pow 10 (length - 1) * num then 1 - (length : Int) else -(length : Int)

/-- A decimal: `digits · 10 ^ exponent`. -/
structure Decimal where
  digits : Nat
  exponent : Int
  deriving DecidableEq, Repr

/--
Whether `digits · 10 ^ exponent` rounds to the magnitude of `x`: it lies between the midpoints to
the neighbours of `x`, a midpoint counting where the mantissa is even.
-/
def roundsTo (x : Binary64) (d : Decimal) : Bool :=
  -- Everything is compared in units of a quarter of the last binary digit.
  let lowest := x.mantissa = Nat.pow 2 (precision - 1) ∧ x.exponent ≠ minExponent
  let lowerGap := if lowest then 1 else 2
  let low := 4 * x.mantissa - lowerGap
  let high := 4 * x.mantissa + 2
  let unitNum := if 0 ≤ x.exponent then Nat.pow 2 x.exponent.toNat else 1
  let unitDen := 4 * x.den
  let dNum := if 0 ≤ d.exponent then d.digits * Nat.pow 10 d.exponent.toNat else d.digits
  let dDen := if 0 ≤ d.exponent then 1 else Nat.pow 10 (-d.exponent).toNat
  let left := low * unitNum * dDen
  let middle := dNum * unitDen
  let right := high * unitNum * dDen
  if x.mantissa % 2 = 0 then left ≤ middle && middle ≤ right else left < middle && middle < right

/-- The decimal with the given exponent that reads back and is nearest to `x`, if there is one. -/
def onGrid (x : Binary64) (exponent : Int) : Option Decimal :=
  let num := if 0 ≤ exponent then x.num else x.num * Nat.pow 10 (-exponent).toNat
  let den := if 0 ≤ exponent then x.den * Nat.pow 10 exponent.toNat else x.den
  let nearer := roundHalfEven num den
  let other := if nearer = num / den then nearer + 1 else num / den
  if x.roundsTo ⟨nearer, exponent⟩ then some ⟨nearer, exponent⟩
  else if x.roundsTo ⟨other, exponent⟩ then some ⟨other, exponent⟩
  else none

/-- Moves the zeros at the end of the digits into the exponent, at most `limit` of them. -/
def Decimal.stripZeros (limit : Nat) (d : Decimal) : Decimal :=
  match limit with
  | 0 => d
  | limit + 1 =>
    if d.digits ≠ 0 ∧ d.digits % 10 = 0 then stripZeros limit ⟨d.digits / 10, d.exponent + 1⟩
    else d

/--
The magnitude of `x` as the decimal with the fewest digits that rounds to `x`, the nearest to `x`
of those. Seventeen digits always suffice.
-/
def shortest (x : Binary64) : Decimal :=
  if x.isZero then ⟨0, 0⟩
  else
    let leading := floorLog10 x.num x.den
    let found := (List.range 17).findSome? fun i : Nat => x.onGrid (leading - (i : Int))
    (found.getD ⟨0, 0⟩).stripZeros 17

end Binary64

end SearchNotation
