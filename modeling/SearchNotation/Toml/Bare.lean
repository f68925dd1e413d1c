import SearchNotation.Toml.Text
import SearchNotation.Toml.Value

/-!
# Values without marks

Booleans, numbers, dates and times are written as they are. In a number an underscore may stand
between two digits; a whole number has no zero in front, unless another base than ten is named
by `0x`, `0o` or `0b`, and then it has no sign. A base alone is read as a value without digits.
-/

set_option autoImplicit false

namespace SearchNotation.Toml

/-! ## Digits -/

/-- The digits of a text of digits with single underscores between them. -/
def digitsOf? (isDigit : Char → Bool) : List Char → Option (List Char)
  | [] => none
  | [c] => if isDigit c then some [c] else none
  | c :: '_' :: rest => if isDigit c then (digitsOf? isDigit rest).map (c :: ·) else none
  | c :: rest => if isDigit c then (digitsOf? isDigit rest).map (c :: ·) else none

/-- The number that digits stand for. -/
def numberOf (base : Nat) (digits : List Char) : Nat :=
  digits.foldl (fun n c => n * base + (Text.hexValue? c).getD 0) 0

/-- Whether a character is a digit of a base. -/
def isDigitOf (base : Nat) (c : Char) : Bool := (Text.hexValue? c).any (· < base)

/-- Decimal digits without a zero in front of others. -/
def wholeDigits? (text : List Char) : Option (List Char) :=
  (digitsOf? Char.isDigit text).filter fun digits => digits.head? != some '0' || digits.length == 1

/-- Splits off a sign; the answer says whether it is minus. -/
def splitSign : List Char → Bool × List Char
  | '+' :: rest => (false, rest)
  | '-' :: rest => (true, rest)
  | text => (false, text)

/-! ## Whole numbers -/

/-- The base that a text names in front of the digits. -/
def splitBase? : List Char → Option (Nat × List Char)
  | '0' :: 'x' :: rest => some (16, rest)
  | '0' :: 'o' :: rest => some (8, rest)
  | '0' :: 'b' :: rest => some (2, rest)
  | _ => none

/-- The whole number that a text is, which may lack all digits after its base. -/
def integerOf? (text : List Char) : Option Value :=
  match splitBase? text with
  | some (_, []) => some .digitless
  | some (base, rest) =>
    (digitsOf? (isDigitOf base) rest).map fun digits => .integer (numberOf base digits)
  | none =>
    let (negative, rest) := splitSign text
    (wholeDigits? rest).map fun digits =>
      let n := numberOf 10 digits
      .integer (if negative then -(n : Int) else n)

/-! ## Numbers with a point or an exponent -/

/-- The exponent that the rest of a number after its letter is. -/
def exponentOf? (text : List Char) : Option Int :=
  let (negative, rest) := splitSign text
  (digitsOf? Char.isDigit rest).map fun digits =>
    let n := numberOf 10 digits
    if negative then -(n : Int) else n

/-- The number with the given parts; a missing part has no text, not even its mark. -/
def decimalOf? (negative : Bool) (whole : List Char) (fraction exponent : Option (List Char)) :
    Option Real := do
  let whole ← wholeDigits? whole
  let fraction ← match fraction with
    | none => some []
    | some text => digitsOf? Char.isDigit text
  let exponent ← match exponent with
    | none => some 0
    | some text => exponentOf? text
  return .decimal negative (numberOf 10 (whole ++ fraction)) (exponent - fraction.length)

/-- The number that a text with a point or an exponent is. -/
def realOf? (text : List Char) : Option Real :=
  let (negative, rest) := splitSign text
  if rest = "inf".toList then some (.infinite negative)
  else if rest = "nan".toList then some .undefined
  else
    let isLetter (c : Char) : Bool := c == 'e' || c == 'E'
    let mantissa := rest.takeWhile (!isLetter ·)
    let exponent := match rest.dropWhile (!isLetter ·) with
      | [] => none
      | _ :: digits => some digits
    let whole := mantissa.takeWhile (· != '.')
    let fraction := match mantissa.dropWhile (· != '.') with
      | [] => none
      | _ :: digits => some digits
    if fraction.isNone && exponent.isNone then none
    else decimalOf? negative whole fraction exponent

/-! ## Dates and times -/

/-- Reads exactly so many decimal digits. -/
def readDigits? (count : Nat) (text : List Char) : Reading Nat :=
  let digits := text.takeWhile Char.isDigit
  if digits.length = count then some (numberOf 10 digits, text.drop count) else none

/-- Reads one given character. -/
def readMark? (mark : Char) : List Char → Option (List Char)
  | c :: rest => if c = mark then some rest else none
  | [] => none

/-- The number of days of a month. -/
def daysOf (year month : Nat) : Nat :=
  if month = 2 then
    if year % 4 = 0 ∧ (year % 100 ≠ 0 ∨ year % 400 = 0) then 29 else 28
  else if month = 4 ∨ month = 6 ∨ month = 9 ∨ month = 11 then 30
  else 31

/-- The text after a date. -/
def afterDate? (text : List Char) : Option (List Char) := do
  let (year, text) ← readDigits? 4 text
  let (month, text) ← readDigits? 2 (← readMark? '-' text)
  let (day, text) ← readDigits? 2 (← readMark? '-' text)
  guard (1 ≤ month ∧ month ≤ 12 ∧ 1 ≤ day ∧ day ≤ daysOf year month)
  return text

/-- The text after the seconds of a time, which may be missing and may have a fraction. -/
def afterSeconds? (text : List Char) : Option (List Char) :=
  match text with
  | ':' :: text => do
    let (second, text) ← readDigits? 2 text
    guard (second ≤ 60)
    match text with
    | '.' :: text => do
      guard ((text.takeWhile Char.isDigit).length ≠ 0)
      return text.dropWhile Char.isDigit
    | _ => return text
  | _ => some text

/-- The text after a time of day. -/
def afterTime? (text : List Char) : Option (List Char) := do
  let (hour, text) ← readDigits? 2 text
  let (minute, text) ← readDigits? 2 (← readMark? ':' text)
  guard (hour ≤ 23 ∧ minute ≤ 59)
  afterSeconds? text

/-- Whether a text is an offset from universal time, or nothing. -/
def isOffset : List Char → Bool
  | [] => true
  | ['Z'] | ['z'] => true
  | sign :: text =>
    (sign == '+' || sign == '-') &&
      match (do
        let (hours, text) ← readDigits? 2 text
        let (minutes, text) ← readDigits? 2 (← readMark? ':' text)
        return (hours, minutes, text) : Option (Nat × Nat × List Char)) with
      | some (hours, minutes, rest) =>
        rest.isEmpty && decide (hours ≤ 23 ∧ minutes ≤ 59)
      | none => false

/-- Whether a text is a date, a time of day, or both. -/
def isMoment (text : List Char) : Bool :=
  match afterDate? text with
  | some [] => true
  | some (mark :: time) =>
    (mark == 'T' || mark == 't' || mark == ' ') && (afterTime? time).any isOffset
  | none => (afterTime? text).any List.isEmpty

/-! ## All of them -/

/-- The value that a text without marks is. -/
def Value.ofBare? (text : List Char) : Option Value :=
  if text = "true".toList then some (.boolean true)
  else if text = "false".toList then some (.boolean false)
  else
    match integerOf? text with
    | some value => some value
    | none =>
      match realOf? text with
      | some x => some (.real x)
      | none => if isMoment text then some (.moment (String.ofList text)) else none

end SearchNotation.Toml
