import GraphSweep.Toml.Item

/-!
# TOML scalars

A word of a document is a truth value, a whole number in 64 bits, a float, or a
date and time. Digits may be set apart by single underscores, whole numbers may
be written in three other bases, and a date has to be one of the calendar.
-/

namespace GraphSweep

namespace TomlItem

/-- The digits of a run in which single underscores may stand between them. -/
def ungroup? (isDigit : Char -> Bool) : List Char -> Option (List Char)
  | [] => none
  | [char] => if isDigit char then some [char] else none
  | char :: '_' :: rest =>
      if isDigit char then
        (ungroup? isDigit rest).map fun digits => char :: digits
      else none
  | char :: rest =>
      if isDigit char then
        (ungroup? isDigit rest).map fun digits => char :: digits
      else none

/-- The value of a digit in any base up to sixteen. -/
def digitValue (char : Char) : Nat :=
  if char.isDigit then char.toNat - 48
  else if 'a' ≤ char then char.toNat - 87
  else char.toNat - 55

/-- A digit of a base. -/
def isDigitOf (base : Nat) (char : Char) : Bool :=
  (char.isDigit || ('a' ≤ char && char ≤ 'f') || ('A' ≤ char && char ≤ 'F'))
    && digitValue char < base

/-- The number that digits of a base spell. -/
def ofDigits (base : Nat) (digits : List Char) : Nat :=
  digits.foldl (fun value digit => value * base + digitValue digit) 0

/-- The digits of a whole number in base ten, which has no leading zeros. -/
def decimalDigits? (chars : List Char) : Option (List Char) :=
  match chars with
  | ['0'] => some ['0']
  | '0' :: _ => none
  | chars => ungroup? Char.isDigit chars

/-- Cut off a sign; whether it is a minus. -/
def cutSign : List Char -> Bool × List Char
  | '-' :: rest => (true, rest)
  | '+' :: rest => (false, rest)
  | chars => (false, chars)

/-- A number with its sign. -/
def signed (negative : Bool) (value : Nat) : Int :=
  if negative then -Int.ofNat value else Int.ofNat value

/-- A whole number, if it fits in 64 bits. -/
def bounded? (value : Int) : Option TomlItem :=
  if Int64.minValue.toInt ≤ value ∧ value ≤ Int64.maxValue.toInt then
    some (.integer value)
  else none

/-- A whole number in a base other than ten. -/
def ofBase? (base : Nat) (chars : List Char) : Option TomlItem := do
  let digits <- ungroup? (isDigitOf base) chars
  bounded? (Int.ofNat (ofDigits base digits))

/-- A whole number. -/
def ofInteger? : List Char -> Option TomlItem
  | '0' :: 'x' :: rest => ofBase? 16 rest
  | '0' :: 'o' :: rest => ofBase? 8 rest
  | '0' :: 'b' :: rest => ofBase? 2 rest
  | chars => do
      let (negative, rest) := cutSign chars
      let digits <- decimalDigits? rest
      bounded? (signed negative (ofDigits 10 digits))

/-- The parts of a float: its digits, how many of them stand after the point, and
the exponent. -/
structure FloatParts where
  digits : List Char
  places : Nat
  exponent : Int

/-- The sign of an exponent. -/
def isExponentMark (char : Char) : Bool := char = 'e' || char = 'E'

/-- The exponent that follows its sign. -/
def exponent? (chars : List Char) : Option Int := do
  let (negative, rest) := cutSign chars
  let digits <- ungroup? Char.isDigit rest
  return signed negative (ofDigits 10 digits)

/-- The parts of a float without a sign. It has a point, an exponent or both. -/
def floatParts? (chars : List Char) : Option FloatParts := do
  let isWhole := fun char => char != '.' && !isExponentMark char
  let whole <- decimalDigits? (chars.takeWhile isWhole)
  match chars.dropWhile isWhole with
  | '.' :: rest => do
      let isPlace := fun char => !isExponentMark char
      let places <- ungroup? Char.isDigit (rest.takeWhile isPlace)
      let exponent <- match rest.dropWhile isPlace with
        | [] => some 0
        | _ :: rest => exponent? rest
      return ⟨whole ++ places, places.length, exponent⟩
  | _ :: rest => do
      let exponent <- exponent? rest
      return ⟨whole, 0, exponent⟩
  | [] => none

/-- The least number that rounds to infinity in double precision. -/
def overflowBound : Nat := (1 <<< 1024) - (1 <<< 970)

namespace FloatParts

/-- Whether a float is too large for double precision. The place of its first
digit decides, unless it lies near the bound. -/
def overflows (parts : FloatParts) : Bool :=
  let significant := parts.digits.dropWhile fun digit => digit = '0'
  let scale := parts.exponent - parts.places
  let value := ofDigits 10 significant
  let magnitude := scale + significant.length
  if significant.isEmpty || magnitude ≤ 308 then false
  else if 309 < magnitude then true
  else if 0 ≤ scale then overflowBound ≤ value * Nat.pow 10 scale.toNat
  else overflowBound * Nat.pow 10 (-scale).toNat ≤ value

end FloatParts

/-- A float. Only a negative one may be too large. -/
def ofFloat? (chars : List Char) : Option TomlItem := do
  let (negative, rest) := cutSign chars
  if rest = ['i', 'n', 'f'] ∨ rest = ['n', 'a', 'n'] then
    return .float (String.ofList chars)
  else
    let parts <- floatParts? rest
    if parts.overflows && !negative then none
    else return .float (String.ofList chars)

/-- The number that two digits spell. -/
def twoDigits? (tens units : Char) : Option Nat :=
  if tens.isDigit ∧ units.isDigit then
    some (digitValue tens * 10 + digitValue units)
  else none

/-- How many days a month has. -/
def daysOf (year month : Nat) : Nat :=
  if month = 2 then
    if year % 4 = 0 ∧ (year % 100 ≠ 0 ∨ year % 400 = 0) then 29 else 28
  else if month = 4 ∨ month = 6 ∨ month = 9 ∨ month = 11 then 30
  else 31

/-- Cut off a date of the calendar. -/
def cutDate? : List Char -> Option (List Char)
  | a :: b :: c :: d :: '-' :: e :: f :: '-' :: g :: h :: rest => do
      let century <- twoDigits? a b
      let ofCentury <- twoDigits? c d
      let month <- twoDigits? e f
      let day <- twoDigits? g h
      if 1 ≤ month ∧ month ≤ 12 ∧ 1 ≤ day ∧
          day ≤ daysOf (century * 100 + ofCentury) month then
        return rest
      else none
  | _ => none

/-- Cut off the hours and minutes of a time. -/
def cutMinutes? : List Char -> Option (List Char)
  | a :: b :: ':' :: c :: d :: rest => do
      let hours <- twoDigits? a b
      let minutes <- twoDigits? c d
      if hours < 24 ∧ minutes < 60 then return rest else none
  | _ => none

/-- Cut off a time with seconds, which may have places after a point. -/
def cutTime? (chars : List Char) : Option (List Char) := do
  match <- cutMinutes? chars with
  | ':' :: a :: b :: rest => do
      let seconds <- twoDigits? a b
      if 60 < seconds then none
      else
        match rest with
        | '.' :: rest =>
            if (rest.takeWhile Char.isDigit).isEmpty then none
            else return rest.dropWhile Char.isDigit
        | rest => return rest
  | _ => none

/-- Whether a text is what may stand after a date and time. -/
def isOffset : List Char -> Bool
  | [] => true
  | [char] => char = 'Z' || char = 'z'
  | char :: rest => (char = '+' || char = '-') && cutMinutes? rest = some []

/-- A date, a time, or a date and time. -/
def ofMoment? (chars : List Char) : Option TomlItem :=
  let valid := match cutDate? chars with
    | some [] => true
    | some (separator :: rest) =>
        (separator = 'T' || separator = 't' || separator = ' ') &&
          (cutTime? rest).any isOffset
    | none => cutTime? chars = some []
  if valid then some (.moment (String.ofList chars)) else none

/-- The item that a word spells. -/
def ofWord? (chars : List Char) : Option TomlItem :=
  if chars = "true".toList then some (.boolean true)
  else if chars = "false".toList then some (.boolean false)
  else ofInteger? chars <|> ofFloat? chars <|> ofMoment? chars

end TomlItem
end GraphSweep
