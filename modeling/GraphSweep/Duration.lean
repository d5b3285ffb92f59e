/-!
# Durations

A duration counts nanoseconds, up to the last nanosecond of `2 ^ 64` seconds. It
is written in the largest unit that gives it a whole part, with as many decimals
as it needs.
-/

namespace GraphSweep

/-- A span of time in nanoseconds. -/
structure Duration where
  /-- The length in nanoseconds. -/
  nanos : Nat
  /-- The whole seconds fit in 64 bits. -/
  bounded : nanos < UInt64.size * 1000000000
  deriving DecidableEq

namespace Duration

/-- Nanoseconds in a second. -/
def perSecond : Nat := 1000000000

/-- Nanoseconds in a millisecond. -/
def perMilli : Nat := 1000000

/-- The duration of some seconds and nanoseconds, if it is in range. -/
def ofParts? (seconds nanos : Nat) : Option Duration :=
  if bounded : seconds * perSecond + nanos < UInt64.size * 1000000000 then
    some ⟨seconds * perSecond + nanos, bounded⟩
  else none

/-- What is said about seconds and nanoseconds that are out of range. -/
def rangeMessage : String := "overflow in Duration::new"

/-- The duration of some milliseconds. -/
def ofMillis (millis : UInt64) : Duration where
  nanos := millis.toNat * perMilli
  bounded := by
    have small := millis.toNat_lt_size
    unfold perMilli
    omega

/-- Whole seconds. -/
def seconds (duration : Duration) : Nat := duration.nanos / perSecond

/-- Nanoseconds beyond the whole seconds. -/
def subsecond (duration : Duration) : Nat := duration.nanos % perSecond

/-- Whole milliseconds, of which the low 64 bits are kept. -/
def millis (duration : Duration) : UInt64 :=
  UInt64.ofNat (duration.nanos / perMilli)

/-- The last decimals of a number before some others, without zeros at the
end. -/
def decimals : Nat -> Nat -> List Char -> List Char
  | 0, _, later => later
  | places + 1, part, later =>
      if part % 10 = 0 ∧ later = [] then decimals places (part / 10) []
      else
        decimals places (part / 10) (Char.ofNat (48 + part % 10) :: later)

/-- A whole number with a part of it behind the point, in some places. -/
def decimalText (whole places part : Nat) : String :=
  match decimals places part [] with
  | [] => toString whole
  | digits => toString whole ++ "." ++ String.ofList digits

/-- The text of a duration, such as `1.5s`, `250ms`, `12.345µs` or `0ns`. -/
def text (duration : Duration) : String :=
  let nanos := duration.nanos
  if perSecond ≤ nanos then
    decimalText duration.seconds 9 duration.subsecond ++ "s"
  else if perMilli ≤ nanos then
    decimalText (nanos / perMilli) 6 (nanos % perMilli) ++ "ms"
  else if 1000 ≤ nanos then
    decimalText (nanos / 1000) 3 (nanos % 1000) ++ "µs"
  else toString nanos ++ "ns"

end Duration
end GraphSweep
