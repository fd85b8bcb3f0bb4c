import ProcWire.Calendar.Date
import ProcWire.Calendar.Instant
import ProcWire.Text.Scanner

/-! # Timestamps as text

A timestamp is a date, a time of day with an optional fraction of a second, and the
offset of the clock that shows them from universal time.  A seconds field of 60 is a
leap second.  Of a fraction, nine digits count and any further ones are skipped.
-/
namespace ProcWire.Rfc3339
open Scanner

/-- A date that the calendar has. -/
def date : Scanner Date := do
  let year ← number 4
  char '-'
  let month ← number 2
  char '-'
  let day ← number 2
  let date : Date := ⟨year, month, day⟩
  if date.isValid then pure date else failure

/-- The nanoseconds that the first nine digits of a fraction denote. -/
def fractionNanos (digits : List Char) : Nat :=
  Numeral.value (digits.take 9) * Nat.pow 10 (9 - digits.length)

/-- An optional fraction of a second, in nanoseconds. -/
def fraction : Scanner Nat := do
  if ← next (· = '.') then
    char '.'
    let digits ← takeWhile1 Numeral.isDigit
    pure (fractionNanos digits)
  else
    pure 0

/-- A time of day: the seconds since midnight, and nanoseconds.  In a leap second there are a
thousand million nanoseconds more. -/
def time : Scanner (Nat × Nat) := do
  let hour ← number 2
  char ':'
  let minute ← number 2
  char ':'
  let second ← number 2
  let nanos ← fraction
  if hour ≤ 23 ∧ minute ≤ 59 ∧ second ≤ 60 then
    let leap := if second = 60 then 1 else 0
    pure (hour * 3600 + minute * 60 + (second - leap), nanos + leap * 1000000000)
  else
    failure

/-- The hours and minutes of an offset, in seconds. -/
def offsetSize : Scanner Nat := do
  let hours ← number 2
  char ':'
  let minutes ← number 2
  if hours ≤ 23 ∧ minutes ≤ 59 then pure (hours * 3600 + minutes * 60) else failure

/-- An offset from universal time in seconds, eastern offsets positive.  The minus sign may be
the hyphen or the proper one. -/
def offset : Scanner Int := do
  let mark ← oneOf ['Z', 'z', '+', '-', '−']
  if mark = 'Z' ∨ mark = 'z' then
    pure 0
  else
    let size ← offsetSize
    pure (if mark = '+' then (size : Int) else -(size : Int))

/-- A date, a time and an offset, as an instant. -/
def instant : Scanner Instant := do
  let date ← date
  let _ ← oneOf ['T', 't', ' ']
  let (seconds, nanos) ← time
  let offset ← offset
  pure ⟨Int64.ofInt (date.daysSinceEpoch * 86400 + seconds - offset), UInt32.ofNat nanos⟩

/-- The instant that a text denotes. -/
def instant? (text : List Char) : Option Instant := instant.whole? text

end ProcWire.Rfc3339
