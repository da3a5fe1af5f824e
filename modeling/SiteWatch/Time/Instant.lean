/-
# Instants

A moment of universal time: whole seconds since 1970 and nanoseconds. A leap second keeps the
number of the second before it and counts its nanoseconds from a thousand million on, so that it
sorts after that second and before the next.
-/

import SiteWatch.Time.Date

namespace SiteWatch

/-- A moment of universal time. -/
structure Instant where
  seconds : Int
  nanos : Nat := 0
deriving DecidableEq, Repr, Inhabited

namespace Instant

/-- Earlier moments come first. -/
def le (a b : Instant) : Bool :=
  a.seconds < b.seconds || (a.seconds == b.seconds && a.nanos ≤ b.nanos)

instance : LE Instant := ⟨fun a b => a.le b = true⟩

instance (a b : Instant) : Decidable (a ≤ b) := inferInstanceAs (Decidable (a.le b = true))

def secondsPerDay : Nat := 86400

/-- The day of a moment. -/
def date (t : Instant) : Date := ⟨t.seconds.ediv secondsPerDay⟩

/-- The second within the day. -/
def secondOfDay (t : Instant) : Nat := (t.seconds.emod secondsPerDay).toNat

/-- The moment some days later, if it is representable. A leap second is left behind. -/
def plusDays? (t : Instant) (days : Nat) : Option Instant :=
  let nanos := if days > 0 ∧ t.nanos ≥ 1000000000 then t.nanos - 1000000000 else t.nanos
  let later : Instant := ⟨t.seconds + (days * secondsPerDay : Nat), nanos⟩
  if later.date.inRange then some later else none

/-- The moment some milliseconds later, if it is representable. -/
def plusMilliseconds? (t : Instant) (milliseconds : Nat) : Option Instant :=
  let nanos := t.nanos + milliseconds % 1000 * 1000000
  let later : Instant :=
    ⟨t.seconds + (milliseconds / 1000 + nanos / 1000000000 : Nat), nanos % 1000000000⟩
  if milliseconds ≤ 9223372036854775807 ∧ later.date.inRange then some later else none

/-- The time of day as hours, minutes and seconds; the seconds reach sixty in a leap second. -/
def clock (t : Instant) : Nat × Nat × Nat :=
  let second := t.secondOfDay
  (second / 3600, second / 60 % 60, second % 60 + t.nanos / 1000000000)

/-- The fraction of the second: three, six or nine digits, the fewest that lose nothing, and none
for a whole second. -/
def fractionText (t : Instant) : String :=
  let nanos := t.nanos % 1000000000
  if nanos = 0 then ""
  else if nanos % 1000000 = 0 then "." ++ Date.padded 3 (nanos / 1000000)
  else if nanos % 1000 = 0 then "." ++ Date.padded 6 (nanos / 1000)
  else "." ++ Date.padded 9 nanos

/-- Date and time in universal time, as in `2026-03-14T12:30:00Z`. -/
def text (t : Instant) : String :=
  let (hour, minute, second) := t.clock
  t.date.text ++ "T" ++ Date.padded 2 hour ++ ":" ++ Date.padded 2 minute ++ ":"
    ++ Date.padded 2 second ++ t.fractionText ++ "Z"

/-- Date and time in universal time with the offset in digits. -/
def offsetText (t : Instant) : String :=
  String.ofList (t.text.toList.dropLast) ++ "+00:00"

/-- Date and time as they stand in file names: whole milliseconds, no colons. -/
def stamp (t : Instant) : String :=
  let (hour, minute, second) := t.clock
  t.date.text ++ "T" ++ Date.padded 2 hour ++ "-" ++ Date.padded 2 minute ++ "-"
    ++ Date.padded 2 second ++ "-" ++ Date.padded 3 (t.nanos % 1000000000 / 1000000) ++ "Z"

/-- Date and time to the minute, for people. -/
def minuteText (t : Instant) : String :=
  let (hour, minute, _) := t.clock
  t.date.text ++ " " ++ Date.padded 2 hour ++ ":" ++ Date.padded 2 minute ++ " UTC"

/-- Milliseconds since 1970. -/
def milliseconds (t : Instant) : Int := t.seconds * 1000 + (t.nanos / 1000000 : Nat)

end Instant

end SiteWatch
