/-
# Reading dates and times

A lenient reader of written dates and times. Blanks may stand before any number; numbers may lack
their leading zeros; a year may carry a sign, and then has any number of digits. Between date and
time stands `T`, `t` or a space; a time zone is `Z`, `UTC` or a signed offset of hours and minutes.
-/

import SiteWatch.Text.Blank
import SiteWatch.Time.Instant

namespace SiteWatch.Time

/-- Why a text is not a date or a time. -/
inductive Fault where
  | outOfRange
  | impossible
  | invalid
  | tooShort
  | tooLong
deriving DecidableEq, Repr

/-- The text of a fault. -/
def Fault.message : Fault → String
  | outOfRange => "input is out of range"
  | impossible => "no possible date and time matching input"
  | invalid => "input contains invalid characters"
  | tooShort => "premature end of input"
  | tooLong => "trailing input"

/-- The largest number that is read. -/
def maxNumber : Nat := 9223372036854775807

/-- A number of at least one digit and at most `width` digits. -/
def number (width : Nat) (chars : List Char) : Except Fault (Nat × List Char) :=
  let digits := (chars.take width).takeWhile Char.isDigit
  let value := digits.foldl (fun n c => n * 10 + (c.toNat - 48)) 0
  if chars.isEmpty then .error .tooShort
  else if digits.isEmpty then .error .invalid
  else if value > maxNumber then .error .outOfRange
  else .ok (value, chars.drop digits.length)

/-- A number between two bounds, after blanks. -/
def bounded (width low high : Nat) (chars : List Char) : Except Fault (Nat × List Char) := do
  let (value, rest) ← number width (Text.dropBlanks chars)
  if low ≤ value ∧ value ≤ high then return (value, rest) else throw .outOfRange

/-- A year, after blanks: with a sign any number of digits, else at most four. -/
def year (chars : List Char) : Except Fault (Int × List Char) := do
  let chars := Text.dropBlanks chars
  let (value, rest) : Int × List Char ← match chars with
    | '-' :: rest => do
      let (value, rest) ← number rest.length rest
      pure (-(value : Int), rest)
    | '+' :: rest => do
      let (value, rest) ← number rest.length rest
      pure ((value : Int), rest)
    | _ => do
      let (value, rest) ← number 4 chars
      pure ((value : Int), rest)
  if -2147483648 ≤ value ∧ value ≤ 2147483647 then return (value, rest)
  else throw .outOfRange

/-- One given character. -/
def literal (expected : Char) : List Char → Except Fault (Unit × List Char)
  | [] => .error .tooShort
  | c :: rest => if c = expected then .ok ((), rest) else .error .invalid

/-- A date as year, month and day of the month. Blanks before the hyphens are for the lenient
form only. -/
def dateParts (lenient : Bool) (chars : List Char) : Except Fault ((Int × Nat × Nat) × List Char) := do
  let gap := fun rest => if lenient then Text.dropBlanks rest else rest
  let (y, rest) ← year chars
  let (_, rest) ← literal '-' (gap rest)
  let (m, rest) ← bounded 2 1 12 rest
  let (_, rest) ← literal '-' (gap rest)
  let (d, rest) ← bounded 2 1 31 rest
  return ((y, m, d), rest)

/-- The day that its parts name. -/
def dateOf (parts : Int × Nat × Nat) : Except Fault Date :=
  match Date.ofCivil? parts.1 parts.2.1 parts.2.2 with
  | some date => .ok date
  | none => .error .outOfRange

/-- A whole text that is a date, without blanks before the hyphens or at the end. -/
def readDay (text : String) : Except Fault Date := do
  let (parts, rest) ← dateParts false text.toList
  if rest.isEmpty then dateOf parts else throw .tooLong

/-- A whole text that is a date; blanks may surround its parts. -/
def readDate (text : String) : Except Fault Date := do
  let (parts, rest) ← dateParts true text.toList
  if (Text.dropBlanks rest).isEmpty then dateOf parts else throw .tooLong

/-- The fraction of a second, in nanoseconds; digits beyond the ninth are dropped. -/
def fraction : List Char → Except Fault (Nat × List Char)
  | '.' :: rest => do
    let (value, after) ← number 9 rest
    let seen := rest.length - after.length
    return (value * Nat.pow 10 (9 - seen), after.dropWhile Char.isDigit)
  | rest => .ok (0, rest)

/-- The two digits at the front of a text. -/
def twoDigits : List Char → Except Fault (Char × Char)
  | a :: b :: _ => .ok (a, b)
  | a :: [] => if a.toNat ≥ 128 then .error .invalid else .error .tooShort
  | [] => .error .tooShort

/-- An offset from universal time, in seconds. -/
def zone (chars : List Char) : Except Fault (Int × List Char) := do
  let (negative, rest) ← match chars with
    | '+' :: rest => pure (false, rest)
    | '-' :: rest => pure (true, rest)
    | '−' :: rest => pure (true, rest)
    | [] => throw .tooShort
    | _ => throw .invalid
  let (h1, h2) ← twoDigits rest
  if ¬ (h1.isDigit ∧ h2.isDigit) then throw .invalid
  let hours := (h1.toNat - 48) * 10 + (h2.toNat - 48)
  let rest := (rest.drop 2).dropWhile fun c => c = ':' || Text.isBlank c
  let (m1, m2) ← twoDigits rest
  if ¬ (m1.isDigit ∧ m2.isDigit) then throw .invalid
  if m1 > '5' then throw .outOfRange
  let minutes := (m1.toNat - 48) * 10 + (m2.toNat - 48)
  let seconds : Int := (hours * 3600 + minutes * 60 : Nat)
  return ((if negative then -seconds else seconds), rest.drop 2)

/-- Universal time, or an offset from it. -/
def zoneOrUniversal (chars : List Char) : Except Fault (Int × List Char) :=
  match chars with
  | 'Z' :: rest | 'z' :: rest => .ok (0, rest)
  | a :: b :: c :: rest =>
    if String.ofList [a.toUpper, b.toUpper, c.toUpper] = "UTC" then .ok (0, rest) else zone chars
  | _ => zone chars

/-- A whole text that is a date, a time and a time zone. -/
def readInstant (text : String) : Except Fault Instant := do
  let (day, rest) ← dateParts true text.toList
  let rest ← match rest with
    | 't' :: rest | 'T' :: rest | ' ' :: rest => pure rest
    | [] => throw .tooShort
    | _ => throw .invalid
  let (hour, rest) ← bounded 2 0 23 rest
  let (_, rest) ← literal ':' (Text.dropBlanks rest)
  let (minute, rest) ← bounded 2 0 59 rest
  let (_, rest) ← literal ':' (Text.dropBlanks rest)
  let (second, rest) ← bounded 2 0 60 rest
  let (nanos, rest) ← fraction rest
  let (offset, rest) ← zoneOrUniversal (Text.dropBlanks rest)
  if ¬ (Text.dropBlanks rest).isEmpty then throw .tooLong
  let date ← dateOf day
  if offset.natAbs ≥ 86400 then throw .outOfRange
  let leap := if second = 60 then 1 else 0
  let wall : Int := date.day * 86400 + (hour * 3600 + minute * 60 + (second - leap) : Nat)
  let found : Instant := ⟨wall - offset, nanos + leap * 1000000000⟩
  if found.date.inRange then return found else throw .impossible

end SiteWatch.Time
