/-
# Calendar dates

Days of the proleptic Gregorian calendar, counted from the first of January 1970. The years are
those between -262143 and 262142.
-/

namespace SiteWatch

/-- A day, as its distance from the first of January 1970. -/
structure Date where
  day : Int
deriving DecidableEq, Repr, Inhabited

namespace Date

def minYear : Int := -262143

def maxYear : Int := 262142

/-- Every fourth year is a leap year, except the centuries not divisible by four hundred. -/
def isLeapYear (year : Int) : Bool :=
  year.emod 4 == 0 && (year.emod 100 != 0 || year.emod 400 == 0)

/-- The number of days of a month. -/
def daysInMonth (year : Int) (month : Nat) : Nat :=
  match month with
  | 2 => if isLeapYear year then 29 else 28
  | 4 | 6 | 9 | 11 => 30
  | _ => 31

/-- The day with the given year, month and day of the month. Years begin in March here, so that
the leap day is the last of its year. -/
def ofCivil (year : Int) (month day : Nat) : Date :=
  let shifted := if month ≤ 2 then year - 1 else year
  let era := shifted.ediv 400
  let yearOfEra := shifted - era * 400
  let monthFromMarch : Int := ((month : Int) + 9).emod 12
  let dayOfYear := (153 * monthFromMarch + 2).ediv 5 + day - 1
  let dayOfEra := yearOfEra * 365 + yearOfEra.ediv 4 - yearOfEra.ediv 100 + dayOfYear
  ⟨era * 146097 + dayOfEra - 719468⟩

/-- The day with the given year, month and day of the month, if there is one. -/
def ofCivil? (year : Int) (month day : Nat) : Option Date :=
  if minYear ≤ year ∧ year ≤ maxYear ∧ 1 ≤ month ∧ month ≤ 12 ∧ 1 ≤ day
      ∧ day ≤ daysInMonth year month then
    some (ofCivil year month day)
  else none

/-- Year, month and day of the month. -/
def civil (date : Date) : Int × Nat × Nat :=
  let shifted := date.day + 719468
  let era := shifted.ediv 146097
  let dayOfEra := shifted - era * 146097
  let yearOfEra :=
    (dayOfEra - dayOfEra.ediv 1460 + dayOfEra.ediv 36524 - dayOfEra.ediv 146096).ediv 365
  let dayOfYear := dayOfEra - (365 * yearOfEra + yearOfEra.ediv 4 - yearOfEra.ediv 100)
  let monthFromMarch := (5 * dayOfYear + 2).ediv 153
  let day := dayOfYear - (153 * monthFromMarch + 2).ediv 5 + 1
  let month := if monthFromMarch < 10 then monthFromMarch + 3 else monthFromMarch - 9
  let year := yearOfEra + era * 400
  ((if month ≤ 2 then year + 1 else year), month.toNat, day.toNat)

/-- The first representable day. -/
def first : Date := ofCivil minYear 1 1

/-- The last representable day. -/
def last : Date := ofCivil maxYear 12 31

/-- Whether a day lies in the representable range. -/
def inRange (date : Date) : Bool := first.day ≤ date.day && date.day ≤ last.day

/-- The day a number of days earlier, if representable. -/
def minusDays? (date : Date) (days : Nat) : Option Date :=
  let earlier : Date := ⟨date.day - days⟩
  if earlier.inRange then some earlier else none

/-- A number with zeros in front up to a width. -/
def padded (width : Nat) (n : Nat) : String :=
  let digits := toString n
  String.ofList (List.replicate (width - digits.length) '0') ++ digits

/-- A year: four digits, with a sign when it needs more or is negative. -/
def yearText (year : Int) : String :=
  if 0 ≤ year ∧ year ≤ 9999 then padded 4 year.toNat
  else if year < 0 then "-" ++ padded 4 year.natAbs
  else "+" ++ padded 4 year.natAbs

/-- Year, month and day joined by hyphens. -/
def text (date : Date) : String :=
  let (year, month, day) := date.civil
  yearText year ++ "-" ++ padded 2 month ++ "-" ++ padded 2 day

end Date

end SiteWatch
