/-!
# Calendar — days, dates and weekdays of the proleptic Gregorian calendar

Days are counted from 1 January 1970.  A date is found from its day by the era of 400 years that holds it, with
years starting in March so that the leap day comes last.
-/

namespace TypedWiki.Time

/-- A date of the proleptic Gregorian calendar; months and days count from one. -/
structure CalendarDate where
  year : Int
  month : Nat
  day : Nat
  deriving DecidableEq, Repr

/-- Whether a year has a leap day. -/
def isLeapYear (y : Int) : Bool := y % 4 = 0 && (y % 100 ≠ 0 || y % 400 = 0)

/-- The number of days of a month; zero for a number that is no month. -/
def daysInMonth (y : Int) : Nat → Nat
  | 2 => if isLeapYear y then 29 else 28
  | 4 | 6 | 9 | 11 => 30
  | 1 | 3 | 5 | 7 | 8 | 10 | 12 => 31
  | _ => 0

/-- The number of days of a year. -/
def daysInYear (y : Int) : Nat := if isLeapYear y then 366 else 365

/-- The last year that dates reach. -/
def maxYear : Int := 262142

/-- The first year that dates reach. -/
def minYear : Int := -262143

namespace CalendarDate

/-- Whether the date exists and lies within the supported years. -/
def isValid (d : CalendarDate) : Bool :=
  minYear ≤ d.year && d.year ≤ maxYear && 1 ≤ d.day && d.day ≤ daysInMonth d.year d.month

/-- The position of the day in its year, from one. -/
def ordinal (d : CalendarDate) : Nat :=
  (List.range d.month).foldr (fun m n => daysInMonth d.year m + n) d.day

/-- The date with the given position in its year. -/
def ofOrdinal (year : Int) (ordinal : Nat) : CalendarDate :=
  go 12 1 ordinal
where
  /-- Walks the months while the day lies past their end. -/
  go : Nat → Nat → Nat → CalendarDate
    | 0, m, d => ⟨year, m, d⟩
    | k + 1, m, d => if d ≤ daysInMonth year m then ⟨year, m, d⟩ else go k (m + 1) (d - daysInMonth year m)

/-- The number of days from 1 January 1970. -/
def toDays (d : CalendarDate) : Int :=
  let y := if d.month ≤ 2 then d.year - 1 else d.year
  let era := y / 400
  let yearOfEra := y % 400
  let shifted : Int := if d.month > 2 then (d.month : Int) - 3 else (d.month : Int) + 9
  let dayOfYear := (153 * shifted + 2) / 5 + d.day - 1
  let dayOfEra := yearOfEra * 365 + yearOfEra / 4 - yearOfEra / 100 + dayOfYear
  era * 146097 + dayOfEra - 719468

/-- The date of a day counted from 1 January 1970. -/
def ofDays (days : Int) : CalendarDate :=
  let z := days + 719468
  let era := z / 146097
  let dayOfEra := z % 146097
  let yearOfEra := (dayOfEra - dayOfEra / 1460 + dayOfEra / 36524 - dayOfEra / 146096) / 365
  let dayOfYear := dayOfEra - (365 * yearOfEra + yearOfEra / 4 - yearOfEra / 100)
  let shifted := (5 * dayOfYear + 2) / 153
  let day := dayOfYear - (153 * shifted + 2) / 5 + 1
  let month := if shifted < 10 then shifted + 3 else shifted - 9
  let year := yearOfEra + era * 400
  ⟨if month ≤ 2 then year + 1 else year, month.toNat, day.toNat⟩

/-- The day of the week; Monday is zero. -/
def weekday (d : CalendarDate) : Nat := ((d.toDays + 3) % 7).toNat

end CalendarDate

end TypedWiki.Time
