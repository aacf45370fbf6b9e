import BuildMonitor.Text.Split

/-!
# Points in time

A point in time is a number of seconds since the start of 1970 and a number of nanoseconds within
the second. It is shown as a calendar date and a time of day, with six decimals that cut the
nanoseconds off.

Main definitions: `Instant`, `Instant.timestamp`, `Instant.dateStamp`.
-/

namespace BuildMonitor.Host

open BuildMonitor.Text

/-- A point in time. -/
structure Instant where
  seconds : Int
  nanoseconds : Nat
  deriving DecidableEq, Repr, Inhabited

/-- A day of the proleptic Gregorian calendar. -/
structure CivilDate where
  year : Int
  month : Nat
  day : Nat
  deriving DecidableEq, Repr

/-- The date of a day counted from the first of January 1970. Years are counted from March within
eras of 400 years, so that the leap day is the last day of its year. -/
def CivilDate.ofDay (dayNumber : Int) : CivilDate :=
  let shifted := dayNumber + 719468
  let era := Int.fdiv shifted 146097
  let dayOfEra := (shifted - era * 146097).toNat
  let yearOfEra := (dayOfEra - dayOfEra / 1460 + dayOfEra / 36524 - dayOfEra / 146096) / 365
  let dayOfYear := dayOfEra - (365 * yearOfEra + yearOfEra / 4 - yearOfEra / 100)
  let monthFromMarch := (5 * dayOfYear + 2) / 153
  let day := dayOfYear - (153 * monthFromMarch + 2) / 5 + 1
  let month := if monthFromMarch < 10 then monthFromMarch + 3 else monthFromMarch - 9
  let year : Int := yearOfEra + era * 400 + (if month ≤ 2 then 1 else 0)
  ⟨year, month, day⟩

/-- The year in four digits; a year that needs more, or lies before the year zero, has a sign. -/
def yearText (year : Int) : String :=
  if year < 0 then "-" ++ padded 4 year.natAbs
  else if 9999 < year then "+" ++ padded 4 year.natAbs
  else padded 4 year.natAbs

namespace Instant

/-- The whole days since the first of January 1970. -/
def dayNumber (instant : Instant) : Int := Int.fdiv instant.seconds 86400

/-- The calendar date. -/
def date (instant : Instant) : CivilDate := .ofDay instant.dayNumber

/-- The seconds since midnight. -/
def secondOfDay (instant : Instant) : Nat :=
  (instant.seconds - instant.dayNumber * 86400).toNat

/-- The date and the time of day, as log lines and reports show it. -/
def timestamp (instant : Instant) : String :=
  let date := instant.date
  let second := instant.secondOfDay
  s!"{yearText date.year}-{padded 2 date.month}-{padded 2 date.day}T" ++
    s!"{padded 2 (second / 3600)}:{padded 2 (second / 60 % 60)}:{padded 2 (second % 60)}." ++
    padded 6 (instant.nanoseconds / 1000)

/-- The date in eight digits, as download names hold it. -/
def dateStamp (instant : Instant) : String :=
  let date := instant.date
  yearText date.year ++ padded 2 date.month ++ padded 2 date.day

/-- The time some nanoseconds later. -/
def later (instant : Instant) (nanoseconds : Nat) : Instant :=
  let total := instant.nanoseconds + nanoseconds
  ⟨instant.seconds + (total / 1000000000 : Nat), total % 1000000000⟩

/-- Whether a time is not later than another. -/
def isReachedBy (instant now : Instant) : Bool :=
  instant.seconds < now.seconds ||
    (instant.seconds = now.seconds && instant.nanoseconds ≤ now.nanoseconds)

end Instant

end BuildMonitor.Host
