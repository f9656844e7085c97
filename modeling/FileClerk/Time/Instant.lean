import FileClerk.Text.Basic

/-!
# Instants and calendar dates

An instant counts seconds since the start of 1970 in universal time, and nanoseconds after that
second. Its text is the date and time of day in the common calendar, with the fewest of 0, 3, 6 or 9
decimal places that lose nothing. `Instant.text?` has no text for a year that the calendar used here
does not reach.
-/

namespace FileClerk

structure Instant where
  seconds : Int
  nanos : Nat
  deriving DecidableEq, Repr

/-- A day of the common calendar, continued backwards; the year 0 comes before the year 1. -/
structure CalendarDate where
  year : Int
  month : Nat
  day : Nat
  deriving DecidableEq, Repr

namespace CalendarDate

/-- The date so many days after 1 January 1970. Years are counted from March, so that a leap day
ends a year, in eras of 400 years or 146097 days. -/
def ofDays (days : Int) : CalendarDate :=
  let sinceEra := days + 719468
  let era := sinceEra.fdiv 146097
  let dayOfEra := (sinceEra.fmod 146097).toNat
  let yearOfEra := (dayOfEra - dayOfEra / 1460 + dayOfEra / 36524 - dayOfEra / 146096) / 365
  let dayOfYear := dayOfEra - (365 * yearOfEra + yearOfEra / 4 - yearOfEra / 100)
  let fromMarch := (5 * dayOfYear + 2) / 153
  let month := if fromMarch < 10 then fromMarch + 3 else fromMarch - 9
  { year := era * 400 + yearOfEra + (if month ≤ 2 then 1 else 0)
    month := month
    day := dayOfYear - (153 * fromMarch + 2) / 5 + 1 }

/-- The years the calendar reaches. -/
def firstYear : Int := -262143

def lastYear : Int := 262142

/-- A year of four digits at least; one beyond them carries its sign. -/
def yearText (year : Int) : Text :=
  if year < 0 then '-' :: Text.ofNatPadded 4 year.natAbs
  else if year ≤ 9999 then Text.ofNatPadded 4 year.toNat
  else '+' :: Text.ofNatPadded 4 year.toNat

def text (date : CalendarDate) : Text :=
  yearText date.year ++ ['-'] ++ Text.ofNatPadded 2 date.month ++ ['-']
    ++ Text.ofNatPadded 2 date.day

end CalendarDate

namespace Instant

def fractionText (nanos : Nat) : Text :=
  if nanos = 0 then []
  else if nanos % 1000000 = 0 then '.' :: Text.ofNatPadded 3 (nanos / 1000000)
  else if nanos % 1000 = 0 then '.' :: Text.ofNatPadded 6 (nanos / 1000)
  else '.' :: Text.ofNatPadded 9 nanos

def date (t : Instant) : CalendarDate := CalendarDate.ofDays (t.seconds.fdiv 86400)

def timeOfDayText (t : Instant) : Text :=
  let second := (t.seconds.fmod 86400).toNat
  Text.ofNatPadded 2 (second / 3600) ++ [':'] ++ Text.ofNatPadded 2 (second / 60 % 60) ++ [':']
    ++ Text.ofNatPadded 2 (second % 60)

/-- The time of day to the millisecond. -/
def clockText (t : Instant) : Text :=
  t.timeOfDayText ++ '.' :: Text.ofNatPadded 3 (t.nanos / 1000000)

/-- Date and time of day in universal time. -/
def text? (t : Instant) : Option Text :=
  if CalendarDate.firstYear ≤ t.date.year ∧ t.date.year ≤ CalendarDate.lastYear then
    some (t.date.text ++ ['T'] ++ t.timeOfDayText ++ fractionText t.nanos ++ "+00:00".toList)
  else none

end Instant

end FileClerk
