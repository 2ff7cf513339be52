/-!
# Times of reports

A moment in universal time as text, from the seconds since the start of 1970.
Years are counted from March on, so that the day of a leap year comes last.
-/

namespace ManifestLint

/-- A day of the calendar. -/
structure CalendarDay where
  year : Nat
  month : Nat
  day : Nat
deriving DecidableEq, Repr

/-- The day so many days after the first day of 1970.  The calendar repeats after
146097 days, which are 400 years. -/
def CalendarDay.ofEpochDay (epochDay : Nat) : CalendarDay :=
  let day := epochDay + 719468
  let dayOfEra := day % 146097
  let yearOfEra := (dayOfEra - dayOfEra / 1460 + dayOfEra / 36524 - dayOfEra / 146096) / 365
  let dayOfYear := dayOfEra - (365 * yearOfEra + yearOfEra / 4 - yearOfEra / 100)
  let monthFromMarch := (5 * dayOfYear + 2) / 153
  let month := if monthFromMarch < 10 then monthFromMarch + 3 else monthFromMarch - 9
  { year := yearOfEra + day / 146097 * 400 + (if month ≤ 2 then 1 else 0)
    month
    day := dayOfYear - (153 * monthFromMarch + 2) / 5 + 1 }

/-- A number with zeros before it up to a width. -/
def padZeros (width number : Nat) : String :=
  let digits := toString number
  String.ofList (List.replicate (width - digits.length) '0') ++ digits

/-- A fraction of a second, with as few groups of three digits as it needs. -/
def fractionText (nanoseconds : Nat) : String :=
  if nanoseconds = 0 then ""
  else if nanoseconds % 1000000 = 0 then "." ++ padZeros 3 (nanoseconds / 1000000)
  else if nanoseconds % 1000 = 0 then "." ++ padZeros 6 (nanoseconds / 1000)
  else "." ++ padZeros 9 nanoseconds

/-- The text of a moment. -/
def timestampText (seconds nanoseconds : Nat) : String :=
  let date := CalendarDay.ofEpochDay (seconds / 86400)
  let time := seconds % 86400
  padZeros 4 date.year ++ "-" ++ padZeros 2 date.month ++ "-" ++ padZeros 2 date.day ++ "T" ++
    padZeros 2 (time / 3600) ++ ":" ++ padZeros 2 (time / 60 % 60) ++ ":" ++
    padZeros 2 (time % 60) ++ fractionText nanoseconds ++ "+00:00"

end ManifestLint
