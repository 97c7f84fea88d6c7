import RemoteQuery.Calendar.Time

namespace RemoteQuery.Calendar

/-! Times counted from the start of the year 1970 in universal time. -/

/-- The date a number of days after the first of January 1970, if the calendar has it.
Years are counted from March here, so that a leap day is the last day of its year, and
in groups of 400, which all have the same number of days. -/
def Date.ofDayNumber? (day : Int) : Option Date :=
  let fromMarch := day + 719468
  let era := Int.fdiv fromMarch 146097
  let dayOfEra := (fromMarch - era * 146097).toNat
  let yearOfEra := (dayOfEra - dayOfEra / 1460 + dayOfEra / 36524 - dayOfEra / 146096) / 365
  let dayOfYear := dayOfEra - (365 * yearOfEra + yearOfEra / 4 - yearOfEra / 100)
  let monthFromMarch := (5 * dayOfYear + 2) / 153
  let dayOfMonth := dayOfYear - (153 * monthFromMarch + 2) / 5 + 1
  let month := if monthFromMarch < 10 then monthFromMarch + 3 else monthFromMarch - 9
  let year := (yearOfEra : Int) + era * 400 + if month ≤ 2 then 1 else 0
  ofNumbers? year month dayOfMonth

example : Date.ofDayNumber? 0 = Date.ofNumbers? 1970 1 1 := by decide +kernel
example : Date.ofDayNumber? 18321 = Date.ofNumbers? 2020 2 29 := by decide +kernel
example : Date.ofDayNumber? (-1) = Date.ofNumbers? 1969 12 31 := by decide +kernel

/-- The point in time a number of milliseconds after the start of 1970, if the calendar
has it. -/
def Instant.ofMillis? (millis : Int) : Option Instant :=
  let ofDay := (millis % 86400000).toNat
  (Date.ofDayNumber? (Int.fdiv millis 86400000)).map fun date =>
    ⟨⟨date, .ofSecond (ofDay / 1000) (ofDay % 1000 * 10 ^ 6) (by omega) (by omega)⟩⟩

example : (Instant.ofMillis? 1577836800250).map Instant.toString =
    some "2020-01-01T00:00:00.250Z" := by cbv

end RemoteQuery.Calendar
