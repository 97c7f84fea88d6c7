import RemoteQuery.Calendar.Date

namespace RemoteQuery.Calendar

open Number (paddedDigits)

/-- A time of day. Nanoseconds from 10⁹ on are those of a leap second behind the second. -/
@[ext]
structure TimeOfDay where
  hour : Nat
  minute : Nat
  second : Nat
  nanosecond : Nat
  hour_lt : hour < 24 := by decide
  minute_lt : minute < 60 := by decide
  second_lt : second < 60 := by decide
  nanosecond_lt : nanosecond < 2 * 10 ^ 9 := by decide
deriving DecidableEq

namespace TimeOfDay

instance : Inhabited TimeOfDay := ⟨0, 0, 0, 0, by decide, by decide, by decide, by decide⟩

def isLeapSecond (time : TimeOfDay) : Bool :=
  10 ^ 9 ≤ time.nanosecond

theorem isLeapSecond_eq_true_iff {time : TimeOfDay} :
    time.isLeapSecond = true ↔ 10 ^ 9 ≤ time.nanosecond :=
  decide_eq_true_iff

/-- The second that a clock shows: 60 in a leap second at the end of a minute, and in any other
leap second the number of the second behind it. -/
def shownSecond (time : TimeOfDay) : Nat :=
  time.second + if time.isLeapSecond then 1 else 0

def fraction (time : TimeOfDay) : Nat :=
  time.nanosecond % 10 ^ 9

/-- Universal time has leap seconds only at the end of a minute. -/
def Proper (time : TimeOfDay) : Prop :=
  time.isLeapSecond = true → time.second = 59

instance (time : TimeOfDay) : Decidable time.Proper :=
  inferInstanceAs (Decidable (_ → _))

def ofNumbers? (hour minute second nanosecond : Nat) : Option TimeOfDay :=
  if valid : hour < 24 ∧ minute < 60 ∧ second ≤ 60 ∧ nanosecond < 10 ^ 9 then
    some {
      hour, minute
      second := min second 59
      nanosecond := nanosecond + if second = 60 then 10 ^ 9 else 0
      hour_lt := valid.1
      minute_lt := valid.2.1
      second_lt := by omega
      nanosecond_lt := by split <;> omega }
  else none

/-- The seconds since midnight. A leap second counts as the second before it. -/
def secondOfDay (time : TimeOfDay) : Nat :=
  time.hour * 3600 + time.minute * 60 + time.second

theorem secondOfDay_lt (time : TimeOfDay) : time.secondOfDay < 86400 := by
  have := time.hour_lt
  have := time.minute_lt
  have := time.second_lt
  unfold secondOfDay
  omega

def ofSecond (second nanosecond : Nat) (second_lt : second < 86400)
    (nanosecond_lt : nanosecond < 2 * 10 ^ 9) : TimeOfDay where
  hour := second / 3600
  minute := second / 60 % 60
  second := second % 60
  nanosecond := nanosecond
  hour_lt := by omega
  minute_lt := by omega
  second_lt := by omega
  nanosecond_lt := nanosecond_lt

def clockChars (time : TimeOfDay) : List Char :=
  paddedDigits 2 time.hour ++ [':'] ++ paddedDigits 2 time.minute ++ [':'] ++
    paddedDigits 2 time.shownSecond

/-- A point and three, six or nine digits, the fewest that lose nothing. -/
def fractionChars (time : TimeOfDay) : List Char :=
  '.' ::
    if time.fraction % 10 ^ 6 = 0 then paddedDigits 3 (time.fraction / 10 ^ 6)
    else if time.fraction % 10 ^ 3 = 0 then paddedDigits 6 (time.fraction / 10 ^ 3)
    else paddedDigits 9 time.fraction

def toChars (time : TimeOfDay) : List Char :=
  time.clockChars ++ time.fractionChars

end TimeOfDay

structure DateTime where
  date : Date
  time : TimeOfDay
deriving DecidableEq, Inhabited

def DateTime.toChars (dateTime : DateTime) : List Char :=
  dateTime.date.toChars ++ [' '] ++ dateTime.time.toChars

/-- The seconds by which local time runs ahead of universal time: less than a day
either way. -/
structure Offset where
  seconds : Int
  within : -86400 < seconds ∧ seconds < 86400 := by decide
deriving DecidableEq

namespace Offset

def utc : Offset := ⟨0, by decide⟩

def ofSeconds? (seconds : Int) : Option Offset :=
  if within : -86400 < seconds ∧ seconds < 86400 then some ⟨seconds, within⟩ else none

/-- A sign, two digits for the hours and two for the minutes; a half minute goes
away from zero. -/
def toChars (offset : Offset) : List Char :=
  let minutes := (offset.seconds.natAbs + 30) / 60
  (if offset.seconds < 0 then '-' else '+') ::
    (paddedDigits 2 (minutes / 60) ++ [':'] ++ paddedDigits 2 (minutes % 60))

example : toChars ⟨20700, by decide⟩ = "+05:45".toList := by decide +kernel
example : toChars ⟨-30, by decide⟩ = "-00:01".toList := by decide +kernel
example : toChars ⟨-1, by decide⟩ = "-00:00".toList := by decide +kernel

end Offset

/-! ## Universal time -/

namespace DateTime

def utcDate? (dateTime : DateTime) (offset : Offset) : Option Date :=
  let second := (dateTime.time.secondOfDay : Int) - offset.seconds
  if second < 0 then dateTime.date.previous?
  else if 86400 ≤ second then dateTime.date.next?
  else some dateTime.date

def utcTime (dateTime : DateTime) (offset : Offset) : TimeOfDay :=
  .ofSecond (((dateTime.time.secondOfDay : Int) - offset.seconds) % 86400).toNat
    dateTime.time.nanosecond (by omega) dateTime.time.nanosecond_lt

end DateTime

structure Zoned where
  dateTime : DateTime
  offset : Offset
  inRange : (dateTime.utcDate? offset).isSome = true
deriving DecidableEq

namespace Zoned

def of? (dateTime : DateTime) (offset : Offset) : Option Zoned :=
  if inRange : (dateTime.utcDate? offset).isSome = true then some ⟨dateTime, offset, inRange⟩
  else none

theorem utcDate?_utc (dateTime : DateTime) :
    dateTime.utcDate? .utc = some dateTime.date := by
  have := dateTime.time.secondOfDay_lt
  have : Offset.utc.seconds = 0 := rfl
  unfold DateTime.utcDate?
  grind

def ofUtc (dateTime : DateTime) : Zoned :=
  ⟨dateTime, .utc, by simp [utcDate?_utc]⟩

def toChars (zoned : Zoned) : List Char :=
  zoned.dateTime.toChars ++ [' '] ++ zoned.offset.toChars

end Zoned

structure Instant where
  utc : DateTime
deriving DecidableEq, Inhabited

namespace Instant

def ofZoned (zoned : Zoned) : Instant :=
  ⟨⟨(zoned.dateTime.utcDate? zoned.offset).get zoned.inRange,
    zoned.dateTime.utcTime zoned.offset⟩⟩

/-- Date and time with a `T` between them and a `Z` behind them. A fraction of a
second is written only if there is one. -/
def toString (instant : Instant) : String :=
  let time := instant.utc.time
  String.ofList (instant.utc.date.toChars ++ ['T'] ++ time.clockChars ++
    (if time.fraction = 0 then [] else time.fractionChars) ++ ['Z'])

end Instant

end RemoteQuery.Calendar
