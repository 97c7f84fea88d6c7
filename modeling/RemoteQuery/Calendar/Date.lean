import RemoteQuery.Number.Integer

namespace RemoteQuery.Calendar

open Number (digits paddedDigits)

/-! Dates of the Gregorian calendar, carried on into the past and the future. -/

def isLeapYear (year : Int) : Bool :=
  year % 4 = 0 ∧ (year % 100 ≠ 0 ∨ year % 400 = 0)

def daysInMonth (year : Int) : Nat → Nat
  | 2 => if isLeapYear year then 29 else 28
  | 4 | 6 | 9 | 11 => 30
  | _ => 31

def firstYear : Int := -262143
def lastYear : Int := 262142

def isDate (year : Int) (month day : Nat) : Bool :=
  firstYear ≤ year ∧ year ≤ lastYear ∧ 1 ≤ month ∧ month ≤ 12 ∧
    1 ≤ day ∧ day ≤ daysInMonth year month

structure Date where
  year : Int
  month : Nat
  day : Nat
  isDate : isDate year month day = true
deriving DecidableEq

namespace Date

def ofNumbers? (year : Int) (month day : Nat) : Option Date :=
  if valid : Calendar.isDate year month day = true then some ⟨year, month, day, valid⟩ else none

theorem ofNumbers?_eq_some_iff {year : Int} {month day : Nat} {date : Date} :
    ofNumbers? year month day = some date ↔
      date.year = year ∧ date.month = month ∧ date.day = day := by
  obtain ⟨_, _, _, valid⟩ := date
  unfold ofNumbers?
  constructor
  · intro made
    split at made <;> simp_all
  · rintro ⟨rfl, rfl, rfl⟩
    simp [valid]

instance : Inhabited Date := ⟨1970, 1, 1, by decide⟩

def next? (date : Date) : Option Date :=
  (ofNumbers? date.year date.month (date.day + 1)).or
    ((ofNumbers? date.year (date.month + 1) 1).or
      (ofNumbers? (date.year + 1) 1 1))

def previous? (date : Date) : Option Date :=
  (ofNumbers? date.year date.month (date.day - 1)).or
    ((ofNumbers? date.year (date.month - 1) (daysInMonth date.year (date.month - 1))).or
      (ofNumbers? (date.year - 1) 12 31))

example : (ofNumbers? 2020 2 28).bind next? = ofNumbers? 2020 2 29 := by decide
example : (ofNumbers? 2019 12 31).bind next? = ofNumbers? 2020 1 1 := by decide
example : (ofNumbers? 2019 3 1).bind previous? = ofNumbers? 2019 2 28 := by decide
example : (ofNumbers? lastYear 12 31).bind next? = none := by decide

/-- Years from 0 to 9999 have four digits. All others have a sign and at least four
digits. -/
def yearDigits (year : Int) : List Char :=
  if 0 ≤ year ∧ year ≤ 9999 then paddedDigits 4 year.natAbs
  else (if year < 0 then '-' else '+') :: paddedDigits 4 year.natAbs

example : yearDigits 79 = ['0', '0', '7', '9'] := by decide +kernel
example : yearDigits (-1) = ['-', '0', '0', '0', '1'] := by decide +kernel
example : yearDigits 10000 = ['+', '1', '0', '0', '0', '0'] := by decide +kernel

def toChars (date : Date) : List Char :=
  yearDigits date.year ++ ['-'] ++ paddedDigits 2 date.month ++ ['-'] ++ paddedDigits 2 date.day

end Date

end RemoteQuery.Calendar
