import RemoteQuery.Calendar.Time
import RemoteQuery.Text.Blank

namespace RemoteQuery.Calendar

open Number (digitsValue isDigit)
open Text (dropBlanks isBlank)

/-! Dates and times are read from left to right. Each reader takes what it knows from
the front of the text and leaves the rest. A number is checked against its own
limits where it stands; whether the numbers name a day of the calendar is asked
only when the whole text has been read. -/

inductive ReadError where
  /-- The text ends where something is still to come. -/
  | premature
  | invalid
  | outOfRange
  /-- Something is left at the end. -/
  | trailing
deriving Repr, DecidableEq

def ReadError.message : ReadError → String
  | .premature => "premature end of input"
  | .invalid => "input contains invalid characters"
  | .outOfRange => "input is out of range"
  | .trailing => "trailing input"

/-! ## Characters and numbers -/

def expect (expected : Char) : List Char → Except ReadError (List Char)
  | [] => .error .premature
  | c :: rest => if c = expected then .ok rest else .error .invalid

def leadingDigits (width : Nat) (text : List Char) : List Char :=
  (text.take width).takeWhile isDigit

def readDigits (width : Nat) (text : List Char) : Except ReadError (Nat × List Char) :=
  let digits := leadingDigits width text
  if text = [] then .error .premature
  else if digits = [] then .error .invalid
  else .ok (digitsValue digits, text.drop digits.length)

def readExactDigits (width : Nat) (text : List Char) : Except ReadError (Nat × List Char) :=
  let digits := leadingDigits width text
  let rest := text.drop digits.length
  if digits.length = width then .ok (digitsValue digits, rest)
  else if rest = [] then .error .premature
  else .error .invalid

def within (low high : Nat) (read : Nat × List Char) : Except ReadError (Nat × List Char) :=
  if low ≤ read.1 ∧ read.1 ≤ high then .ok read else .error .outOfRange

/-- A number of one or two digits between two limits, blanks in front. -/
def readField (low high : Nat) (text : List Char) : Except ReadError (Nat × List Char) := do
  within low high (← readDigits 2 (dropBlanks text))

def readExactField (low high : Nat) (text : List Char) : Except ReadError (Nat × List Char) := do
  within low high (← readExactDigits 2 text)

/-- Years are numbers of 32 bits until the calendar is asked. -/
def withinYear (read : Int × List Char) : Except ReadError (Int × List Char) :=
  if -(2 ^ 31 : Int) ≤ read.1 ∧ read.1 < (2 ^ 31 : Int) then .ok read else .error .outOfRange

/-- A year, blanks in front: up to four digits, or a sign and any number of them. -/
def readYear (text : List Char) : Except ReadError (Int × List Char) :=
  match dropBlanks text with
  | '-' :: rest => do
      let (year, after) ← readDigits rest.length rest
      withinYear (-(year : Int), after)
  | '+' :: rest => do
      let (year, after) ← readDigits rest.length rest
      withinYear ((year : Int), after)
  | rest => do
      let (year, after) ← readDigits 4 rest
      .ok ((year : Int), after)

def nanoseconds (digits : List Char) : Nat :=
  digitsValue (digits.take 9) * 10 ^ (9 - digits.length)

def readFraction : List Char → Except ReadError (Nat × List Char)
  | '.' :: rest =>
      let digits := rest.takeWhile isDigit
      if rest = [] then .error .premature
      else if digits = [] then .error .invalid
      else .ok (nanoseconds digits, rest.dropWhile isDigit)
  | text => .ok (0, text)

example : readFraction ".25Z".toList = .ok (250000000, ['Z']) := by rfl
example : readFraction ".1234567899".toList = .ok (123456789, []) := by rfl

/-! ## Dates and times -/

structure DateNumbers where
  year : Int
  month : Nat
  day : Nat
deriving Repr, DecidableEq

structure TimeNumbers where
  hour : Nat
  minute : Nat
  second : Nat
  nanosecond : Nat
deriving Repr, DecidableEq

def DateNumbers.toDate (numbers : DateNumbers) : Except ReadError Date :=
  match Date.ofNumbers? numbers.year numbers.month numbers.day with
  | some date => .ok date
  | none => .error .outOfRange

def TimeNumbers.toTime (numbers : TimeNumbers) : Except ReadError TimeOfDay :=
  match TimeOfDay.ofNumbers? numbers.hour numbers.minute numbers.second numbers.nanosecond with
  | some time => .ok time
  | none => .error .outOfRange

/-- Year, month and day with hyphens between them. Where `loose` is set, blanks may
stand in front of a hyphen. -/
def readDateNumbers (loose : Bool) (text : List Char) :
    Except ReadError (DateNumbers × List Char) := do
  let skip := fun rest => if loose then dropBlanks rest else rest
  let (year, rest) ← readYear text
  let rest ← expect '-' (skip rest)
  let (month, rest) ← readField 1 12 rest
  let rest ← expect '-' (skip rest)
  let (day, rest) ← readField 1 31 rest
  .ok (⟨year, month, day⟩, rest)

/-- Hour, minute and second with colons between them, and a fraction. Where `loose`
is set, blanks may stand in front of a colon. -/
def readTimeNumbers (loose : Bool) (text : List Char) :
    Except ReadError (TimeNumbers × List Char) := do
  let skip := fun rest => if loose then dropBlanks rest else rest
  let (hour, rest) ← readField 0 23 text
  let rest ← expect ':' (skip rest)
  let (minute, rest) ← readField 0 59 rest
  let rest ← expect ':' (skip rest)
  let (second, rest) ← readField 0 60 rest
  let (nanosecond, rest) ← readFraction rest
  .ok (⟨hour, minute, second, nanosecond⟩, rest)

def finish : List Char → Except ReadError Unit
  | [] => .ok ()
  | _ :: _ => .error .trailing

def readDate (text : List Char) : Except ReadError Date := do
  let (numbers, rest) ← readDateNumbers false text
  finish rest
  numbers.toDate

def readTime (text : List Char) : Except ReadError TimeOfDay := do
  let (numbers, rest) ← readTimeNumbers false text
  finish rest
  numbers.toTime

example : (readDate "2020-02-30".toList).toOption = none := by cbv
example : (readDate "2020- 2-9".toList).toOption = Date.ofNumbers? 2020 2 9 := by cbv

/-! ## Date and time together -/

inductive Separator where
  /-- Blanks, or nothing at all. -/
  | blanks
  /-- The letter `T`. -/
  | letter
deriving Repr, DecidableEq

def Separator.read : Separator → List Char → Except ReadError (List Char)
  | .blanks, text => .ok (dropBlanks text)
  | .letter, text => expect 'T' text

def readDateTimeNumbers (separator : Separator) (text : List Char) :
    Except ReadError ((DateNumbers × TimeNumbers) × List Char) := do
  let (date, rest) ← readDateNumbers false text
  let rest ← separator.read rest
  let (time, rest) ← readTimeNumbers false rest
  .ok ((date, time), rest)

def makeDateTime (numbers : DateNumbers × TimeNumbers) : Except ReadError DateTime := do
  let date ← numbers.1.toDate
  let time ← numbers.2.toTime
  .ok ⟨date, time⟩

def readDateTimeWith (separator : Separator) (text : List Char) : Except ReadError DateTime := do
  let (numbers, rest) ← readDateTimeNumbers separator text
  finish rest
  makeDateTime numbers

def readDateTime? (text : List Char) : Option DateTime :=
  (readDateTimeWith .blanks text).toOption.or (readDateTimeWith .letter text).toOption

/-! ## Offsets -/

/-- A plus sign, a hyphen or the minus sign U+2212; whether the offset is negative. -/
def readSign : List Char → Except ReadError (Bool × List Char)
  | [] => .error .premature
  | c :: rest =>
      if c = '+' then .ok (false, rest)
      else if c = '-' ∨ c = Char.ofNat 0x2212 then .ok (true, rest)
      else .error .invalid

/-- A sign, two digits for hours, what `between` skips, and two digits for minutes. -/
def readOffsetSeconds (between : List Char → Except ReadError (List Char)) (text : List Char) :
    Except ReadError (Int × List Char) := do
  let (negative, rest) ← readSign text
  let (hours, rest) ← readExactDigits 2 rest
  let rest ← between rest
  let (minutes, rest) ← readExactField 0 59 rest
  let seconds : Int := hours * 3600 + minutes * 60
  .ok (if negative then -seconds else seconds, rest)

def dropColons (text : List Char) : Except ReadError (List Char) :=
  .ok (text.dropWhile fun c => c = ':' ∨ isBlank c)

/-- `Z`, or an offset with what `between` skips between hours and minutes. -/
def readZone (between : List Char → Except ReadError (List Char)) :
    List Char → Except ReadError (Int × List Char)
  | 'Z' :: rest => .ok (0, rest)
  | 'z' :: rest => .ok (0, rest)
  | text => readOffsetSeconds between text

def makeZoned (numbers : DateNumbers × TimeNumbers) (seconds : Int) : Except ReadError Zoned := do
  let dateTime ← makeDateTime numbers
  match (Offset.ofSeconds? seconds).bind (Zoned.of? dateTime) with
  | some zoned => .ok zoned
  | none => .error .outOfRange

def readWithOffset (text : List Char) : Except ReadError Zoned := do
  let (numbers, rest) ← readDateTimeNumbers .blanks text
  let (seconds, rest) ← readOffsetSeconds dropColons (dropBlanks rest)
  finish rest
  makeZoned numbers seconds

/-! ## The internet date format

Date and time have fixed widths, the letter `T` or a space between them, and a zone
behind them: `2020-01-02T03:04:05.25+01:00`. -/

/-- The separator of date and time: `T`, `t` or one space. -/
def readInternetSeparator : List Char → Except ReadError (List Char)
  | [] => .error .premature
  | c :: rest => if c = 'T' ∨ c = 't' ∨ c = ' ' then .ok rest else .error .invalid

def readInternet (text : List Char) : Except ReadError Zoned := do
  let (year, rest) ← readExactDigits 4 text
  let rest ← expect '-' rest
  let (month, rest) ← readExactField 1 12 rest
  let rest ← expect '-' rest
  let (day, rest) ← readExactField 1 31 rest
  let rest ← readInternetSeparator rest
  let (hour, rest) ← readExactField 0 23 rest
  let rest ← expect ':' rest
  let (minute, rest) ← readExactField 0 59 rest
  let rest ← expect ':' rest
  let (second, rest) ← readExactField 0 60 rest
  let (nanosecond, rest) ← readFraction rest
  let (seconds, rest) ← readZone (expect ':') rest
  finish rest
  makeZoned (⟨year, month, day⟩, ⟨hour, minute, second, nanosecond⟩) seconds

/-- The name `UTC` in any letter case, `Z`, or an offset with colons and blanks. -/
def readLooseZone (text : List Char) : Except ReadError (Int × List Char) :=
  if (text.take 3).map Char.toLower = ['u', 't', 'c'] then .ok (0, text.drop 3)
  else readZone dropColons text

/-- The internet date format with numbers of fewer digits, and with blanks between its
parts and at its end. -/
def readInternetLoosely (text : List Char) : Except ReadError Zoned := do
  let (date, rest) ← readDateNumbers true text
  let rest ← readInternetSeparator rest
  let (time, rest) ← readTimeNumbers true rest
  let (seconds, rest) ← readLooseZone (dropBlanks rest)
  finish (dropBlanks rest)
  makeZoned (date, time) seconds

def Instant.read? (text : String) : Option Instant :=
  (readInternetLoosely text.toList).toOption.map Instant.ofZoned

example : (Instant.read? "2020-01-01T00:30:00+01:00").map Instant.toString =
    some "2019-12-31T23:30:00Z" := by cbv

/-! ## Timestamps with a zone -/

def splitLastSpace? (text : List Char) : Option (List Char × List Char) :=
  match text.reverse.dropWhile (· ≠ ' ') with
  | [] => none
  | _ :: body => some (body.reverse, (text.reverse.takeWhile (· ≠ ' ')).reverse)

example : splitLastSpace? "a b c".toList = some ("a b".toList, "c".toList) := by decide +kernel

def readUtcName? (text : List Char) : Option Zoned :=
  match splitLastSpace? text with
  | none => none
  | some (body, zone) =>
      if zone = "UTC".toList ∨ zone = "Z".toList then (readDateTime? body).map Zoned.ofUtc
      else none

/-- A timestamp with a zone: in the internet format, with an offset, or with the name
of universal time. -/
def readZoned? (text : List Char) : Option Zoned :=
  ((readInternet text).toOption.or (readWithOffset text).toOption).or (readUtcName? text)

end RemoteQuery.Calendar
