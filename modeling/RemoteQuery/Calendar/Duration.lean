import RemoteQuery.Number.Decimal

namespace RemoteQuery.Calendar

/-! Spans of time, counted in nanoseconds. -/

abbrev Duration := Nat

namespace Duration

/-- Durations are shorter: their whole seconds are counted with 64 bits. -/
def limit : Duration :=
  2 ^ 64 * 10 ^ 9

def ofMillis (millis : Nat) : Duration :=
  millis * 10 ^ 6

def toMillis (duration : Duration) : Nat :=
  duration / 10 ^ 6

/-- A count of units of `10 ^ places` nanoseconds, without zeros at the end of its
fraction. -/
def inUnit (duration places : Nat) : List Char :=
  let fraction := Number.paddedDigits places (duration % 10 ^ places)
  let shown := (fraction.reverse.dropWhile (· = '0')).reverse
  Number.digits (duration / 10 ^ places) ++
    if shown = [] ∨ places = 0 then [] else '.' :: shown

/-- The text of a duration, in the greatest unit up to seconds of which it has at least
one. -/
def toString (duration : Duration) : String :=
  String.ofList <|
    if 10 ^ 9 ≤ duration then inUnit duration 9 ++ ['s']
    else if 10 ^ 6 ≤ duration then inUnit duration 6 ++ ['m', 's']
    else if 10 ^ 3 ≤ duration then inUnit duration 3 ++ [Char.ofNat 0xB5, 's']
    else inUnit duration 0 ++ ['n', 's']

example : toString (ofMillis 40) = "40ms" := by cbv
example : toString (ofMillis 1500) = "1.5s" := by cbv
example : toString 0 = "0ns" := by cbv

end Duration

end RemoteQuery.Calendar
