import RemoteQuery.Number.Decimal

namespace RemoteQuery.Number

/-! Numbers of the 64-bit binary format of IEEE 754, by their bits: one for the sign,
eleven for the exponent and 52 for the fraction. Reading and writing are computed
on whole numbers, so nothing is rounded but the number itself. -/

structure Binary64 where
  bits : UInt64
deriving Repr, DecidableEq, Inhabited

namespace Binary64

/-- The bits behind the sign, as a number. It grows with the absolute value. -/
def magnitude (number : Binary64) : Nat :=
  number.bits.toNat % 2 ^ 63

def isNegative (number : Binary64) : Bool :=
  2 ^ 63 ≤ number.bits.toNat

/-- The magnitude of an infinity. What is greater is not a number. -/
def infiniteMagnitude : Nat := 0x7FF * 2 ^ 52

def isNaN (number : Binary64) : Bool :=
  infiniteMagnitude < number.magnitude

def isFinite (number : Binary64) : Bool :=
  number.magnitude < infiniteMagnitude

def ofMagnitude (negative : Bool) (magnitude : Nat) : Binary64 :=
  ⟨.ofNat (magnitude + if negative then 2 ^ 63 else 0)⟩

def zero : Binary64 := ofMagnitude false 0
def infinity (negative : Bool) : Binary64 := ofMagnitude negative infiniteMagnitude

/-- The not-a-number with a clear sign and one fraction bit, the highest. -/
def nan (negative : Bool) : Binary64 := ofMagnitude negative (infiniteMagnitude + 2 ^ 51)

def significand (number : Binary64) : Nat :=
  let fraction := number.magnitude % 2 ^ 52
  if number.magnitude / 2 ^ 52 = 0 then fraction else fraction + 2 ^ 52

/-- The power of two that the significand counts. -/
def exponent (number : Binary64) : Int :=
  let field : Nat := number.magnitude / 2 ^ 52
  if field = 0 then -1074 else (field : Int) - 1075

/-! ## Rounding a quotient -/

/-- The quotient to the nearest whole number; of two equally near ones, the even. -/
def divideToEven (numerator denominator : Nat) : Nat :=
  let below := numerator / denominator
  let excess := 2 * (numerator % denominator)
  if excess < denominator then below
  else if denominator < excess then below + 1
  else below + below % 2

def scaledDown (numerator denominator : Nat) (power : Int) : Nat × Nat :=
  (numerator * 2 ^ (-power).toNat, denominator * 2 ^ power.toNat)

def binaryExponent (numerator denominator : Nat) : Int :=
  let estimate := (numerator.log2 : Int) - denominator.log2
  let (dividend, divisor) := scaledDown numerator denominator estimate
  if divisor ≤ dividend then estimate else estimate - 1

/-- The number nearest to a quotient; of two equally near ones, that with the even
significand. A significand of 53 bits that rounding carries to 2 ^ 53 moves on to
the next exponent, because the exponent bits stand right above the fraction. -/
def ofRatio (negative : Bool) (numerator denominator : Nat) : Binary64 :=
  if numerator = 0 then ofMagnitude negative 0
  else
    let exponent := max (binaryExponent numerator denominator - 52) (-1074)
    let (dividend, divisor) := scaledDown numerator denominator exponent
    let magnitude := divideToEven dividend divisor + (exponent + 1074).toNat * 2 ^ 52
    ofMagnitude negative (min magnitude infiniteMagnitude)

example : ofRatio false 1 10 = ⟨0x3FB999999999999A⟩ := by decide +kernel
example : ofRatio true 1 1 = ⟨0xBFF0000000000000⟩ := by decide +kernel
example : ofRatio false (10 ^ 309) 1 = infinity false := by decide +kernel

/-! ## Reading -/

def spanDigits (text : List Char) : List Char × List Char :=
  (text.takeWhile isDigit, text.dropWhile isDigit)

/-- The exponent of a text that has none, or has one with an optional sign. -/
def readExponent? : List Char → Option Int
  | [] => some 0
  | mark :: rest =>
      if Decimal.isExponentMark mark then
        let (negative, digits) :=
          match rest with
          | '-' :: digits => (true, digits)
          | '+' :: digits => (false, digits)
          | digits => (false, digits)
        if digits ≠ [] ∧ digits.all isDigit then
          let value := (digitsValue digits : Int)
          some (if negative then -value else value)
        else none
      else none

/-- The number nearest to `significand · 10 ^ exponent`. Far from the range of the
format the answer is known without the power. -/
def ofScientific (negative : Bool) (significand : Nat) (exponent : Int) : Binary64 :=
  if significand = 0 then ofMagnitude negative 0
  else
    let places := ((digits significand).length : Int) + exponent
    if 310 < places then infinity negative
    else if places < -330 then ofMagnitude negative 0
    else ofRatio negative (significand * 10 ^ exponent.toNat) (10 ^ (-exponent).toNat)

/-- A number in decimal notation without its sign: digits with an optional point
among, before or behind them, and an optional exponent. -/
def readDecimal? (negative : Bool) (text : List Char) : Option Binary64 :=
  let (whole, afterWhole) := spanDigits text
  let (places, afterPlaces) :=
    match afterWhole with
    | '.' :: rest => spanDigits rest
    | rest => ([], rest)
  if whole = [] ∧ places = [] then none
  else
    (readExponent? afterPlaces).map fun exponent =>
      ofScientific negative (digitsValue (whole ++ places)) (exponent - places.length)

/-- A number without its sign; the names of the numbers that have no digits may be
in any letter case. -/
def readUnsigned? (negative : Bool) (text : List Char) : Option Binary64 :=
  match String.ofList (text.map Char.toLower) with
  | "inf" | "infinity" => some (infinity negative)
  | "nan" => some (nan negative)
  | _ => readDecimal? negative text

/-- Read a number such as `1.5`, `-.5e3`, `7.` or `+Infinity`. -/
def read? : List Char → Option Binary64
  | '-' :: rest => readUnsigned? true rest
  | '+' :: rest => readUnsigned? false rest
  | text => readUnsigned? false text

example : read? "0.1".toList = some ⟨0x3FB999999999999A⟩ := by decide +kernel
example : read? "-.5e1".toList = some ⟨0xC014000000000000⟩ := by decide +kernel
example : read? "4.9e-324".toList = some ⟨1⟩ := by decide +kernel
example : read? "-INF".toList = some (infinity true) := by decide +kernel
example : read? ".".toList = none := by decide +kernel
example : read? "1e".toList = none := by decide +kernel

/-! ## Arithmetic -/

/-- A finite number multiplied by a whole number, rounded to the nearest. -/
def scaleBy (factor : Nat) (number : Binary64) : Binary64 :=
  ofRatio number.isNegative (number.significand * factor * 2 ^ number.exponent.toNat)
    (2 ^ (-number.exponent).toNat)

/-- The absolute value of a finite number as the nearest whole number; a half goes
up. -/
def nearestNat (number : Binary64) : Nat :=
  let dividend := number.significand * 2 ^ number.exponent.toNat
  let divisor := 2 ^ (-number.exponent).toNat
  (2 * dividend + divisor) / (2 * divisor)

example : nearestNat ⟨0x3FE0000000000000⟩ = 1 := by decide +kernel

/-! ## The shortest text -/

/-- The least count of places `k` for which the quotient, at most one, reaches one
when the point moves by `k`. -/
def leadingPlaces (numerator denominator : Nat) : Nat :=
  let least := (denominator + numerator - 1) / numerator
  if least ≤ 1 then 0 else (digits (least - 1)).length

def decimalExponent (numerator denominator : Nat) : Int :=
  if denominator ≤ numerator then ((digits (numerator / denominator)).length : Int) - 1
  else -(leadingPlaces numerator denominator : Int)

/-- The numbers that are nearer to one finite number than to its neighbours. All
three fields count the same unit, `1 / denominator`. -/
structure Neighbourhood where
  low : Nat
  value : Nat
  high : Nat
  denominator : Nat
  /-- The ends themselves round to the number. -/
  endsBelong : Bool
deriving Repr

/-- The neighbourhood of a finite number. Below a power of two the neighbours are
half as far apart as above it; the ends belong to an even significand. -/
def neighbourhood (number : Binary64) : Neighbourhood :=
  let atPower := number.magnitude % 2 ^ 52 = 0 ∧ 1 < number.magnitude / 2 ^ 52
  let power := 2 ^ number.exponent.toNat
  { low := (4 * number.significand - if atPower then 1 else 2) * power
    value := 4 * number.significand * power
    high := (4 * number.significand + 2) * power
    denominator := 4 * 2 ^ (-number.exponent).toNat
    endsBelong := number.significand % 2 = 0 }

def Neighbourhood.holds (around : Neighbourhood) (power : Int) (multiple : Nat) : Bool :=
  let point := multiple * 10 ^ power.toNat * around.denominator
  let unit := 10 ^ (-power).toNat
  if around.endsBelong then around.low * unit ≤ point ∧ point ≤ around.high * unit
  else around.low * unit < point ∧ point < around.high * unit

/-- The multiple of `10 ^ power` that is nearest to the value and in its
neighbourhood, if there is one. A value halfway between two takes the greater. -/
def Neighbourhood.nearest? (around : Neighbourhood) (power : Int) : Option Nat :=
  let dividend := around.value * 10 ^ (-power).toNat
  let divisor := around.denominator * 10 ^ power.toNat
  let below := dividend / divisor
  match around.holds power below, around.holds power (below + 1) with
  | true, true => some (if 2 * (dividend % divisor) < divisor then below else below + 1)
  | true, false => some below
  | false, true => some (below + 1)
  | false, false => none

/-- Try the multiples of `10 ^ top`, then those of the powers below it. -/
def Neighbourhood.shortestFrom (around : Neighbourhood) (top : Int) : Nat → Nat → Decimal
  | 0, _ => ⟨around.value / around.denominator, 0⟩
  | tries + 1, count =>
      let power := top - count
      match around.nearest? power with
      | some multiple => ⟨multiple, -power⟩
      | none => around.shortestFrom top tries (count + 1)

/-- The decimal with the fewest digits that reads back as the absolute value of a
finite number, and of those the nearest. The search begins at the power of ten
above the value, which has one digit like the multiples of the power below.
Seventeen digits are enough for any number of the format. -/
def shortest (number : Binary64) : Decimal :=
  if number.significand = 0 then ⟨0, 0⟩
  else
    let around := number.neighbourhood
    around.shortestFrom (decimalExponent around.value around.denominator + 1) 18 0

/-- The text of a number: `NaN`, `Infinity`, or the shortest digits in plain notation,
without a point where there are no places. The sign of zero is kept. -/
def toString (number : Binary64) : String :=
  if number.isNaN then "NaN"
  else
    let sign := if number.isNegative then ['-'] else []
    String.ofList (sign ++
      if number.isFinite then number.shortest.plain else "Infinity".toList)

example : toString ⟨0x3FB999999999999A⟩ = "0.1" := by decide +kernel
example : toString ⟨0x8000000000000000⟩ = "-0" := by decide +kernel
example : toString ⟨0x4059000000000000⟩ = "100" := by decide +kernel
example : toString ⟨0xFFF0000000000000⟩ = "-Infinity" := by decide +kernel
example : shortest ⟨1⟩ = ⟨5, 324⟩ := by decide +kernel
example : shortest ⟨0x44B52D02C7E14AF6⟩ = ⟨1, -23⟩ := by decide +kernel

end Binary64

end RemoteQuery.Number
