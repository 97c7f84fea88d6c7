import RemoteQuery.Number.Integer

namespace RemoteQuery.Number

/-- A decimal number of any size: `unscaled` divided by ten to the power `scale`.
The scale is part of the number, so that 0.1 and 0.10 differ. -/
structure Decimal where
  unscaled : Int
  scale : Int
deriving Repr, DecidableEq, Inhabited

namespace Decimal

/-! ## Reading -/

inductive ReadError where
  /-- Nothing stands before the exponent. -/
  | empty
  /-- The scale does not fit 64 bits. The whole text is kept for the message. -/
  | exponentOverflow (text : List Char)
  /-- The digits or the exponent are no integer. -/
  | integer (error : IntegerError)
deriving Repr, DecidableEq

def ReadError.message : ReadError → String
  | .empty => "Failed to parse empty string"
  | .exponentOverflow text => s!"Exponent overflow when parsing '{String.ofList text}'"
  | .integer error => error.message

/-- Digits of any number, between which underscores may stand. -/
def readGroupedDigits : Nat → List Char → Except IntegerError Nat
  | value, [] => .ok value
  | value, '_' :: rest => readGroupedDigits value rest
  | value, c :: rest =>
      match digit? c with
      | none => .error .invalidDigit
      | some digit => readGroupedDigits (value * 10 + digit) rest

/-- One or more digits; an underscore does not come first. -/
def readGroupedMagnitude : List Char → Except IntegerError Nat
  | [] => .error .empty
  | '_' :: _ => .error .invalidDigit
  | digits => readGroupedDigits 0 digits

def readGrouped : List Char → Except IntegerError Int
  | '-' :: digits => (readGroupedMagnitude digits).map fun value => -(value : Int)
  | '+' :: digits => (readGroupedMagnitude digits).map Int.ofNat
  | digits => (readGroupedMagnitude digits).map Int.ofNat

def isExponentMark (c : Char) : Bool :=
  c = 'e' ∨ c = 'E'

/-- The text before the exponent mark, and the exponent behind it. Without a mark
the exponent is zero. -/
def splitExponent (text : List Char) : Except IntegerError (List Char × Int) :=
  match text.dropWhile (!isExponentMark ·) with
  | [] => .ok (text, 0)
  | _ :: exponent => (readInt128 exponent).map fun value =>
      (text.takeWhile (!isExponentMark ·), value)

/-- The text without its first point, and the number of places behind it.
Underscores are no places. -/
def removePoint (text : List Char) : List Char × Nat :=
  match text.dropWhile (· ≠ '.') with
  | [] => (text, 0)
  | _ :: places =>
      (text.takeWhile (· ≠ '.') ++ places, (places.filter (· ≠ '_')).length)

def scaleInRange (scale : Int) : Bool :=
  -(2 ^ 63 : Int) ≤ scale ∧ scale < (2 ^ 63 : Int)

/-- Read a number such as `-12.50`, `.5`, `7.` or `1.5e-3`. Nothing is rounded: the
scale is the count of written places less the exponent. -/
def read (text : List Char) : Except ReadError Decimal :=
  match splitExponent text with
  | .error error => .error (.integer error)
  | .ok (base, exponent) =>
      if base.isEmpty then .error .empty
      else
        let (digits, places) := removePoint base
        let scale := (places : Int) - exponent
        if scaleInRange scale then
          match readGrouped digits with
          | .error error => .error (.integer error)
          | .ok unscaled => .ok { unscaled, scale }
        else
          .error (.exponentOverflow text)

example : read "0.10".toList = .ok ⟨10, 2⟩ := by cbv
example : read "-1.5e-3".toList = .ok ⟨-15, 4⟩ := by cbv
example : read "1E+02".toList = .ok ⟨1, -2⟩ := by cbv
example : read "1..2".toList = .error (.integer .invalidDigit) := by cbv

/-! ## Padding -/

def padTo (scale : Int) (number : Decimal) : Decimal :=
  if number.scale < scale then
    { unscaled := number.unscaled * 10 ^ (scale - number.scale).toNat, scale }
  else
    number

@[simp] theorem padTo_scale (scale : Int) (number : Decimal) :
    (number.padTo scale).scale = max number.scale scale := by
  unfold padTo
  split <;> grind

example : padTo 2 ⟨1, 1⟩ = ⟨10, 2⟩ := by decide
example : padTo 2 ⟨123456, 5⟩ = ⟨123456, 5⟩ := by decide

/-! ## Writing -/

/-- Digits with a point before the last `places` of them. -/
def placePoint (digits : List Char) (places : Nat) : List Char :=
  if places = 0 then digits
  else if places < digits.length then
    digits.take (digits.length - places) ++ '.' :: digits.drop (digits.length - places)
  else
    '0' :: '.' :: (List.replicate (places - digits.length) '0' ++ digits)

/-- Plain notation: never an exponent, and exactly `scale` places. A negative scale
is written as zeros. The text is as long as it takes, and there is memory for it. -/
def plain (number : Decimal) : List Char :=
  let digits := digits number.unscaled.natAbs
  let magnitude :=
    if number.scale ≤ 0 then digits ++ List.replicate (-number.scale).toNat '0'
    else placePoint digits number.scale.toNat
  if number.unscaled < 0 then '-' :: magnitude else magnitude

example : plain ⟨-5, 2⟩ = "-0.05".toList := by decide +kernel
example : plain ⟨12345, 2⟩ = "123.45".toList := by decide +kernel
example : plain ⟨1, -2⟩ = "100".toList := by decide +kernel

def toString (number : Decimal) : String :=
  String.ofList number.plain

end Decimal

end RemoteQuery.Number
