namespace RemoteQuery.Number

/-! Whole numbers in decimal notation. Reading goes from left to right and stops at
the first character that is no digit, or at the first digit that takes the value
past the end of the range; whichever comes first names the error. -/

/-- Powers are taken as they come with the numbers, also where algebra is imported that has
powers of its own. -/
@[reducible, default_instance 20001]
instance (priority := 2000) naturalPower : Pow Nat Nat :=
  @instPowNat Nat instNatPowNat

@[reducible, default_instance 20000]
instance (priority := 2000) integerPower : Pow Int Nat :=
  @instPowNat Int Int.instNatPow

def digit? (c : Char) : Option Nat :=
  if '0' ≤ c ∧ c ≤ '9' then some (c.toNat - '0'.toNat) else none

example : digit? '7' = some 7 := by decide
example : digit? (Char.ofNat 0x661) = none := by decide

def isDigit (c : Char) : Bool :=
  (digit? c).isSome

def digitsValue (digits : List Char) : Nat :=
  digits.foldl (fun value c => value * 10 + (digit? c).getD 0) 0

example : digitsValue ['0', '4', '2'] = 42 := by decide

inductive IntegerError where
  | empty
  | invalidDigit
  | tooLarge
  | tooSmall
deriving Repr, DecidableEq

def IntegerError.message : IntegerError → String
  | .empty => "cannot parse integer from empty string"
  | .invalidDigit => "invalid digit found in string"
  | .tooLarge => "number too large to fit in target type"
  | .tooSmall => "number too small to fit in target type"

def readDigits (limit : Nat) (overflow : IntegerError) :
    Nat → List Char → Except IntegerError Nat
  | value, [] => .ok value
  | value, c :: rest =>
      match digit? c with
      | none => .error .invalidDigit
      | some digit =>
          if value * 10 + digit ≤ limit then
            readDigits limit overflow (value * 10 + digit) rest
          else
            .error overflow

def readMagnitude (limit : Nat) (overflow : IntegerError) :
    List Char → Except IntegerError Nat
  | [] => .error .invalidDigit
  | digits => readDigits limit overflow 0 digits

/-- An integer between `-negativeLimit` and `limit`, with an optional sign. -/
def readSigned (negativeLimit limit : Nat) : List Char → Except IntegerError Int
  | [] => .error .empty
  | '-' :: digits => (readMagnitude negativeLimit .tooSmall digits).map fun value => -(value : Int)
  | '+' :: digits => (readMagnitude limit .tooLarge digits).map Int.ofNat
  | digits => (readMagnitude limit .tooLarge digits).map Int.ofNat

/-- A natural number up to `limit`. A plus sign may stand in front, a minus sign
may not. -/
def readUnsigned (limit : Nat) : List Char → Except IntegerError Nat
  | [] => .error .empty
  | '+' :: digits => readMagnitude limit .tooLarge digits
  | digits => readMagnitude limit .tooLarge digits

def readInt64 (text : List Char) : Except IntegerError Int :=
  readSigned (2 ^ 63) (2 ^ 63 - 1) text

def readInt128 (text : List Char) : Except IntegerError Int :=
  readSigned (2 ^ 127) (2 ^ 127 - 1) text

def readUInt32? (text : List Char) : Option UInt32 :=
  match readUnsigned (2 ^ 32 - 1) text with
  | .ok value => some (.ofNat value)
  | .error _ => none

def readUInt64? (text : List Char) : Option UInt64 :=
  match readUnsigned (2 ^ 64 - 1) text with
  | .ok value => some (.ofNat value)
  | .error _ => none

example : readInt64 "-9223372036854775808".toList = .ok (-9223372036854775808) := by
  rfl
example : readInt64 "9223372036854775808".toList = .error .tooLarge := by rfl
example : readInt64 "+".toList = .error .invalidDigit := by rfl

/-! ## Digits of a number -/

def digits (value : Nat) : List Char :=
  Nat.toDigits 10 value

def text (value : Nat) : String :=
  String.ofList (digits value)

def signedDigits (value : Int) : List Char :=
  (if value < 0 then ['-'] else []) ++ digits value.natAbs

def paddedDigits (width value : Nat) : List Char :=
  List.replicate (width - (digits value).length) '0' ++ digits value

example : paddedDigits 2 7 = ['0', '7'] := by decide +kernel
example : paddedDigits 2 123 = ['1', '2', '3'] := by decide +kernel

end RemoteQuery.Number
