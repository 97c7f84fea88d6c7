import RemoteQuery.Json.Basic

namespace RemoteQuery.Json

open Number (Decimal digitsValue isDigit)

/-! Reading JSON text. Every reader takes a value from the front of the text and
leaves the rest. -/

def isSpace (c : Char) : Bool :=
  c = ' ' ∨ c = '\n' ∨ c = '\t' ∨ c = '\r'

def dropSpaces (text : List Char) : List Char :=
  text.dropWhile isSpace

/-! ## Strings -/

/-- A part of a string: a character, or half of a surrogate pair, which only an
escape can stand for. -/
inductive StringPart where
  | character (c : Char)
  | surrogate (unit : Nat)
deriving Repr, DecidableEq

def hexValue? (c : Char) : Option Nat :=
  if '0' ≤ c ∧ c ≤ '9' then some (c.toNat - '0'.toNat)
  else if 'a' ≤ c ∧ c ≤ 'f' then some (c.toNat - 'a'.toNat + 10)
  else if 'A' ≤ c ∧ c ≤ 'F' then some (c.toNat - 'A'.toNat + 10)
  else none

def codeUnit? (a b c d : Char) : Option StringPart := do
  let unit := (((← hexValue? a) * 16 + (← hexValue? b)) * 16 + (← hexValue? c)) * 16 + (← hexValue? d)
  some (if 0xD800 ≤ unit ∧ unit ≤ 0xDFFF then .surrogate unit else .character (Char.ofNat unit))

/-- The character behind a backslash, unless it is a code unit's `u`. -/
def escaped? (c : Char) : Option Char :=
  match c with
  | '"' => some '"'
  | '\\' => some '\\'
  | '/' => some '/'
  | 'b' => some '\x08'
  | 'f' => some '\x0c'
  | 'n' => some '\n'
  | 'r' => some '\r'
  | 't' => some '\t'
  | _ => none

/-- The parts of a string up to its closing quote, and the text behind the quote.
Controls do not stand in a string as they are. -/
def readParts? : List Char → Option (List StringPart × List Char)
  | [] => none
  | '"' :: rest => some ([], rest)
  | '\\' :: 'u' :: a :: b :: c :: d :: rest => do
      let part ← codeUnit? a b c d
      let (parts, after) ← readParts? rest
      some (part :: parts, after)
  | '\\' :: c :: rest => do
      let character ← escaped? c
      let (parts, after) ← readParts? rest
      some (.character character :: parts, after)
  | c :: rest =>
      if c.toNat < 0x20 ∨ c = '\\' then none
      else do
        let (parts, after) ← readParts? rest
        some (.character c :: parts, after)

/-- The characters that the parts write, if each surrogate has its partner. -/
def joinParts? : List StringPart → Option (List Char)
  | [] => some []
  | .character c :: rest => (joinParts? rest).map (c :: ·)
  | .surrogate high :: .surrogate low :: rest =>
      if high < 0xDC00 ∧ 0xDC00 ≤ low then
        (joinParts? rest).map
          (Char.ofNat (0x10000 + (high - 0xD800) * 0x400 + (low - 0xDC00)) :: ·)
      else none
  | .surrogate _ :: _ => none

/-- A string behind its opening quote. The value is missing where the string cannot
be one. -/
def readString? (text : List Char) : Option (Option String × List Char) := do
  let (parts, rest) ← readParts? text
  some ((joinParts? parts).map String.ofList, rest)

/-! ## Numbers -/

/-- The digits before the point: a zero alone, or digits that do not begin with a
zero. -/
def readWholeDigits? : List Char → Option (List Char × List Char)
  | '0' :: rest => some (['0'], rest)
  | text =>
      match text.takeWhile isDigit with
      | [] => none
      | digits => some (digits, text.dropWhile isDigit)

def readPlaces? : List Char → Option (Option (List Char) × List Char)
  | '.' :: rest =>
      match rest.takeWhile isDigit with
      | [] => none
      | digits => some (some digits, rest.dropWhile isDigit)
  | text => some (none, text)

def readExponent? : List Char → Option (Option Int × List Char)
  | [] => some (none, [])
  | mark :: rest =>
      if mark = 'e' ∨ mark = 'E' then
        let (negative, rest) :=
          match rest with
          | '-' :: after => (true, after)
          | '+' :: after => (false, after)
          | after => (false, after)
        match rest.takeWhile isDigit with
        | [] => none
        | digits =>
            let value : Int := digitsValue digits
            some (some (if negative then -value else value), rest.dropWhile isDigit)
      else some (none, mark :: rest)

def readMagnitude? (negative : Bool) (text : List Char) : Option (Json × List Char) := do
  let (digits, rest) ← readWholeDigits? text
  let (places, rest) ← readPlaces? rest
  let (exponent, rest) ← readExponent? rest
  let value : Int := digitsValue (digits ++ places.getD [])
  let signed := if negative then -value else value
  if places = none ∧ exponent = none ∧ ¬(negative ∧ value = 0) then some (.whole signed, rest)
  else some (.scaled ⟨signed, ((places.getD []).length : Int) - exponent.getD 0⟩, rest)

def readNumber? : List Char → Option (Json × List Char)
  | '-' :: rest => readMagnitude? true rest
  | text => readMagnitude? false text

/-! ## Values -/

def ofMembers (members : List (Option String × Json)) : Json :=
  match members.mapM fun member => member.1.map (·, member.2) with
  | some members => .object members
  | none => .unreadable

mutual

/-- A value at the start of a text. The limit bounds the depth and the number of
values; a text never holds more of them than characters. -/
def readValue? : (limit : Nat) → List Char → Option (Json × List Char)
  | 0, _ => none
  | limit + 1, text =>
      match dropSpaces text with
      | 'n' :: 'u' :: 'l' :: 'l' :: rest => some (.null, rest)
      | 't' :: 'r' :: 'u' :: 'e' :: rest => some (.bool true, rest)
      | 'f' :: 'a' :: 'l' :: 's' :: 'e' :: rest => some (.bool false, rest)
      | '"' :: rest => do
          let (value, after) ← readString? rest
          some (value.elim .unreadable .string, after)
      | '[' :: rest =>
          match dropSpaces rest with
          | ']' :: after => some (.array [], after)
          | _ => do
              let (items, after) ← readItems? limit rest
              some (.array items, after)
      | '\x7b' :: rest =>
          match dropSpaces rest with
          | '\x7d' :: after => some (.object [], after)
          | _ => do
              let (members, after) ← readMembers? limit rest
              some (ofMembers members, after)
      | rest => readNumber? rest

def readItems? : (limit : Nat) → List Char → Option (List Json × List Char)
  | 0, _ => none
  | limit + 1, text => do
      let (item, rest) ← readValue? limit text
      match dropSpaces rest with
      | ',' :: rest =>
          let (items, after) ← readItems? limit rest
          some (item :: items, after)
      | ']' :: after => some ([item], after)
      | _ => none

def readMembers? : (limit : Nat) → List Char → Option (List (Option String × Json) × List Char)
  | 0, _ => none
  | limit + 1, text =>
      match dropSpaces text with
      | '"' :: rest => do
          let (key, rest) ← readString? rest
          match dropSpaces rest with
          | ':' :: rest =>
              let (value, rest) ← readValue? limit rest
              match dropSpaces rest with
              | ',' :: rest =>
                  let (members, after) ← readMembers? limit rest
                  some ((key, value) :: members, after)
              | '\x7d' :: after => some ([(key, value)], after)
              | _ => none
          | _ => none
      | _ => none

end

/-- The value that a text writes. Only blanks may follow it. -/
def read? (text : String) : Option Json := do
  let characters := text.toList
  let (value, rest) ← readValue? (characters.length + 1) characters
  if dropSpaces rest = [] then some value else none

example : read? " [1, -0, 2.50, \"\\u00e9\\ud83d\\ude00\"] " =
    some (.array [.whole 1, .scaled ⟨0, 0⟩, .scaled ⟨250, 2⟩,
      .string (String.ofList [Char.ofNat 0xE9, Char.ofNat 0x1F600])]) := by cbv
example : read? "[\"\\ud800\"]" = some (.array [.unreadable]) := by cbv
example : read? "[01]" = none := by cbv

end RemoteQuery.Json
