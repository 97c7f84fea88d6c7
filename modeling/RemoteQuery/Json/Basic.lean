import RemoteQuery.Number.Decimal

namespace RemoteQuery

/-- A JSON value. An object keeps its members in order, also those with one name. -/
inductive Json where
  | null
  | bool (value : Bool)
  /-- A number written without a point and without an exponent. -/
  | whole (value : Int)
  /-- A number written with a point or an exponent, and `-0`. -/
  | scaled (value : Number.Decimal)
  | string (value : String)
  | array (items : List Json)
  | object (members : List (String × Json))
  /-- A string that holds half of a surrogate pair, or an object with such a key. It
  can be read over, but it is no value. -/
  | unreadable
deriving Inhabited

namespace Json

def ofNat (value : Nat) : Json :=
  .whole value

def ofOption {α : Type} (encode : α → Json) : Option α → Json
  | none => .null
  | some value => encode value

/-- The value of the first member with a name, or null. -/
def get (json : Json) (name : String) : Json :=
  match json with
  | .object members => (members.lookup name).getD .null
  | _ => .null

/-! ## Views of one kind of value -/

def string? : Json → Option String
  | .string value => some value
  | _ => none

def bool? : Json → Option Bool
  | .bool value => some value
  | _ => none

def below? (limit : Nat) : Json → Option Nat
  | .whole value => if 0 ≤ value ∧ value < limit then some value.toNat else none
  | _ => none

def uint32? (json : Json) : Option UInt32 :=
  (json.below? (2 ^ 32)).map UInt32.ofNat

def uint64? (json : Json) : Option UInt64 :=
  (json.below? (2 ^ 64)).map UInt64.ofNat

def option? {α : Type} (decode : Json → Option α) : Json → Option (Option α)
  | .null => some none
  | json => (decode json).map some

def list? {α : Type} (decode : Json → Option α) : Json → Option (List α)
  | .array items => items.mapM decode
  | _ => none

/-! ## Writing -/

def hexDigit (value : Nat) : Char :=
  if value < 10 then Char.ofNat ('0'.toNat + value) else Char.ofNat ('a'.toNat + value - 10)

/-- One character inside a string. Quotes, backslashes and the controls of ASCII
are escaped, and nothing else is. -/
def escapedCharacter (c : Char) : List Char :=
  if c = '"' then ['\\', '"']
  else if c = '\\' then ['\\', '\\']
  else if c = '\n' then ['\\', 'n']
  else if c = '\r' then ['\\', 'r']
  else if c = '\t' then ['\\', 't']
  else if c = '\x08' then ['\\', 'b']
  else if c = '\x0c' then ['\\', 'f']
  else if c.toNat < 0x20 then
    ['\\', 'u', '0', '0', hexDigit (c.toNat / 16), hexDigit (c.toNat % 16)]
  else [c]

def writeString (text : String) : List Char :=
  ['"'] ++ text.toList.flatMap escapedCharacter ++ ['"']

mutual

def write : Json → List Char
  | .null => ['n', 'u', 'l', 'l']
  | .bool true => ['t', 'r', 'u', 'e']
  | .bool false => ['f', 'a', 'l', 's', 'e']
  | .whole value => Number.signedDigits value
  | .scaled value => Number.signedDigits value.unscaled ++ ['e'] ++ Number.signedDigits (-value.scale)
  | .string value => writeString value
  | .array items => ['['] ++ writeItems items ++ [']']
  | .object members => ['\x7b'] ++ writeMembers members ++ ['\x7d']
  | .unreadable => ['n', 'u', 'l', 'l']

def writeItems : List Json → List Char
  | [] => []
  | [item] => write item
  | item :: rest => write item ++ [','] ++ writeItems rest

def writeMembers : List (String × Json) → List Char
  | [] => []
  | [(name, value)] => writeString name ++ [':'] ++ write value
  | (name, value) :: rest =>
      writeString name ++ [':'] ++ write value ++ [','] ++ writeMembers rest

end

def toString (json : Json) : String :=
  String.ofList json.write

example : toString (.object [("a", .array [.whole (-1), .null]), ("b", .string "\"\n")]) =
    "\x7b\"a\":[-1,null],\"b\":\"\\\"\\n\"\x7d" := by cbv

end Json

end RemoteQuery
