import RemoteQuery.Number.Integer
import RemoteQuery.Text.Blank
import RemoteQuery.Text.Search

namespace RemoteQuery

inductive Family where
  | boolean
  | integer
  | float
  | decimal (precision scale : Option UInt32)
  | date
  | time
  | timestamp
  | zonedTimestamp
  | text
  | binary
  | array
  | map
  | row
deriving Repr, DecidableEq, Inhabited

namespace Family

def isStructured : Family → Bool
  | .array | .map | .row => true
  | _ => false

/-! ## Wire types

A wire type is the name that the service gives to a column's type, such as
`decimal(10,2)` or `array(varchar)`. Its base is what stands in front of the first
bracket or blank. -/

def endsBase (c : Char) : Bool :=
  c = '(' ∨ c = '<' ∨ Text.isBlank c

def baseChars (wireType : List Char) : List Char :=
  (Text.trimBlanks wireType).takeWhile (!endsBase ·)

def base (wireType : String) : String :=
  String.ofList (baseChars wireType.toList)

example : base " Decimal (10,2)" = "Decimal" := by decide +kernel

/-- What stands between the first opening parenthesis and the last closing one. Where
the text has no closing parenthesis, all that follows is inside. -/
def insideParentheses? (wireType : List Char) : Option (List Char) :=
  match wireType.dropWhile (· ≠ '(') with
  | [] => none
  | _ :: inside =>
      match inside.reverse.dropWhile (· ≠ ')') with
      | _ :: reversed => some reversed.reverse
      | [] =>
          if (wireType.takeWhile (· ≠ '(')).contains ')' then none
          else some inside

def readParameter? (text : List Char) : Option UInt32 :=
  Number.readUInt32? (Text.trimBlanks text)

def parameters (wireType : List Char) : Option UInt32 × Option UInt32 :=
  match insideParentheses? wireType with
  | none => (none, none)
  | some inside =>
      (readParameter? (inside.takeWhile (· ≠ ',')),
        match inside.dropWhile (· ≠ ',') with
        | [] => none
        | _ :: rest => readParameter? (rest.takeWhile (· ≠ ',')))

example : parameters "decimal( 10 , +2 )".toList = (some 10, some 2) := by decide +kernel
example : parameters "decimal(4294967296)".toList = (none, none) := by decide +kernel
example : parameters "decimal(5".toList = (some 5, none) := by decide +kernel

def ofNormalized (wireType : List Char) : Family :=
  match String.ofList (baseChars wireType) with
  | "boolean" => .boolean
  | "tinyint" | "smallint" | "integer" | "int" | "bigint" => .integer
  | "float" | "double" | "real" => .float
  | "decimal" =>
      let (precision, scale) := parameters wireType
      .decimal precision scale
  | "date" => .date
  | "time" => .time
  | "timestamp" =>
      if Text.contains wireType "with time zone".toList then .zonedTimestamp else .timestamp
  | "varbinary" | "binary" => .binary
  | "array" => .array
  | "map" => .map
  | "row" | "struct" => .row
  | _ => .text

/-- The family of a wire type. Blanks around it and the case of its letters do not
matter; a base that is not known means text. -/
def ofWireType (wireType : String) : Family :=
  ofNormalized ((Text.trimBlanks wireType.toList).map Char.toLower)

example : ofWireType "DECIMAL(10,2)" = .decimal (some 10) (some 2) := by cbv
example : ofWireType "array(decimal(10,2))" = .array := by cbv
example : ofWireType "timestamp(3) with time zone" = .zonedTimestamp := by cbv

end Family

end RemoteQuery
