import RemoteQuery.Number.Binary64
import RemoteQuery.Calendar.Time
import RemoteQuery.Text.Utf8

namespace RemoteQuery

inductive Value where
  | null
  | boolean (value : Bool)
  /-- An integer of 64 bits. -/
  | integer (value : Int)
  | float (value : Number.Binary64)
  | decimal (value : Number.Decimal)
  | date (value : Calendar.Date)
  | time (value : Calendar.TimeOfDay)
  | timestamp (value : Calendar.DateTime)
  | zonedTimestamp (value : Calendar.Zoned)
  | text (value : String)
  | binary (bytes : List UInt8)
  /-- The text of an array, a map or a row. -/
  | structured (value : String)
deriving DecidableEq, Inhabited

abbrev Row := List Value

namespace Value

def isNull : Value → Bool
  | .null => true
  | _ => false

/-- The value is a float that is not a number. That is a value, and no null. -/
def isNaN : Value → Bool
  | .float value => value.isNaN
  | _ => false

def boolean? : Value → Option Bool
  | .boolean value => some value
  | _ => none

def integer? : Value → Option Int
  | .integer value => some value
  | _ => none

def float? : Value → Option Number.Binary64
  | .float value => some value
  | _ => none

def decimal? : Value → Option Number.Decimal
  | .decimal value => some value
  | _ => none

def text? : Value → Option String
  | .text value => some value
  | .structured value => some value
  | _ => none

/-- The value in the spelling in which the service writes it into a cell. -/
def toString : Value → String
  | .null => ""
  | .boolean true => "true"
  | .boolean false => "false"
  | .integer value => String.ofList (Number.signedDigits value)
  | .float value => value.toString
  | .decimal value => value.toString
  | .date value => String.ofList value.toChars
  | .time value => String.ofList value.toChars
  | .timestamp value => String.ofList value.toChars
  | .zonedTimestamp value => String.ofList value.toChars
  | .text value => value
  | .binary bytes => Text.Utf8.decodeLossy bytes
  | .structured value => value

end Value

end RemoteQuery
