import RemoteQuery.Calendar.Reading
import RemoteQuery.Cell.Value
import RemoteQuery.Column.Basic
import RemoteQuery.Fault

namespace RemoteQuery

/-! ## Null markers -/

/-- Texts that stand for null, in all columns or in the columns of one name. -/
structure Sentinels where
  anywhere : List String := []
  perColumn : List (String × List String) := []
deriving Repr, DecidableEq, Inhabited

namespace Sentinels

/-- The text stands for null in the columns of a name. Empty text always does. -/
def isNull (sentinels : Sentinels) (column raw : String) : Bool :=
  raw.isEmpty || sentinels.anywhere.contains raw ||
    sentinels.perColumn.any fun marked => marked.1 == column && marked.2.contains raw

end Sentinels

/-! ## Reading a cell -/

inductive Refusal where
  | notBoolean
  | notInteger (error : Number.IntegerError)
  | notFloat
  | notDecimal (error : Number.Decimal.ReadError)
  /-- The text is no date or no time of day. -/
  | notCalendar (error : Calendar.ReadError)
  | notTimestamp
  | notZonedTimestamp
deriving Repr, DecidableEq

def Refusal.message : Refusal → String
  | .notBoolean => "expected 'true' or 'false'"
  | .notInteger error => error.message
  | .notFloat => "invalid float literal"
  | .notDecimal error => error.message
  | .notCalendar error => error.message
  | .notTimestamp => "not a timestamp"
  | .notZonedTimestamp => "not a timestamp with a numeric offset or UTC"

namespace Family

def readBoolean : String → Except Refusal Value
  | "true" => .ok (.boolean true)
  | "false" => .ok (.boolean false)
  | _ => .error .notBoolean

/-- A decimal, padded to the column's scale and never rounded to it. -/
def readDecimal (scale : Option UInt32) (raw : List Char) : Except Refusal Value :=
  match Number.Decimal.read raw, scale with
  | .error error, _ => .error (.notDecimal error)
  | .ok value, some scale => .ok (.decimal (value.padTo scale.toNat))
  | .ok value, none => .ok (.decimal value)

/-- A timestamp without a zone if the text can be read as one, otherwise with a zone. -/
def readTimestamp (raw : List Char) : Except Refusal Value :=
  match Calendar.readDateTime? raw with
  | some value => .ok (.timestamp value)
  | none =>
      match Calendar.readZoned? raw with
      | some value => .ok (.zonedTimestamp value)
      | none => .error .notTimestamp

def readZonedTimestamp (raw : List Char) : Except Refusal Value :=
  match Calendar.readZoned? raw with
  | some value => .ok (.zonedTimestamp value)
  | none => .error .notZonedTimestamp

def readValue (family : Family) (raw : String) : Except Refusal Value :=
  match family with
  | .boolean => readBoolean raw
  | .integer => ((Number.readInt64 raw.toList).map Value.integer).mapError .notInteger
  | .float =>
      match Number.Binary64.read? raw.toList with
      | some value => .ok (.float value)
      | none => .error .notFloat
  | .decimal _ scale => readDecimal scale raw.toList
  | .date => ((Calendar.readDate raw.toList).map Value.date).mapError .notCalendar
  | .time => ((Calendar.readTime raw.toList).map Value.time).mapError .notCalendar
  | .timestamp => readTimestamp raw.toList
  | .zonedTimestamp => readZonedTimestamp raw.toList
  | .text => .ok (.text raw)
  | .binary => .ok (.binary (Text.Utf8.encode raw))
  | .array | .map | .row => .ok (.structured raw)

end Family

namespace Column

/-- The value of a cell. A cell that is missing or marked as null is null in a column
of any family. -/
def cast (sentinels : Sentinels) (column : Column) : Option String → Except Fault Value
  | none => .ok .null
  | some raw =>
      if sentinels.isNull column.name raw then .ok .null
      else
        (column.family.readValue raw).mapError fun refusal =>
          .conversion column.ordinal column.wireType raw refusal.message

example :
    cast {} (ofType "price" "decimal(10,2)") (some "1.5") = .ok (.decimal ⟨150, 2⟩) := by cbv
example :
    cast { anywhere := ["N/A"] } (ofType "price" "decimal(10,2)") (some "N/A") = .ok .null := by
  cbv

/-- The values of the cells, column by column. Cells that are missing at the end are
null. -/
def castCells (sentinels : Sentinels) : List Column → List (Option String) → Except Fault Row
  | [], _ => .ok []
  | column :: columns, cells => do
      let value ← cast sentinels column (cells.headD none)
      let values ← castCells sentinels columns cells.tail
      .ok (value :: values)

def surplus (columns : List Column) (cells : List (Option String)) : Fault :=
  .conversion (columns.length + 1) "<none>" ((cells[columns.length]?.join).getD "")
    ("row has " ++ Number.text cells.length ++ " cells but the result has " ++ Number.text columns.length ++
      " columns")

/-- The row of values for a row of cells. The first cell that cannot be read names the
error, unless there are more cells than columns. -/
def castRow (sentinels : Sentinels) (columns : List Column) (cells : List (Option String)) :
    Except Fault Row :=
  if columns.length < cells.length then .error (surplus columns cells)
  else castCells sentinels columns cells

end Column

end RemoteQuery
