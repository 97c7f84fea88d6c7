import RemoteQuery.Calendar.Reading
import RemoteQuery.Column.Basic
import RemoteQuery.Service.Error
import RemoteQuery.Text.Search

namespace RemoteQuery

/-! What the engine and the service tell each other. -/

/-! ## The state of a query -/

inductive QueryState where
  | queued
  | running
  | succeeded
  | failed
  | cancelled
deriving Repr, DecidableEq, Inhabited

namespace QueryState

def isTerminal : QueryState → Bool
  | .succeeded | .failed | .cancelled => true
  | .queued | .running => false

def toString : QueryState → String
  | .queued => "QUEUED"
  | .running => "RUNNING"
  | .succeeded => "SUCCEEDED"
  | .failed => "FAILED"
  | .cancelled => "CANCELLED"

def all : List QueryState :=
  [queued, running, succeeded, failed, cancelled]

def read (text : String) : Except ServiceError QueryState :=
  match all.find? (·.toString == text) with
  | some state => .ok state
  | none => .error (.operational ("unknown query state '" ++ text ++ "'"))

def toJson (state : QueryState) : Json :=
  .string state.toString

def ofJson? : Json → Option QueryState :=
  Json.choice? (all.map fun state => (state.toString, state))

end QueryState

/-! ## Where results are -/

inductive FileFormat where
  /-- Commas between the fields, and a header record in front. -/
  | csv
  /-- Tabs between the fields, and no header. -/
  | tsv
deriving Repr, DecidableEq, Inhabited

namespace FileFormat

def ofUri (uri : String) : FileFormat :=
  if Text.endsWith uri ".txt" || Text.endsWith uri ".tsv" then .tsv else .csv

def delimiter : FileFormat → UInt8
  | .csv => 44
  | .tsv => 9

def hasHeader : FileFormat → Bool
  | .csv => true
  | .tsv => false

def name : FileFormat → String
  | .csv => "csv"
  | .tsv => "tsv"

def toJson (format : FileFormat) : Json :=
  .string format.name

def ofJson? : Json → Option FileFormat :=
  Json.choice? ([csv, tsv].map fun format => (format.name, format))

end FileFormat

structure Table where
  database : String
  name : String
deriving Repr, DecidableEq, Inhabited

namespace Table

def toJson (table : Table) : Json :=
  .object [("database", .string table.database), ("table", .string table.name)]

def ofJson? (json : Json) : Option Table := do
  let fields ← Json.Fields.of? [["database"], ["table"]] json
  some {
    database := ← fields.required "database" Json.string?
    name := ← fields.required "table" Json.string? }

end Table

/-- A result file. Its columns are those of a table, where there is one. -/
structure Location where
  uri : String
  format : FileFormat
  table : Option Table := none
deriving Repr, DecidableEq, Inhabited

namespace Location

def ofUri (uri : String) : Location :=
  { uri, format := .ofUri uri }

def toJson (location : Location) : Json :=
  .object [("uri", .string location.uri), ("format", location.format.toJson),
    ("table", .ofOption Table.toJson location.table)]

def ofJson? (json : Json) : Option Location := do
  let fields ← Json.Fields.of? [["uri"], ["format"], ["table"]] json
  some {
    uri := ← fields.required "uri" Json.string?
    format := ← fields.required "format" FileFormat.ofJson?
    table := ← fields.optional "table" Table.ofJson? }

end Location

/-! ## Requests and answers -/

structure Submission where
  sql : String
  database : String
  catalog : String
  workGroup : Option String
  outputLocation : Option String
  /-- The service takes two requests with one token for the same request. -/
  requestToken : String
deriving Repr, DecidableEq, Inhabited

namespace Submission

def toJson (submission : Submission) : Json :=
  .object [("sql", .string submission.sql), ("database", .string submission.database),
    ("catalog", .string submission.catalog),
    ("work_group", .ofOption .string submission.workGroup),
    ("output_location", .ofOption .string submission.outputLocation),
    ("client_request_token", .string submission.requestToken)]

def ofJson? (json : Json) : Option Submission := do
  let fields ← Json.Fields.of?
    [["sql"], ["database"], ["catalog"], ["work_group"], ["output_location"],
      ["client_request_token"]] json
  some {
    sql := ← fields.required "sql" Json.string?
    database := ← fields.required "database" Json.string?
    catalog := ← fields.required "catalog" Json.string?
    workGroup := ← fields.optional "work_group" Json.string?
    outputLocation := ← fields.optional "output_location" Json.string?
    requestToken := ← fields.required "client_request_token" Json.string? }

end Submission

namespace Calendar.Instant

def toJson (instant : Instant) : Json :=
  .string instant.toString

def ofJson? (json : Json) : Option Instant :=
  json.string?.bind read?

end Calendar.Instant

namespace Json

def ofUInt64 (value : UInt64) : Json :=
  .ofNat value.toNat

end Json

structure Status where
  state : QueryState
  elapsedMillis : Option UInt64 := none
  bytesScanned : Option UInt64 := none
  location : Option Location := none
  errorMessage : Option String := none
  /-- How many rows the query has changed. -/
  updateCount : Option UInt64 := none
  completedAt : Option Calendar.Instant := none
deriving DecidableEq, Inhabited

namespace Status

def toJson (status : Status) : Json :=
  .object [("state", status.state.toJson),
    ("elapsed_millis", .ofOption .ofUInt64 status.elapsedMillis),
    ("bytes_scanned", .ofOption .ofUInt64 status.bytesScanned),
    ("result_location", .ofOption Location.toJson status.location),
    ("error_message", .ofOption .string status.errorMessage),
    ("update_count", .ofOption .ofUInt64 status.updateCount),
    ("completed_at", .ofOption Calendar.Instant.toJson status.completedAt)]

def ofJson? (json : Json) : Option Status := do
  let fields ← Json.Fields.of?
    [["state"], ["elapsed_millis"], ["bytes_scanned"], ["result_location"], ["error_message"],
      ["update_count"], ["completed_at"]] json
  some {
    state := ← fields.required "state" QueryState.ofJson?
    elapsedMillis := ← fields.optional "elapsed_millis" Json.uint64?
    bytesScanned := ← fields.optional "bytes_scanned" Json.uint64?
    location := ← fields.optional "result_location" Location.ofJson?
    errorMessage := ← fields.optional "error_message" Json.string?
    updateCount := ← fields.optional "update_count" Json.uint64?
    completedAt := ← fields.optional "completed_at" Calendar.Instant.ofJson? }

end Status

abbrev RawRow := List (Option String)

structure ResultPart where
  columns : List Column
  rows : List RawRow
  nextToken : Option String
  updateCount : Option UInt64 := none
deriving Repr, DecidableEq, Inhabited

namespace ResultPart

def rawRowToJson (row : RawRow) : Json :=
  .array (row.map (Json.ofOption .string))

def rawRowOfJson? : Json → Option RawRow :=
  Json.list? (Json.option? Json.string?)

def toJson (part : ResultPart) : Json :=
  .object [("columns", .array (part.columns.map Column.toJson)),
    ("rows", .array (part.rows.map rawRowToJson)),
    ("next_token", .ofOption .string part.nextToken),
    ("update_count", .ofOption .ofUInt64 part.updateCount)]

def ofJson? (json : Json) : Option ResultPart := do
  let fields ← Json.Fields.of? [["columns"], ["rows"], ["next_token"], ["update_count"]] json
  some {
    columns := ← fields.required "columns" (Json.list? Column.ofJson?)
    rows := ← fields.required "rows" (Json.list? rawRowOfJson?)
    nextToken := ← fields.optional "next_token" Json.string?
    updateCount := ← fields.defaulted "update_count" none (Json.option? Json.uint64?) }

end ResultPart

end RemoteQuery
