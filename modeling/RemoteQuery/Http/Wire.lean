import RemoteQuery.Calendar.Epoch
import RemoteQuery.Http.Exchange
import RemoteQuery.Number.Binary64

namespace RemoteQuery.Http

/-! The JSON texts of requests and of responses. -/

/-! ## Requests -/

def optionalMember (name : String) (encode : String → Json) : Option String → List (String × Json)
  | none => []
  | some value => [(name, encode value)]

def submitBody (submission : Submission) : Json :=
  .object ([("QueryString", .string submission.sql),
    ("ClientRequestToken", .string submission.requestToken),
    ("QueryExecutionContext", .object
      [("Database", .string submission.database), ("Catalog", .string submission.catalog)])] ++
    optionalMember "ResultConfiguration"
      (fun outputLocation => .object [("OutputLocation", .string outputLocation)])
      submission.outputLocation ++
    optionalMember "WorkGroup" .string submission.workGroup)

def queryIdBody (queryId : String) : Json :=
  .object [("QueryExecutionId", .string queryId)]

def greatestPage : Nat := 1000

def resultsBody (queryId : String) (token : Option String) (maxRows : Nat) : Json :=
  .object ([("QueryExecutionId", .string queryId)] ++ optionalMember "NextToken" .string token ++
    [("MaxResults", .ofNat (min (max maxRows 1) greatestPage))])

def schemaBody (catalog : String) (table : Table) : Json :=
  .object [("CatalogName", .string catalog), ("DatabaseName", .string table.database),
    ("TableName", .string table.name)]

/-! ## Responses -/

def submitted? (json : Json) : Option String := do
  (← Json.Fields.of? [["QueryExecutionId"]] json).required "QueryExecutionId" Json.string?

def number? (json : Json) : Option Number.Binary64 :=
  let number? : Option Number.Decimal :=
    match json with
    | .whole value => some ⟨value, 0⟩
    | .scaled value => some value
    | _ => none
  (number?.map fun number =>
    Number.Binary64.ofScientific (number.unscaled < 0) number.unscaled.natAbs (-number.scale)).filter
      (·.isFinite)

/-- The point in time a number of seconds after the start of 1970, to the nearest
millisecond. -/
def instantOfSeconds? (seconds : Number.Binary64) : Option Calendar.Instant :=
  let millis := seconds.scaleBy 1000
  if millis.isFinite then
    Calendar.Instant.ofMillis? (if seconds.isNegative then -(millis.nearestNat : Int) else millis.nearestNat)
  else none

structure Statistics where
  totalMillis : Option UInt64 := none
  engineMillis : Option UInt64 := none
  scannedBytes : Option UInt64 := none

def statistics? (json : Json) : Option Statistics := do
  let fields ← Json.Fields.of? [["TotalExecutionTimeInMillis"], ["EngineExecutionTimeInMillis"],
    ["DataScannedInBytes"]] json
  some {
    totalMillis :=
      ← fields.defaulted "TotalExecutionTimeInMillis" none (Json.option? Json.uint64?)
    engineMillis :=
      ← fields.defaulted "EngineExecutionTimeInMillis" none (Json.option? Json.uint64?)
    scannedBytes := ← fields.defaulted "DataScannedInBytes" none (Json.option? Json.uint64?) }

structure WrittenState where
  state : String
  reason : Option String
  completion : Option Number.Binary64

def writtenState? (json : Json) : Option WrittenState := do
  let fields ← Json.Fields.of? [["State"], ["StateChangeReason"], ["CompletionDateTime"]] json
  some {
    state := ← fields.required "State" Json.string?
    reason := ← fields.defaulted "StateChangeReason" none (Json.option? Json.string?)
    completion := ← fields.defaulted "CompletionDateTime" none (Json.option? number?) }

def outputLocation? (json : Json) : Option (Option String) := do
  (← Json.Fields.of? [["OutputLocation"]] json).defaulted "OutputLocation" none
    (Json.option? Json.string?)

def status? (json : Json) : Option (Outcome Status) := do
  let query ← (← Json.Fields.of? [["QueryExecution"]] json).required "QueryExecution"
    (Json.Fields.of? [["Status"], ["Statistics"], ["ResultConfiguration"]])
  let written ← query.required "Status" writtenState?
  let statistics ← query.defaulted "Statistics" none (Json.option? statistics?)
  let output ← query.defaulted "ResultConfiguration" none (Json.option? outputLocation?)
  let statistics := statistics.getD {}
  some ((QueryState.read written.state).map fun state =>
    { state
      elapsedMillis := statistics.totalMillis.or statistics.engineMillis
      bytesScanned := statistics.scannedBytes
      location := output.join.map Location.ofUri
      errorMessage := written.reason
      completedAt := written.completion.bind instantOfSeconds? })

/-- A column of a result. Its own parameters count only for decimals. -/
def resultColumn? (json : Json) : Option Column := do
  let fields ← Json.Fields.of? [["Name"], ["Type"], ["Precision"], ["Scale"], ["Nullable"]] json
  let name ← fields.required "Name" Json.string?
  let wireType ← fields.required "Type" Json.string?
  let precision ← fields.defaulted "Precision" none (Json.option? Json.uint32?)
  let scale ← fields.defaulted "Scale" none (Json.option? Json.uint32?)
  let nullable ← fields.defaulted "Nullable" none (Json.option? Json.string?)
  let column := { Column.ofType name wireType with nullable := nullable != some "NOT_NULL" }
  some <|
    match column.family with
    | .decimal _ _ =>
        { column with
          precision := column.precision.or precision
          scale := column.scale.or scale }
    | _ => column

def resultCell? (json : Json) : Option (Option String) := do
  (← Json.Fields.of? [["VarCharValue"]] json).defaulted "VarCharValue" none
    (Json.option? Json.string?)

def resultRow? (json : Json) : Option RawRow := do
  (← Json.Fields.of? [["Data"]] json).defaulted "Data" [] (Json.list? resultCell?)

def resultColumns? (json : Json) : Option (List Column) := do
  (← Json.Fields.of? [["ColumnInfo"]] json).defaulted "ColumnInfo" [] (Json.list? resultColumn?)

def results? (json : Json) : Option ResultPart := do
  let fields ← Json.Fields.of? [["ResultSet"], ["NextToken"], ["UpdateCount"]] json
  let set ← fields.required "ResultSet" (Json.Fields.of? [["Rows"], ["ResultSetMetadata"]])
  let rows ← set.defaulted "Rows" [] (Json.list? resultRow?)
  let columns ← set.defaulted "ResultSetMetadata" none (Json.option? resultColumns?)
  some {
    columns := columns.getD []
    rows
    nextToken := ← fields.defaulted "NextToken" none (Json.option? Json.string?)
    updateCount := ← fields.defaulted "UpdateCount" none (Json.option? Json.uint64?) }

/-- A column of a table. A column without a type holds text. -/
def tableColumn? (json : Json) : Option Column := do
  let fields ← Json.Fields.of? [["Name"], ["Type"]] json
  let name ← fields.required "Name" Json.string?
  let wireType ← fields.defaulted "Type" none (Json.option? Json.string?)
  some (Column.ofType name (wireType.getD "string"))

/-- The columns of a table, those that it is partitioned by at the end. -/
def schema? (json : Json) : Option (List Column) := do
  let table ← (← Json.Fields.of? [["TableMetadata"]] json).required "TableMetadata"
    (Json.Fields.of? [["Columns"], ["PartitionKeys"]])
  let columns ← table.defaulted "Columns" [] (Json.list? tableColumn?)
  let keys ← table.defaulted "PartitionKeys" [] (Json.list? tableColumn?)
  some (columns ++ keys)

mutual

/-- A value with strings that are strings, numbers of the 64-bit format, and nesting below
a limit. -/
def isValue : (limit : Nat) → Json → Bool
  | _, .null | _, .bool _ | _, .string _ => true
  | _, .whole value => (number? (.whole value)).isSome
  | _, .scaled value => (number? (.scaled value)).isSome
  | 0, .array _ | 0, .object _ => false
  | limit + 1, .array items => areValues limit items
  | limit + 1, .object members => areMembers limit members
  | _, .unreadable => false

def areValues : (limit : Nat) → List Json → Bool
  | _, [] => true
  | limit, item :: rest => isValue limit item && areValues limit rest

def areMembers : (limit : Nat) → List (String × Json) → Bool
  | _, [] => true
  | limit, (_, value) :: rest => isValue limit value && areMembers limit rest

end

def greatestDepth : Nat := 127

def anything? (json : Json) : Option Unit :=
  if isValue greatestDepth json then some () else none

/-! ## Failures -/

structure Complaint where
  type : Option String := none
  message : Option String := none

def complaint? (json : Json) : Option Complaint := do
  let fields ← Json.Fields.of? [["__type"], ["message", "Message"]] json
  some {
    type := ← fields.defaulted "__type" none (Json.option? Json.string?)
    message := ← fields.defaulted "message" none (Json.option? Json.string?) }

def afterLastSign (text : String) : String :=
  String.ofList (text.toList.reverse.takeWhile (· ≠ '#')).reverse

example : afterLastSign "com.example#Denied" = "Denied" := by decide +kernel

def invalidRequest : String := "InvalidRequestException"

/-- The failure that a response reports. Its type decides who is to blame. -/
def classify (status : Nat) (body : String) : ServiceError :=
  let complaint := ((Json.read? body).bind complaint?).getD {}
  let type := (complaint.type.map afterLastSign).getD ("HTTP " ++ Number.text status)
  let message :=
    match complaint.message with
    | some message => type ++ ": " ++ message
    | none => if body.isEmpty then type else type ++ ": " ++ body
  if type = invalidRequest then .programming message else .operational message

end RemoteQuery.Http
