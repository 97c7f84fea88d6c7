import RemoteQuery.Service.Record

namespace RemoteQuery

open Calendar (Instant)

structure Execution where
  queryId : String
  sql : String
  database : String
  catalog : String
  submittedAt : Instant
  completedAt : Option Instant := none
  state : QueryState := .queued
  location : Option Location := none
  errorMessage : Option String := none
  elapsedMillis : UInt64 := 0
  scannedBytes : UInt64 := 0
  updateCount : Option UInt64 := none
deriving DecidableEq, Inhabited

namespace Execution

def isTerminal (execution : Execution) : Bool :=
  execution.state.isTerminal

def greatest (count : UInt64) : Option UInt64 → UInt64
  | none => count
  | some known => max known count

/-- Take the rows that the query has changed from its results. This is allowed after
the query's end. -/
def recordUpdateCount (count : UInt64) (execution : Execution) : Execution :=
  { execution with updateCount := some (greatest count execution.updateCount) }

/-- Take up the news of a query that has not ended yet. Counters only grow. -/
def advance (status : Status) (now : Instant) (execution : Execution) : Execution :=
  { execution with
    state := status.state
    elapsedMillis := max execution.elapsedMillis (status.elapsedMillis.getD 0)
    scannedBytes := max execution.scannedBytes (status.bytesScanned.getD 0)
    updateCount :=
      match status.updateCount with
      | some count => some (greatest count execution.updateCount)
      | none => execution.updateCount
    location := status.location.or execution.location
    errorMessage := status.errorMessage.or execution.errorMessage
    completedAt :=
      if status.state.isTerminal then some (status.completedAt.getD now)
      else execution.completedAt }

/-- Take up the news of a status. After the query's end nothing changes but a location
that is still missing. -/
def applyStatus (status : Status) (now : Instant) (execution : Execution) : Execution :=
  if execution.isTerminal then
    { execution with location := execution.location.or status.location }
  else execution.advance status now

/-- Note that the engine gives the query up, unless the query has ended. -/
def markFailed (message : String) (now : Instant) (execution : Execution) : Execution :=
  if execution.isTerminal then execution
  else
    { execution with
      state := .failed
      errorMessage := some message
      completedAt := some now }

/-! ## Records -/

def toJson (execution : Execution) : Json :=
  .object [("query_id", .string execution.queryId), ("sql", .string execution.sql),
    ("database", .string execution.database), ("catalog", .string execution.catalog),
    ("submitted_at", execution.submittedAt.toJson),
    ("completed_at", .ofOption Instant.toJson execution.completedAt),
    ("state", execution.state.toJson),
    ("result_location", .ofOption Location.toJson execution.location),
    ("error_message", .ofOption .string execution.errorMessage),
    ("elapsed_millis", .ofUInt64 execution.elapsedMillis),
    ("data_scanned_bytes", .ofUInt64 execution.scannedBytes),
    ("update_count", .ofOption .ofUInt64 execution.updateCount)]

def ofJson? (json : Json) : Option Execution := do
  let fields ← Json.Fields.of?
    [["query_id"], ["sql"], ["database"], ["catalog"], ["submitted_at"], ["completed_at"],
      ["state"], ["result_location"], ["error_message"], ["elapsed_millis"],
      ["data_scanned_bytes"], ["update_count"]] json
  some {
    queryId := ← fields.required "query_id" Json.string?
    sql := ← fields.required "sql" Json.string?
    database := ← fields.required "database" Json.string?
    catalog := ← fields.required "catalog" Json.string?
    submittedAt := ← fields.required "submitted_at" Instant.ofJson?
    completedAt := ← fields.optional "completed_at" Instant.ofJson?
    state := ← fields.required "state" QueryState.ofJson?
    location := ← fields.optional "result_location" Location.ofJson?
    errorMessage := ← fields.optional "error_message" Json.string?
    elapsedMillis := ← fields.required "elapsed_millis" Json.uint64?
    scannedBytes := ← fields.required "data_scanned_bytes" Json.uint64?
    updateCount := ← fields.optional "update_count" Json.uint64? }

end Execution

end RemoteQuery
