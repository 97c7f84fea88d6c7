import RemoteQuery.Config.Basic
import RemoteQuery.Number.Binary64
import RemoteQuery.Text.Blank

namespace RemoteQuery

/-! Settings from named texts, such as the variables of an environment. Blanks around
a number or a word do not matter, nor does the case of the letters of a word. -/

def wordOf (raw : String) : String :=
  Text.lowercase (Text.trim raw)

def ResultFormat.read (raw : String) : Except Config.Problem ResultFormat :=
  match wordOf raw with
  | "direct_api" | "direct" | "api" => .ok .direct
  | "bulk_file" | "bulk" | "file" | "csv" => .ok .bulk
  | word => .error (.unknownFormat word)

namespace Config

def readBoolean (key raw : String) : Except Problem Bool :=
  match wordOf raw with
  | "true" | "1" | "yes" => .ok true
  | "false" | "0" | "no" => .ok false
  | word => .error (.notBoolean key word)

def readCount (key raw : String) : Except Problem UInt64 :=
  match Number.readUInt64? (Text.trim raw).toList with
  | some count => .ok count
  | none => .error (.notInteger key raw)

/-- A count of milliseconds is never above this one. -/
def greatestMillis : Nat := 2 ^ 64 - 1

/-- The milliseconds nearest to a number of seconds, after the product has been rounded
to a number of the format. -/
def millisOfSeconds (seconds : Number.Binary64) : Nat :=
  let millis := seconds.scaleBy 1000
  if millis.isFinite then min millis.nearestNat greatestMillis else greatestMillis

def readSeconds (key raw : String) : Except Problem UInt64 :=
  match Number.Binary64.read? (Text.trim raw).toList with
  | none => .error (.notSeconds key raw)
  | some seconds =>
      if seconds.isFinite ∧ (¬seconds.isNegative ∨ seconds.magnitude = 0) then
        .ok (.ofNat (millisOfSeconds seconds))
      else .error (.notSeconds key raw)

example : (readSeconds "k" "0.25").toOption = some 250 := by decide +kernel
example : (readSeconds "k" "-0").toOption = some 0 := by decide +kernel

def readGiven {α : Type} (lookup : String → Option String) (key : String) (current : α)
    (read : String → String → Except Problem α) : Except Problem α :=
  match lookup key with
  | some raw => read key raw
  | none => .ok current

/-- Settings from named texts. What is not named stays as it is by default. -/
def ofLookup (lookup : String → Option String) : Except Problem Config := do
  let base : Config := {}
  let pollIntervalMillis ←
    readGiven lookup "ATHENA_POLL_INTERVAL" base.pollIntervalMillis readSeconds
  let killOnInterrupt ←
    readGiven lookup "ATHENA_KILL_ON_INTERRUPT" base.killOnInterrupt readBoolean
  let resultFormat ←
    readGiven lookup "ATHENA_RESULT_FORMAT" base.resultFormat fun _ raw => ResultFormat.read raw
  let reportCounters ← readGiven lookup "ATHENA_REPORT_COUNTERS" base.reportCounters readBoolean
  let maxRowsPerPage ← readGiven lookup "ATHENA_MAX_ROWS_PER_PAGE" base.maxRowsPerPage readCount
  let fetchSize ← readGiven lookup "ATHENA_FETCH_SIZE" base.fetchSize readCount
  let queryTimeoutMillis ←
    readGiven lookup "ATHENA_QUERY_TIMEOUT" base.queryTimeoutMillis fun key raw =>
      (readSeconds key raw).map some
  let config : Config :=
    { base with
      database := (lookup "ATHENA_DATABASE").getD base.database
      catalog := (lookup "ATHENA_CATALOG").getD base.catalog
      workGroup := lookup "ATHENA_WORK_GROUP"
      outputLocation := lookup "ATHENA_OUTPUT_LOCATION"
      pollIntervalMillis, killOnInterrupt, resultFormat, reportCounters, maxRowsPerPage,
      fetchSize, queryTimeoutMillis }
  match config.problem? with
  | some problem => .error problem
  | none => .ok config

end Config

end RemoteQuery
