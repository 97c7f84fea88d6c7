import RemoteQuery.Calendar.Duration
import RemoteQuery.Json.Fields

namespace RemoteQuery

open Calendar (Duration)

inductive ResultFormat where
  /-- Page by page from the service. -/
  | direct
  /-- From the result file that the service has written. -/
  | bulk
deriving Repr, DecidableEq, Inhabited

namespace ResultFormat

def name : ResultFormat → String
  | .direct => "direct_api"
  | .bulk => "bulk_file"

def toJson (format : ResultFormat) : Json :=
  .string format.name

def ofJson? : Json → Option ResultFormat :=
  Json.choice? ([direct, bulk].map fun format => (format.name, format))

end ResultFormat

structure Config where
  database : String := "default"
  catalog : String := "AwsDataCatalog"
  workGroup : Option String := none
  /-- Where the service is asked to put its result files. -/
  outputLocation : Option String := none
  /-- The time between two looks at a query, and between two tries of a call. -/
  pollIntervalMillis : UInt64 := 1000
  /-- An interrupted query is also ended at the service. -/
  killOnInterrupt : Bool := true
  resultFormat : ResultFormat := .direct
  /-- Counters of the query are shown. -/
  reportCounters : Bool := true
  maxRowsPerPage : UInt64 := 1000
  /-- How many rows a fetch takes that does not say how many. -/
  fetchSize : UInt64 := 1000
  retryMaxAttempts : UInt32 := 10
  retryMaxDurationMillis : UInt64 := 300000
  /-- How long a query may take; without it, for ever. -/
  queryTimeoutMillis : Option UInt64 := none
  /-- Texts that stand for null in all columns. -/
  nullTokens : List String := []
deriving Repr, DecidableEq, Inhabited

namespace Config

def pollInterval (config : Config) : Duration :=
  .ofMillis config.pollIntervalMillis.toNat

def retryMaxDuration (config : Config) : Duration :=
  .ofMillis config.retryMaxDurationMillis.toNat

def queryTimeout (config : Config) : Option Duration :=
  config.queryTimeoutMillis.map fun millis => .ofMillis millis.toNat

/-- The settings with another interval: at least a millisecond, and of its milliseconds
the low 64 bits. -/
def withPollInterval (interval : Duration) (config : Config) : Config :=
  { config with pollIntervalMillis := .ofNat (max interval.toMillis 1) }

/-! ## Problems -/

inductive Problem where
  | notSeconds (key raw : String)
  | notBoolean (key text : String)
  | notInteger (key raw : String)
  | unknownFormat (text : String)
  | zeroPollInterval
  | zeroRowsPerPage
  | zeroFetchSize
deriving Repr, DecidableEq

def Problem.message : Problem → String
  | .notSeconds key raw => key ++ ": expected seconds, got '" ++ raw ++ "'"
  | .notBoolean key text => key ++ ": expected a boolean, got '" ++ text ++ "'"
  | .notInteger key raw => key ++ ": expected an integer, got '" ++ raw ++ "'"
  | .unknownFormat text => "unknown result format '" ++ text ++ "'"
  | .zeroPollInterval => "poll interval must be positive"
  | .zeroRowsPerPage => "max_rows_per_page must be positive"
  | .zeroFetchSize => "fetch_size must be positive"

/-- The first of the three counts that is zero and must not be. -/
def problem? (config : Config) : Option Problem :=
  if config.pollIntervalMillis = 0 then some .zeroPollInterval
  else if config.maxRowsPerPage = 0 then some .zeroRowsPerPage
  else if config.fetchSize = 0 then some .zeroFetchSize
  else none

/-! ## Records -/

def toJson (config : Config) : Json :=
  .object [("database", .string config.database), ("catalog", .string config.catalog),
    ("work_group", .ofOption .string config.workGroup),
    ("output_location", .ofOption .string config.outputLocation),
    ("poll_interval_ms", .ofNat config.pollIntervalMillis.toNat),
    ("kill_on_interrupt", .bool config.killOnInterrupt),
    ("result_format", config.resultFormat.toJson),
    ("report_counters", .bool config.reportCounters),
    ("max_rows_per_page", .ofNat config.maxRowsPerPage.toNat),
    ("fetch_size", .ofNat config.fetchSize.toNat),
    ("retry_max_attempts", .ofNat config.retryMaxAttempts.toNat),
    ("retry_max_duration_ms", .ofNat config.retryMaxDurationMillis.toNat),
    ("query_timeout_ms", .ofOption (fun millis => .ofNat millis.toNat) config.queryTimeoutMillis),
    ("null_tokens", .array (config.nullTokens.map .string))]

/-- Settings from a record, in which any of them may be left out. -/
def ofJson? (json : Json) : Option Config := do
  let fields ← Json.Fields.of?
    [["database"], ["catalog"], ["work_group"], ["output_location"], ["poll_interval_ms"],
      ["kill_on_interrupt"], ["result_format"], ["report_counters"], ["max_rows_per_page"],
      ["fetch_size"], ["retry_max_attempts"], ["retry_max_duration_ms"], ["query_timeout_ms"],
      ["null_tokens"]] json
  let base : Config := {}
  some {
    database := ← fields.defaulted "database" base.database Json.string?
    catalog := ← fields.defaulted "catalog" base.catalog Json.string?
    workGroup := ← fields.defaulted "work_group" none (Json.option? Json.string?)
    outputLocation := ← fields.defaulted "output_location" none (Json.option? Json.string?)
    pollIntervalMillis :=
      ← fields.defaulted "poll_interval_ms" base.pollIntervalMillis Json.uint64?
    killOnInterrupt := ← fields.defaulted "kill_on_interrupt" base.killOnInterrupt Json.bool?
    resultFormat := ← fields.defaulted "result_format" base.resultFormat ResultFormat.ofJson?
    reportCounters := ← fields.defaulted "report_counters" base.reportCounters Json.bool?
    maxRowsPerPage := ← fields.defaulted "max_rows_per_page" base.maxRowsPerPage Json.uint64?
    fetchSize := ← fields.defaulted "fetch_size" base.fetchSize Json.uint64?
    retryMaxAttempts := ← fields.defaulted "retry_max_attempts" base.retryMaxAttempts Json.uint32?
    retryMaxDurationMillis :=
      ← fields.defaulted "retry_max_duration_ms" base.retryMaxDurationMillis Json.uint64?
    queryTimeoutMillis := ← fields.defaulted "query_timeout_ms" none (Json.option? Json.uint64?)
    nullTokens := ← fields.defaulted "null_tokens" [] (Json.list? Json.string?) }

end Config

end RemoteQuery
