import RemoteQuery.Cell.Cast
import RemoteQuery.Poller
import RemoteQuery.Results.Pager

namespace RemoteQuery

/-! Cursors run queries and hand out the rows of their results. A cursor runs one query
after the other; the rows of a query are cast only when they are asked for. -/

structure Connection where
  config : Config
  sentinels : Sentinels
deriving Repr, DecidableEq

namespace Connection

def ofConfig (config : Config) : Except Fault Connection :=
  match config.problem? with
  | some problem => .error (.configuration problem.message)
  | none => .ok { config, sentinels := { anywhere := config.nullTokens } }

def withSentinels (sentinels : Sentinels) (connection : Connection) : Connection :=
  { connection with sentinels }

end Connection

inductive CursorState where
  | idle
  | executing
  /-- There may be rows to fetch. -/
  | consumable
  | failed
  | closed
deriving Repr, DecidableEq, Inhabited

inductive Misuse where
  | closed
  | nothingExecuted
  | stillExecuting
  | lastExecutionFailed
  | nothingToCancel
  | zeroFetchSize
deriving Repr, DecidableEq

def Misuse.message : Misuse → String
  | .closed => "cursor is closed"
  | .nothingExecuted => "no query has been executed"
  | .stillExecuting => "query is still executing"
  | .lastExecutionFailed => "the last execution failed; no rows are available"
  | .nothingToCancel => "no query to cancel"
  | .zeroFetchSize => "fetch size must be positive"

def Misuse.fault (misuse : Misuse) : Fault :=
  .usage misuse.message

structure Cursor (σ : Type) where
  state : CursorState := .idle
  execution : Option Execution := none
  pager : Option (Pager σ) := none
  /-- Rows that have been read and not been handed out. -/
  buffer : List RawRow := []
  /-- The columns of the rows in the buffer. -/
  columns : List Column := []
  /-- The token that ends the cursor's next or running query. -/
  token : Token
  fetchSize : UInt64

def Connection.cursor {σ : Type} (connection : Connection) (world : World σ) :
    Cursor σ × World σ :=
  let (token, world) := world.mint
  ({ token, fetchSize := connection.config.fetchSize }, world)

namespace Cursor

variable {σ : Type}

/-! ## What a cursor tells -/

/-- The columns of the results, while rows can be fetched. -/
def description (cursor : Cursor σ) : Option (List Column) :=
  if cursor.state = .consumable then some cursor.columns else none

def queryId (cursor : Cursor σ) : Option String :=
  cursor.execution.map (·.queryId)

def queryState (cursor : Cursor σ) : Option QueryState :=
  cursor.execution.map (·.state)

def reason (cursor : Cursor σ) : Option String :=
  cursor.execution.bind (·.errorMessage)

def outputLocation (cursor : Cursor σ) : Option String :=
  (cursor.execution.bind (·.location)).map (·.uri)

def counted (connection : Connection) (cursor : Cursor σ) : Option Execution :=
  if connection.config.reportCounters then cursor.execution else none

def rowCount (connection : Connection) (cursor : Cursor σ) : Option UInt64 :=
  (cursor.counted connection).bind (·.updateCount)

def scannedBytes (connection : Connection) (cursor : Cursor σ) : Option UInt64 :=
  (cursor.counted connection).map (·.scannedBytes)

def executionMillis (connection : Connection) (cursor : Cursor σ) : Option UInt64 :=
  (cursor.counted connection).map (·.elapsedMillis)

def setFetchSize (size : UInt64) (cursor : Cursor σ) : Except Fault Unit × Cursor σ :=
  if size = 0 then (.error Misuse.zeroFetchSize.fault, cursor)
  else (.ok (), { cursor with fetchSize := size })

/-! ## Running a query -/

def reset (cursor : Cursor σ) : Cursor σ :=
  { cursor with execution := none, pager := none, buffer := [], columns := [] }

def recordUpdateCount (page : Page) (cursor : Cursor σ) : Cursor σ :=
  match page.updateCount with
  | some count => { cursor with execution := cursor.execution.map (·.recordUpdateCount count) }
  | none => cursor

/-- The source of a query's results: the file that the service has written, if that is
wanted and possible, otherwise the service itself. -/
def selectSource (connection : Connection) (environment : Environment σ) (token : Token)
    (execution : Execution) (world : World σ) : Except Fault (Source σ) × World σ :=
  let config := connection.config
  match config.resultFormat, execution.location, environment.object with
  | .bulk, some location, some object =>
      let (source, world) :=
        BulkSource.prepare environment object location execution.subject
          config.maxRowsPerPage.toNat config.retryPolicy token world
      (source.map .bulk, world)
  | _, _, _ =>
      (.ok (.direct
        { subject := execution.subject
          maxRows := config.maxRowsPerPage.toNat
          retry := config.retryPolicy
          token }), world)

def openResults (environment : Environment σ) (source : Source σ) (cursor : Cursor σ)
    (world : World σ) : Except Fault Unit × Cursor σ × World σ :=
  match ({ source } : Pager σ).next environment world with
  | (.error fault, _, world) => (.error fault, cursor, world)
  | (.ok none, pager, world) => (.ok (), { cursor with pager := some pager }, world)
  | (.ok (some page), pager, world) =>
      (.ok (), { cursor.recordUpdateCount page with
        columns := page.columns, buffer := page.rows, pager := some pager }, world)

/-- Submit a query, follow it to its end, and find the source of its results. There is a
record of the query as soon as it is followed. -/
def reachResults (connection : Connection) (environment : Environment σ) (limit : Nat)
    (sql : String) (token : Token) (world : World σ) :
    Option (Except Fault (Source σ) × Option Execution × World σ) :=
  match submit environment connection.config sql world with
  | (.error fault, world) => some (.error fault, none, world)
  | (.ok execution, world) =>
      match connection.config.poller.pollUntilTerminal environment token limit execution world with
      | none => none
      | some ⟨.error fault, execution, world⟩ => some (.error fault, some execution, world)
      | some ⟨.ok (), execution, world⟩ =>
          let (source, world) := selectSource connection environment token execution world
          some (source, some execution, world)

def run (connection : Connection) (environment : Environment σ) (limit : Nat) (sql : String)
    (token : Token) (cursor : Cursor σ) (world : World σ) :
    Option (Except Fault Unit × Cursor σ × World σ) :=
  match reachResults connection environment limit sql token world with
  | none => none
  | some (.error fault, execution, world) => some (.error fault, { cursor with execution }, world)
  | some (.ok source, execution, world) =>
      some (openResults environment source { cursor with execution } world)

def renewToken (cursor : Cursor σ) (world : World σ) : Cursor σ × World σ :=
  if world.isFired cursor.token then
    let (token, world) := world.mint
    ({ cursor with token }, world)
  else (cursor, world)

def executeWith (connection : Connection) (environment : Environment σ) (limit : Nat)
    (sql : String) (token : Token) (cursor : Cursor σ) (world : World σ) :
    Option (Except Fault Unit × Cursor σ × World σ) :=
  if cursor.state = .closed then some (.error Misuse.closed.fault, cursor, world)
  else
    match run connection environment limit sql token { cursor.reset with state := .executing }
        world with
    | none => none
    | some (.ok (), cursor, world) => some (.ok (), { cursor with state := .consumable }, world)
    | some (.error fault, cursor, world) =>
        let (cursor, world) := { cursor with state := .failed }.renewToken world
        some (.error fault, cursor, world)

/-- Run a query that the cursor's own token ends. A token that was fired before is replaced
first. -/
def execute (connection : Connection) (environment : Environment σ) (limit : Nat) (sql : String)
    (cursor : Cursor σ) (world : World σ) :
    Option (Except Fault Unit × Cursor σ × World σ) :=
  let (cursor, world) := cursor.renewToken world
  cursor.executeWith connection environment limit sql cursor.token world

/-- Ask the service to end the query. Whether it does is not waited for. -/
def cancel (environment : Environment σ) (cursor : Cursor σ) (world : World σ) :
    Except Fault Unit × World σ :=
  match cursor.queryId with
  | none => (.error Misuse.nothingToCancel.fault, world)
  | some queryId => (.ok (), Poller.requestCancel environment queryId world)

def close (cursor : Cursor σ) : Cursor σ :=
  { cursor.reset with state := .closed }

end Cursor

end RemoteQuery
