import RemoteQuery.Cursor.Basic

namespace RemoteQuery.Cursor

variable {σ : Type}

/-! Fetching rows. Every fetch takes rows from the front of the buffer and reads the next
page when the buffer is empty. A row that cannot be cast, and a page that cannot be
read, end the query's results. -/

def misuse? : CursorState → Option Misuse
  | .consumable => none
  | .idle => some .nothingExecuted
  | .executing => some .stillExecuting
  | .failed => some .lastExecutionFailed
  | .closed => some .closed

def takePage (page : Page) (pager : Pager σ) (cursor : Cursor σ) : Cursor σ :=
  { cursor.recordUpdateCount page with
    pager := some pager
    columns := if page.columns.isEmpty then cursor.columns else page.columns
    buffer := cursor.buffer ++ page.rows }

/-- Read the next page into the buffer. The answer says whether there was one. -/
def loadPage (environment : Environment σ) (cursor : Cursor σ) (world : World σ) :
    Except Fault Bool × Cursor σ × World σ :=
  match cursor.pager with
  | none => (.ok false, cursor, world)
  | some pager =>
      match pager.next environment world with
      | (.ok (some page), pager, world) => (.ok true, cursor.takePage page pager, world)
      | (.ok none, pager, world) => (.ok false, { cursor with pager := some pager }, world)
      | (.error fault, pager, world) =>
          (.error fault, { cursor with pager := some pager, state := .failed }, world)

def castRow (connection : Connection) (row : RawRow) (cursor : Cursor σ) :
    Except Fault Row × Cursor σ :=
  match Column.castRow connection.sentinels cursor.columns row with
  | .ok values => (.ok values, cursor)
  | .error fault => (.error fault, { cursor with state := .failed })

/-- The next row, after at most `limit` pages have been read. -/
def nextRow (connection : Connection) (environment : Environment σ) :
    (limit : Nat) → Cursor σ → World σ → Option (Except Fault (Option Row) × Cursor σ × World σ)
  | limit, cursor, world =>
      match cursor.buffer, limit with
      | row :: rest, _ =>
          let (values, cursor) := { cursor with buffer := rest }.castRow connection row
          some (values.map some, cursor, world)
      | [], 0 => none
      | [], limit + 1 =>
          match cursor.loadPage environment world with
          | (.ok true, cursor, world) => nextRow connection environment limit cursor world
          | (.ok false, cursor, world) => some (.ok none, cursor, world)
          | (.error fault, cursor, world) => some (.error fault, cursor, world)

def fetchOne (connection : Connection) (environment : Environment σ) (limit : Nat)
    (cursor : Cursor σ) (world : World σ) :
    Option (Except Fault (Option Row) × Cursor σ × World σ) :=
  match misuse? cursor.state with
  | some misuse => some (.error misuse.fault, cursor, world)
  | none => nextRow connection environment limit cursor world

def fetchUpTo (connection : Connection) (environment : Environment σ) (limit : Nat) :
    (size : Nat) → Cursor σ → World σ → Option (Except Fault (List Row) × Cursor σ × World σ)
  | 0, cursor, world => some (.ok [], cursor, world)
  | size + 1, cursor, world =>
      match cursor.fetchOne connection environment limit world with
      | none => none
      | some (.error fault, cursor, world) => some (.error fault, cursor, world)
      | some (.ok none, cursor, world) => some (.ok [], cursor, world)
      | some (.ok (some row), cursor, world) =>
          match fetchUpTo connection environment limit size cursor world with
          | none => none
          | some (rows, cursor, world) => some (rows.map (row :: ·), cursor, world)

/-- As many rows as are asked for, or as the cursor's fetch size says. There are fewer only
where the rows end. -/
def fetchMany (connection : Connection) (environment : Environment σ) (limit : Nat)
    (size : Option UInt64) (cursor : Cursor σ) (world : World σ) :
    Option (Except Fault (List Row) × Cursor σ × World σ) :=
  match misuse? cursor.state with
  | some misuse => some (.error misuse.fault, cursor, world)
  | none =>
      fetchUpTo connection environment limit (size.getD cursor.fetchSize).toNat cursor world

/-- Rows up to the last one, if there are fewer than `bound`. -/
def fetchRest (connection : Connection) (environment : Environment σ) (limit : Nat) :
    (bound : Nat) → Cursor σ → World σ → Option (Except Fault (List Row) × Cursor σ × World σ)
  | 0, _, _ => none
  | bound + 1, cursor, world =>
      match cursor.fetchOne connection environment limit world with
      | none => none
      | some (.error fault, cursor, world) => some (.error fault, cursor, world)
      | some (.ok none, cursor, world) => some (.ok [], cursor, world)
      | some (.ok (some row), cursor, world) =>
          match fetchRest connection environment limit bound cursor world with
          | none => none
          | some (rows, cursor, world) => some (rows.map (row :: ·), cursor, world)

def fetchAll (connection : Connection) (environment : Environment σ) (limit : Nat)
    (cursor : Cursor σ) (world : World σ) :
    Option (Except Fault (List Row) × Cursor σ × World σ) :=
  match misuse? cursor.state with
  | some misuse => some (.error misuse.fault, cursor, world)
  | none => fetchRest connection environment limit limit cursor world

end RemoteQuery.Cursor
