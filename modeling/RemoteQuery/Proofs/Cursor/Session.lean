import RemoteQuery.Cursor.Fetch

/-! # Sessions of a cursor

A session begins with a query and goes on with fetches of its rows, one after the other.
-/

namespace RemoteQuery

/-- For which token a query is run: for the cursor's own, or for a given one. -/
inductive Launch where
  | own
  | given (token : Token)
deriving Repr, DecidableEq

inductive Fetch where
  | one
  | many (size : Option UInt64)
  | all
deriving Repr, DecidableEq

/-- A fetch asks for the row behind so many rows, given how many a fetch takes that does
not say. -/
def Fetch.Wants (fetchSize : UInt64) : Fetch → Nat → Prop
  | .one, before => before < 1
  | .many size, before => before < (size.getD fetchSize).toNat
  | .all, _ => True

def Fault.of? {α : Type} : Except Fault α → Option Fault
  | .ok _ => none
  | .error fault => some fault

abbrev Delivery := Except Fault (List Row)

namespace Cursor

variable {σ : Type}

/-! ## The next row -/

section

variable {connection : Connection} {environment : Environment σ} {limit : Nat}

@[simp] theorem takePage_state (page : Page) (pager : Pager σ) (cursor : Cursor σ) :
    (cursor.takePage page pager).state = cursor.state := by
  unfold takePage recordUpdateCount
  cases page.updateCount <;> rfl

@[simp] theorem takePage_fetchSize (page : Page) (pager : Pager σ) (cursor : Cursor σ) :
    (cursor.takePage page pager).fetchSize = cursor.fetchSize := by
  unfold takePage recordUpdateCount
  cases page.updateCount <;> rfl

theorem nextRow_of_buffered {cursor : Cursor σ} {world : World σ} {row : RawRow}
    {rest : List RawRow} (buffered : cursor.buffer = row :: rest) :
    cursor.nextRow connection environment limit world =
      some ((({ cursor with buffer := rest }.castRow connection row).1.map some),
        ({ cursor with buffer := rest }.castRow connection row).2, world) := by
  unfold nextRow
  rw [buffered]

theorem nextRow_of_empty {cursor : Cursor σ} {world : World σ}
    (buffered : cursor.buffer = []) :
    cursor.nextRow connection environment (limit + 1) world =
      match cursor.loadPage environment world with
      | (.ok true, cursor, world) => cursor.nextRow connection environment limit world
      | (.ok false, cursor, world) => some (.ok none, cursor, world)
      | (.error fault, cursor, world) => some (.error fault, cursor, world) := by
  rcases cursor with ⟨state, execution, pager, buffer, columns, token, fetchSize⟩
  subst buffered
  rfl

theorem fetchOne_of_consumable {cursor : Cursor σ} {world : World σ}
    (consumable : cursor.state = .consumable) :
    cursor.fetchOne connection environment limit world =
      cursor.nextRow connection environment limit world := by
  rw [fetchOne, consumable]
  rfl

end

/-! ## Row by row -/

def drawThen (connection : Connection) (environment : Environment σ) (limit : Nat)
    (rest : Cursor σ → World σ → Option (Delivery × Cursor σ × World σ)) (cursor : Cursor σ)
    (world : World σ) : Option (Delivery × Cursor σ × World σ) :=
  match cursor.nextRow connection environment limit world with
  | none => none
  | some (.error fault, cursor, world) => some (.error fault, cursor, world)
  | some (.ok none, cursor, world) => some (.ok [], cursor, world)
  | some (.ok (some row), cursor, world) =>
      (rest cursor world).map fun (rows, cursor, world) => (rows.map (row :: ·), cursor, world)

section

variable {connection : Connection} {environment : Environment σ} {limit : Nat}
  {cursor : Cursor σ}

theorem fetchUpTo_succ (consumable : cursor.state = .consumable) (size : Nat)
    (world : World σ) :
    cursor.fetchUpTo connection environment limit (size + 1) world =
      cursor.drawThen connection environment limit
        (fetchUpTo connection environment limit size) world := by
  rw [fetchUpTo, fetchOne_of_consumable consumable, drawThen]
  rcases cursor.nextRow connection environment limit world with
    _ | ⟨_ | _ | row, next, middle⟩
  · rfl
  · rfl
  · rfl
  · dsimp only
    cases next.fetchUpTo connection environment limit size middle <;> rfl

theorem fetchRest_succ (consumable : cursor.state = .consumable) (bound : Nat)
    (world : World σ) :
    cursor.fetchRest connection environment limit (bound + 1) world =
      cursor.drawThen connection environment limit
        (fetchRest connection environment limit bound) world := by
  rw [fetchRest, fetchOne_of_consumable consumable, drawThen]
  rcases cursor.nextRow connection environment limit world with
    _ | ⟨_ | _ | row, next, middle⟩
  · rfl
  · rfl
  · rfl
  · dsimp only
    cases next.fetchRest connection environment limit bound middle <;> rfl

end

/-! ## Sessions -/

/-- The token that ends the query of a launch, in the world in which it is submitted. -/
def tokenFor (cursor : Cursor σ) (world : World σ) : Launch → Token × World σ
  | .own => ((cursor.renewToken world).1.token, (cursor.renewToken world).2)
  | .given token => (token, world)

def launch (connection : Connection) (environment : Environment σ) (limit : Nat)
    (sql : String) (launch : Launch) (cursor : Cursor σ) (world : World σ) :
    Option (Except Fault Unit × Cursor σ × World σ) :=
  match launch with
  | .own => cursor.execute connection environment limit sql world
  | .given token => cursor.executeWith connection environment limit sql token world

def fetch (connection : Connection) (environment : Environment σ) (limit : Nat)
    (fetch : Fetch) (cursor : Cursor σ) (world : World σ) :
    Option (Delivery × Cursor σ × World σ) :=
  match fetch with
  | .one =>
      (cursor.fetchOne connection environment limit world).map fun (row, cursor, world) =>
        (row.map Option.toList, cursor, world)
  | .many size => cursor.fetchMany connection environment limit size world
  | .all => cursor.fetchAll connection environment limit world

def fetchEach (connection : Connection) (environment : Environment σ) (limit : Nat) :
    List Fetch → Cursor σ → World σ → Option (List (Delivery × Cursor σ) × World σ)
  | [], _, world => some ([], world)
  | fetch :: rest, cursor, world =>
      match cursor.fetch connection environment limit fetch world with
      | none => none
      | some (rows, cursor, world) =>
          match fetchEach connection environment limit rest cursor world with
          | none => none
          | some (later, world) => some ((rows, cursor) :: later, world)

theorem misuse?_eq_none_iff (state : CursorState) :
    misuse? state = none ↔ state = .consumable := by
  cases state <;> simp [misuse?]

theorem fetch_one {connection : Connection} {environment : Environment σ} {limit : Nat}
    {cursor : Cursor σ} (consumable : cursor.state = .consumable) (world : World σ) :
    cursor.fetch connection environment limit .one world =
      cursor.drawThen connection environment limit
        (fun next reached => some (.ok [], next, reached)) world := by
  rw [fetch, fetchOne_of_consumable consumable, drawThen]
  rcases cursor.nextRow connection environment limit world with
    _ | ⟨_ | _ | row, next, middle⟩ <;> rfl

section

variable {connection : Connection} {environment : Environment σ} {limit : Nat}
  {cursor : Cursor σ} {misuse : Misuse}

theorem fetch_of_misuse (refused : misuse? cursor.state = some misuse) (fetch : Fetch)
    (world : World σ) :
    cursor.fetch connection environment limit fetch world =
      some (.error misuse.fault, cursor, world) := by
  cases fetch with
  | one =>
      rw [Cursor.fetch, fetchOne, refused]
      rfl
  | many size => rw [Cursor.fetch, fetchMany, refused]
  | all => rw [Cursor.fetch, fetchAll, refused]

theorem fetchEach_of_misuse (refused : misuse? cursor.state = some misuse)
    (fetches : List Fetch) (world : World σ) :
    cursor.fetchEach connection environment limit fetches world =
      some (fetches.map fun _ => (.error misuse.fault, cursor), world) := by
  induction fetches with
  | nil => rfl
  | cons fetch rest induction =>
      rw [fetchEach, fetch_of_misuse refused]
      simp only [induction, List.map_cons]

end

structure View where
  state : CursorState
  description : Option (List Column)
  execution : Option Execution
  queryId : Option String
  queryState : Option QueryState
  reason : Option String
  outputLocation : Option String
  rowCount : Option UInt64
  scannedBytes : Option UInt64
  executionMillis : Option UInt64
  fetchSize : UInt64
deriving DecidableEq

def view (connection : Connection) (cursor : Cursor σ) : View :=
  { state := cursor.state
    description := cursor.description
    execution := cursor.execution
    queryId := cursor.queryId
    queryState := cursor.queryState
    reason := cursor.reason
    outputLocation := cursor.outputLocation
    rowCount := cursor.rowCount connection
    scannedBytes := cursor.scannedBytes connection
    executionMillis := cursor.executionMillis connection
    fetchSize := cursor.fetchSize }

/-- All that a session tells: how its launch went, and what each fetch answers, together with
what the cursor tells behind it. -/
structure Report where
  launched : Except Fault Unit
  opened : View
  fetched : List (Delivery × View)

def Report.fault? (report : Report) : Option Fault :=
  (Fault.of? report.launched).or (report.fetched.findSome? fun delivery => Fault.of? delivery.1)

def session (connection : Connection) (environment : Environment σ) (limit : Nat)
    (sql : String) (launch : Launch) (fetches : List Fetch) (cursor : Cursor σ)
    (world : World σ) : Option (Report × World σ) :=
  match cursor.launch connection environment limit sql launch world with
  | none => none
  | some (launched, opened, world) =>
      (opened.fetchEach connection environment limit fetches world).map
        fun (deliveries, world) =>
          ({ launched
             opened := opened.view connection
             fetched := deliveries.map fun delivery =>
               (delivery.1, delivery.2.view connection) }, world)

theorem renewToken_state (cursor : Cursor σ) (world : World σ) :
    (cursor.renewToken world).1.state = cursor.state := by
  unfold renewToken
  split <;> rfl

theorem renewToken_fetchSize (cursor : Cursor σ) (world : World σ) :
    (cursor.renewToken world).1.fetchSize = cursor.fetchSize := by
  unfold renewToken
  split <;> rfl

theorem launch_eq (connection : Connection) (environment : Environment σ) (limit : Nat)
    (sql : String) (launch : Launch) (cursor : Cursor σ) (world : World σ) :
    ∃ ready : Cursor σ, ready.state = cursor.state ∧ ready.fetchSize = cursor.fetchSize ∧
      cursor.launch connection environment limit sql launch world =
        ready.executeWith connection environment limit sql
          (cursor.tokenFor world launch).1 (cursor.tokenFor world launch).2 := by
  cases launch with
  | given token => exact ⟨cursor, rfl, rfl, rfl⟩
  | own =>
      exact ⟨(cursor.renewToken world).1, renewToken_state cursor world,
        renewToken_fetchSize cursor world, rfl⟩

end Cursor

end RemoteQuery
