import RemoteQuery.Proofs.Cursor.Operations
import RemoteQuery.Proofs.Disturbance.Session
import RemoteQuery.Proofs.Twins.Poller
import RemoteQuery.Proofs.Twins.Results

/-! # Cursors in twin worlds

Cursors that stand at the same place in twin worlds stay together, whatever is done with
them, and all that they answer is the same.
-/

namespace RemoteQuery.Twins

open Calendar (Duration Instant)

variable {σ τ α : Type} (twins : Twins σ τ)

structure Cursors (calendar : Duration → Instant) (cursor : Cursor σ) (cursorTwin : Cursor τ) :
    Prop where
  state : cursorTwin.state = cursor.state
  records : Option.Rel (Execution.Alike calendar) cursor.execution cursorTwin.execution
  pagers : Option.Rel twins.Pagers cursor.pager cursorTwin.pager
  buffer : cursorTwin.buffer = cursor.buffer
  columns : cursorTwin.columns = cursor.columns
  handles : twins.making → twins.token cursor.token cursorTwin.token
  fetchSize : cursorTwin.fetchSize = cursor.fetchSize

/-- The same comes of an operation, or it has no end in either world. -/
abbrev Agree (calendar : Duration → Instant) :
    Option (α × Cursor σ × World σ) → Option (α × Cursor τ × World τ) → Prop :=
  Option.Rel (twins.Yields (twins.Cursors calendar))

structure Reaches (calendar : Duration → Instant)
    (made : Except Fault (Source σ) × Option Execution × World σ)
    (madeTwin : Except Fault (Source τ) × Option Execution × World τ) : Prop where
  source : Fault.Shared twins.Sources made.1 madeTwin.1
  record : Option.Rel (Execution.Alike calendar) made.2.1 madeTwin.2.1
  world : twins.Worlds made.2.2 madeTwin.2.2

variable {twins} {environment : Environment σ} {environmentTwin : Environment τ}
  {token tokenTwin : Token} {execution executionTwin : Execution} {world : World σ}
  {worldTwin : World τ} {cursor : Cursor σ} {cursorTwin : Cursor τ}
  {calendar : Duration → Instant}

theorem Agree.cases {made? : Option (α × Cursor σ × World σ)}
    {madeTwin? : Option (α × Cursor τ × World τ)} (agree : twins.Agree calendar made? madeTwin?) :
    (made? = none ∧ madeTwin? = none) ∨
      ∃ answer after reached afterTwin reachedTwin, made? = some (answer, after, reached) ∧
        madeTwin? = some (answer, afterTwin, reachedTwin) ∧
        twins.Cursors calendar after afterTwin ∧ twins.Worlds reached reachedTwin := by
  cases agree with
  | none => exact .inl ⟨rfl, rfl⟩
  | @some made madeTwin yields =>
      rcases yields.follows rfl with ⟨afterTwin, reachedTwin, rfl, cursors, worlds⟩
      exact .inr ⟨made.1, made.2.1, made.2.2, afterTwin, reachedTwin, rfl, rfl, cursors, worlds⟩

namespace Cursors

theorem queryId_eq (cursors : twins.Cursors calendar cursor cursorTwin) :
    cursorTwin.queryId = cursor.queryId := by
  have records := cursors.records
  unfold Cursor.queryId
  generalize cursor.execution = record at records ⊢
  generalize cursorTwin.execution = recordTwin at records ⊢
  cases records with
  | none => rfl
  | some alike => exact congrArg some alike.queryId_eq

theorem in_state (cursors : twins.Cursors calendar cursor cursorTwin) (state : CursorState) :
    twins.Cursors calendar { cursor with state } { cursorTwin with state } :=
  { cursors with state := rfl }

theorem recordUpdateCount (cursors : twins.Cursors calendar cursor cursorTwin) (page : Page) :
    twins.Cursors calendar (cursor.recordUpdateCount page)
      (cursorTwin.recordUpdateCount page) := by
  unfold Cursor.recordUpdateCount
  cases page.updateCount with
  | none => exact cursors
  | some count =>
      exact { cursors with records := Cursor.Alike.records_updated cursors.records count }

theorem takePage (cursors : twins.Cursors calendar cursor cursorTwin) (page : Page)
    {pager : Pager σ} {pagerTwin : Pager τ} (pagers : twins.Pagers pager pagerTwin) :
    twins.Cursors calendar (cursor.takePage page pager) (cursorTwin.takePage page pagerTwin) := by
  unfold Cursor.takePage
  rw [cursors.buffer, cursors.columns]
  exact { cursors.recordUpdateCount page with
    pagers := .some pagers, buffer := rfl, columns := rfl }

theorem renewToken (cursors : twins.Cursors calendar cursor cursorTwin)
    (worlds : twins.Worlds world worldTwin) :
    twins.Cursors calendar (cursor.renewToken world).1 (cursorTwin.renewToken worldTwin).1 ∧
      twins.Worlds (cursor.renewToken world).2 (cursorTwin.renewToken worldTwin).2 := by
  by_cases making : twins.making
  · unfold Cursor.renewToken
    rw [worlds.isFired_eq (cursors.handles making)]
    split
    · refine ⟨{ cursors with handles := fun making => worlds.made making 0 },
        { worlds with made := fun making ahead => ?_ }⟩
      have paired := worlds.made making (1 + ahead)
      rwa [← Nat.add_assoc, ← Nat.add_assoc] at paired
    · exact ⟨cursors, worlds⟩
  · unfold Cursor.renewToken
    cases world.isFired cursor.token <;> cases worldTwin.isFired cursorTwin.token <;>
      exact ⟨{ cursors with handles := fun made => absurd made making },
        { worlds with made := fun made => absurd made making }⟩

end Cursors

/-! ## Running a query -/

theorem selectSource_twin (behave : twins.Environments environment environmentTwin)
    (paired : twins.token token tokenTwin) (connection : Connection)
    (alike : execution.Alike environment.wallClock executionTwin)
    (worlds : twins.Worlds world worldTwin) :
    Fault.Shared twins.Sources
        (Cursor.selectSource connection environment token execution world).1
        (Cursor.selectSource connection environmentTwin tokenTwin executionTwin worldTwin).1 ∧
      twins.Worlds (Cursor.selectSource connection environment token execution world).2
        (Cursor.selectSource connection environmentTwin tokenTwin executionTwin worldTwin).2 := by
  have objects := behave.object
  unfold Cursor.selectSource
  dsimp only
  rw [alike.location_eq, alike.subject_eq]
  generalize environment.object = object at objects ⊢
  generalize environmentTwin.object = objectTwin at objects ⊢
  rcases connection.config.resultFormat with _ | _
  · exact ⟨.ok (.direct _ paired), worlds⟩
  · rcases execution.location with _ | location
    · exact ⟨.ok (.direct _ paired), worlds⟩
    · cases objects with
      | none => exact ⟨.ok (.direct _ paired), worlds⟩
      | some objects => exact prepare_twin behave paired objects location _ _ _ worlds

theorem reachResults_twin (behave : twins.Environments environment environmentTwin)
    (paired : twins.token token tokenTwin) (connection : Connection) (limit : Nat) (sql : String)
    (worlds : twins.Worlds world worldTwin) :
    Option.Rel (twins.Reaches environment.wallClock)
      (Cursor.reachResults connection environment limit sql token world)
      (Cursor.reachResults connection environmentTwin limit sql tokenTwin worldTwin) := by
  have submits := submit_twin behave connection.config sql worlds
  unfold Cursor.reachResults
  generalize submit environment connection.config sql world = submitted at submits ⊢
  generalize submit environmentTwin connection.config sql worldTwin = submittedTwin at submits ⊢
  rcases submitted with ⟨submission, reached⟩
  rcases submittedTwin with ⟨submissionTwin, reachedTwin⟩
  rcases submits with ⟨shared, reaches⟩
  cases shared with
  | error fault => exact .some ⟨.error fault, .none, reaches⟩
  | @ok record recordTwin alike =>
      have polls := pollUntilTerminal_twin behave paired connection.config.poller limit alike
        reaches
      dsimp only at polls ⊢
      generalize connection.config.poller.pollUntilTerminal environment token limit record
        reached = conclusion? at polls ⊢
      generalize connection.config.poller.pollUntilTerminal environmentTwin tokenTwin limit
        recordTwin reachedTwin = conclusionTwin? at polls ⊢
      cases polls with
      | none => exact .none
      | @some conclusion conclusionTwin concludes =>
          rcases conclusion with ⟨outcome, last, settled⟩
          rcases conclusionTwin with ⟨outcomeTwin, lastTwin, settledTwin⟩
          rcases concludes with ⟨same, alikeLast, settles⟩
          cases same
          cases outcome with
          | error fault => exact .some ⟨.error fault, .some alikeLast, settles⟩
          | ok done =>
              rcases selectSource_twin behave paired connection alikeLast settles with
                ⟨selects, reachesSource⟩
              exact .some ⟨selects, .some alikeLast, reachesSource⟩

theorem openResults_twin (behave : twins.Environments environment environmentTwin)
    {source : Source σ} {sourceTwin : Source τ} (sources : twins.Sources source sourceTwin)
    (cursors : twins.Cursors calendar cursor cursorTwin) (worlds : twins.Worlds world worldTwin) :
    twins.Yields (twins.Cursors calendar) (cursor.openResults environment source world)
      (cursorTwin.openResults environmentTwin sourceTwin worldTwin) := by
  have pagers : twins.Pagers ({ source } : Pager σ) ({ source := sourceTwin } : Pager τ) :=
    .of sources
  rcases stepped : ({ source } : Pager σ).next environment world with ⟨page?, pager, reached⟩
  rcases (next_yields behave pagers worlds).follows stepped with
    ⟨pagerTwin, reachedTwin, steppedTwin, pagersAfter, reaches⟩
  simp only [Cursor.openResults, stepped, steppedTwin]
  rcases page? with fault | _ | page
  · exact ⟨rfl, cursors, reaches⟩
  · exact ⟨rfl, { cursors with pagers := .some pagersAfter }, reaches⟩
  · exact ⟨rfl, { cursors.recordUpdateCount page with
      pagers := .some pagersAfter, buffer := rfl, columns := rfl }, reaches⟩

theorem run_twin (behave : twins.Environments environment environmentTwin)
    (paired : twins.token token tokenTwin) (connection : Connection) (limit : Nat) (sql : String)
    (cursors : twins.Cursors environment.wallClock cursor cursorTwin)
    (worlds : twins.Worlds world worldTwin) :
    twins.Agree environment.wallClock (cursor.run connection environment limit sql token world)
      (cursorTwin.run connection environmentTwin limit sql tokenTwin worldTwin) := by
  have results := reachResults_twin behave paired connection limit sql worlds
  unfold Cursor.run
  generalize Cursor.reachResults connection environment limit sql token world = made? at results ⊢
  generalize Cursor.reachResults connection environmentTwin limit sql tokenTwin worldTwin =
    madeTwin? at results ⊢
  cases results with
  | none => exact .none
  | @some made madeTwin reaches =>
      rcases made with ⟨source, record, reached⟩
      rcases madeTwin with ⟨sourceTwin, recordTwin, reachedTwin⟩
      rcases reaches with ⟨shared, records, reaches⟩
      cases shared with
      | error fault => exact .some ⟨rfl, { cursors with records }, reaches⟩
      | ok sources =>
          exact .some (openResults_twin behave sources { cursors with records } reaches)

/-- Whatever two cursors have behind them does not matter to a query. -/
theorem executeWith_twin (behave : twins.Environments environment environmentTwin)
    (paired : twins.token token tokenTwin) (connection : Connection) (limit : Nat) (sql : String)
    (unclosed : cursor.state ≠ .closed) (unclosedTwin : cursorTwin.state ≠ .closed)
    (sizes : cursorTwin.fetchSize = cursor.fetchSize)
    (handles : twins.making → twins.token cursor.token cursorTwin.token)
    (worlds : twins.Worlds world worldTwin) :
    twins.Agree environment.wallClock
      (cursor.executeWith connection environment limit sql token world)
      (cursorTwin.executeWith connection environmentTwin limit sql tokenTwin worldTwin) := by
  have cleared : twins.Cursors environment.wallClock { cursor.reset with state := .executing }
      { cursorTwin.reset with state := .executing } :=
    ⟨rfl, .none, .none, rfl, rfl, handles, sizes⟩
  unfold Cursor.executeWith
  rw [if_neg unclosed, if_neg unclosedTwin]
  rcases (run_twin behave paired connection limit sql cleared worlds).cases with
    ⟨endless, endlessTwin⟩ |
    ⟨outcome, after, reached, afterTwin, reachedTwin, ran, ranTwin, cursors, reaches⟩
  · rw [endless, endlessTwin]
    exact .none
  · rw [ran, ranTwin]
    cases outcome with
    | ok done => exact .some ⟨rfl, cursors.in_state .consumable, reaches⟩
    | error fault =>
        rcases (cursors.in_state .failed).renewToken reaches with ⟨renewed, renews⟩
        exact .some ⟨rfl, renewed, renews⟩

/-! ## Fetching rows -/

theorem loadPage_twin (behave : twins.Environments environment environmentTwin)
    (cursors : twins.Cursors calendar cursor cursorTwin) (worlds : twins.Worlds world worldTwin) :
    twins.Yields (twins.Cursors calendar) (cursor.loadPage environment world)
      (cursorTwin.loadPage environmentTwin worldTwin) := by
  have paged := cursors.pagers
  unfold Cursor.loadPage
  generalize cursor.pager = pager? at paged ⊢
  generalize cursorTwin.pager = pagerTwin? at paged ⊢
  cases paged with
  | none => exact ⟨rfl, cursors, worlds⟩
  | @some pager pagerTwin pagers =>
      rcases stepped : pager.next environment world with ⟨page?, next, reached⟩
      rcases (next_yields behave pagers worlds).follows stepped with
        ⟨nextTwin, reachedTwin, steppedTwin, pagersNext, reaches⟩
      simp only [stepped, steppedTwin]
      rcases page? with fault | _ | page
      · exact ⟨rfl, { cursors with pagers := .some pagersNext, state := rfl }, reaches⟩
      · exact ⟨rfl, { cursors with pagers := .some pagersNext }, reaches⟩
      · exact ⟨rfl, cursors.takePage page pagersNext, reaches⟩

private theorem castRow_twin (cursors : twins.Cursors calendar cursor cursorTwin)
    (connection : Connection) (row : RawRow) :
    (cursorTwin.castRow connection row).1 = (cursor.castRow connection row).1 ∧
      twins.Cursors calendar (cursor.castRow connection row).2
        (cursorTwin.castRow connection row).2 := by
  unfold Cursor.castRow
  rw [cursors.columns]
  split
  · exact ⟨rfl, cursors⟩
  · exact ⟨rfl, { cursors with state := rfl, columns := rfl }⟩

private theorem nextRow_buffered {row : RawRow} {rest : List RawRow}
    (buffered : cursor.buffer = row :: rest)
    (cursors : twins.Cursors calendar cursor cursorTwin) (worlds : twins.Worlds world worldTwin)
    (connection : Connection) (limit : Nat) :
    twins.Agree calendar (cursor.nextRow connection environment limit world)
      (cursorTwin.nextRow connection environmentTwin limit worldTwin) := by
  have shorter : twins.Cursors calendar { cursor with buffer := rest }
      { cursorTwin with buffer := rest } :=
    { cursors with buffer := rfl }
  rcases castRow_twin shorter connection row with ⟨answer, casts⟩
  rw [Cursor.nextRow_of_buffered buffered,
    Cursor.nextRow_of_buffered (cursors.buffer.trans buffered)]
  exact .some ⟨congrArg (Except.map some) answer, casts, worlds⟩

theorem nextRow_twin (behave : twins.Environments environment environmentTwin)
    (connection : Connection) (limit : Nat) (cursors : twins.Cursors calendar cursor cursorTwin)
    (worlds : twins.Worlds world worldTwin) :
    twins.Agree calendar (cursor.nextRow connection environment limit world)
      (cursorTwin.nextRow connection environmentTwin limit worldTwin) := by
  induction limit generalizing cursor cursorTwin world worldTwin with
  | zero =>
      cases buffered : cursor.buffer with
      | cons row rest => exact nextRow_buffered buffered cursors worlds connection 0
      | nil =>
          have bufferedTwin := cursors.buffer.trans buffered
          have endless : cursor.nextRow connection environment 0 world = none := by
            simp [Cursor.nextRow.eq_def, buffered]
          have endlessTwin :
              cursorTwin.nextRow connection environmentTwin 0 worldTwin = none := by
            simp [Cursor.nextRow.eq_def, bufferedTwin]
          rw [endless, endlessTwin]
          exact .none
  | succ limit induction =>
      cases buffered : cursor.buffer with
      | cons row rest => exact nextRow_buffered buffered cursors worlds connection _
      | nil =>
          rw [Cursor.nextRow_of_empty buffered,
            Cursor.nextRow_of_empty (cursors.buffer.trans buffered)]
          rcases loaded : cursor.loadPage environment world with ⟨more, next, reached⟩
          rcases (loadPage_twin behave cursors worlds).follows loaded with
            ⟨nextTwin, reachedTwin, loadedTwin, cursorsNext, reaches⟩
          rw [loadedTwin]
          rcases more with fault | _ | _
          · exact .some ⟨rfl, cursorsNext, reaches⟩
          · exact .some ⟨rfl, cursorsNext, reaches⟩
          · exact induction cursorsNext reaches

theorem drawThen_twin (behave : twins.Environments environment environmentTwin)
    (connection : Connection) (limit : Nat)
    {rest : Cursor σ → World σ → Option (Delivery × Cursor σ × World σ)}
    {restTwin : Cursor τ → World τ → Option (Delivery × Cursor τ × World τ)}
    (goes : ∀ {next : Cursor σ} {nextTwin : Cursor τ} {reached : World σ}
      {reachedTwin : World τ}, twins.Cursors calendar next nextTwin →
        twins.Worlds reached reachedTwin →
        twins.Agree calendar (rest next reached) (restTwin nextTwin reachedTwin))
    (cursors : twins.Cursors calendar cursor cursorTwin)
    (worlds : twins.Worlds world worldTwin) :
    twins.Agree calendar (cursor.drawThen connection environment limit rest world)
      (cursorTwin.drawThen connection environmentTwin limit restTwin worldTwin) := by
  unfold Cursor.drawThen
  rcases (nextRow_twin behave connection limit cursors worlds).cases with
    ⟨endless, endlessTwin⟩ |
    ⟨row?, next, reached, nextTwin, reachedTwin, drawn, drawnTwin, cursorsNext, reaches⟩
  · rw [endless, endlessTwin]
    exact .none
  · rw [drawn, drawnTwin]
    rcases row? with fault | _ | row
    · exact .some ⟨rfl, cursorsNext, reaches⟩
    · exact .some ⟨rfl, cursorsNext, reaches⟩
    · rcases (goes cursorsNext reaches).cases with
        ⟨endless, endlessTwin⟩ |
        ⟨rows, last, settled, lastTwin, settledTwin, drawn, drawnTwin, cursorsLast, settles⟩
      · simp only [endless, endlessTwin]
        exact .none
      · simp only [drawn, drawnTwin]
        exact .some ⟨rfl, cursorsLast, settles⟩

private theorem fetchOne_of_misuse {misuse : Misuse} (connection : Connection) (limit : Nat)
    (refused : Cursor.misuse? cursor.state = some misuse) (world : World σ) :
    cursor.fetchOne connection environment limit world =
      some (.error misuse.fault, cursor, world) := by
  rw [Cursor.fetchOne, refused]

theorem fetchUpTo_twin (behave : twins.Environments environment environmentTwin)
    (connection : Connection) (limit size : Nat)
    (cursors : twins.Cursors calendar cursor cursorTwin)
    (worlds : twins.Worlds world worldTwin) :
    twins.Agree calendar (cursor.fetchUpTo connection environment limit size world)
      (cursorTwin.fetchUpTo connection environmentTwin limit size worldTwin) := by
  induction size generalizing cursor cursorTwin world worldTwin with
  | zero => exact .some ⟨rfl, cursors, worlds⟩
  | succ size induction =>
      cases refused : Cursor.misuse? cursor.state with
      | some misuse =>
          have refusedTwin := (congrArg Cursor.misuse? cursors.state).trans refused
          rw [Cursor.fetchUpTo, Cursor.fetchUpTo, fetchOne_of_misuse connection limit refused,
            fetchOne_of_misuse connection limit refusedTwin]
          exact .some ⟨rfl, cursors, worlds⟩
      | none =>
          have consumable := (Cursor.misuse?_eq_none_iff _).mp refused
          rw [Cursor.fetchUpTo_succ consumable,
            Cursor.fetchUpTo_succ (cursors.state.trans consumable)]
          exact drawThen_twin behave connection limit induction cursors worlds

theorem fetchRest_twin (behave : twins.Environments environment environmentTwin)
    (connection : Connection) (limit bound : Nat)
    (cursors : twins.Cursors calendar cursor cursorTwin)
    (worlds : twins.Worlds world worldTwin) :
    twins.Agree calendar (cursor.fetchRest connection environment limit bound world)
      (cursorTwin.fetchRest connection environmentTwin limit bound worldTwin) := by
  induction bound generalizing cursor cursorTwin world worldTwin with
  | zero => exact .none
  | succ bound induction =>
      cases refused : Cursor.misuse? cursor.state with
      | some misuse =>
          have refusedTwin := (congrArg Cursor.misuse? cursors.state).trans refused
          rw [Cursor.fetchRest, Cursor.fetchRest, fetchOne_of_misuse connection limit refused,
            fetchOne_of_misuse connection limit refusedTwin]
          exact .some ⟨rfl, cursors, worlds⟩
      | none =>
          have consumable := (Cursor.misuse?_eq_none_iff _).mp refused
          rw [Cursor.fetchRest_succ consumable,
            Cursor.fetchRest_succ (cursors.state.trans consumable)]
          exact drawThen_twin behave connection limit induction cursors worlds

theorem fetch_twin (behave : twins.Environments environment environmentTwin)
    (connection : Connection) (limit : Nat) (fetch : Fetch)
    (cursors : twins.Cursors calendar cursor cursorTwin)
    (worlds : twins.Worlds world worldTwin) :
    twins.Agree calendar (cursor.fetch connection environment limit fetch world)
      (cursorTwin.fetch connection environmentTwin limit fetch worldTwin) := by
  cases refused : Cursor.misuse? cursor.state with
  | some misuse =>
      have refusedTwin := (congrArg Cursor.misuse? cursors.state).trans refused
      rw [Cursor.fetch_of_misuse refused, Cursor.fetch_of_misuse refusedTwin]
      exact .some ⟨rfl, cursors, worlds⟩
  | none =>
      have refusedTwin := (congrArg Cursor.misuse? cursors.state).trans refused
      cases fetch with
      | one =>
          have consumable := (Cursor.misuse?_eq_none_iff _).mp refused
          rw [Cursor.fetch_one consumable, Cursor.fetch_one (cursors.state.trans consumable)]
          exact drawThen_twin behave connection limit
            (fun cursors worlds => .some ⟨rfl, cursors, worlds⟩) cursors worlds
      | many size =>
          simp only [Cursor.fetch, Cursor.fetchMany, refused, refusedTwin, cursors.fetchSize]
          exact fetchUpTo_twin behave connection limit _ cursors worlds
      | all =>
          simp only [Cursor.fetch, Cursor.fetchAll, refused, refusedTwin]
          exact fetchRest_twin behave connection limit limit cursors worlds

/-! ## Operations -/

/-- Cursors that stand at the same place stay together in all operations but launches, which
need not be together before. -/
theorem perform_twin (behave : twins.Environments environment environmentTwin)
    (connection : Connection) (limit : Nat) {operation : Operation}
    (within : operation.isLaunch = false)
    (cursors : twins.Cursors calendar cursor cursorTwin)
    (worlds : twins.Worlds world worldTwin) :
    twins.Agree calendar (cursor.perform connection environment limit operation world)
      (cursorTwin.perform connection environmentTwin limit operation worldTwin) := by
  cases operation with
  | launch sql launch => cases within
  | fetch fetch => exact fetch_twin behave connection limit fetch cursors worlds
  | cancel =>
      unfold Cursor.perform Cursor.cancel
      rw [cursors.queryId_eq]
      cases cursor.queryId with
      | none => exact .some ⟨rfl, cursors, worlds⟩
      | some queryId => exact .some ⟨rfl, cursors, requestCancel_twin behave queryId worlds⟩
  | close =>
      exact .some ⟨rfl, ⟨rfl, .none, .none, rfl, rfl, cursors.handles, cursors.fetchSize⟩, worlds⟩
  | setFetchSize size =>
      unfold Cursor.perform Cursor.setFetchSize
      dsimp only
      split
      · exact .some ⟨rfl, cursors, worlds⟩
      · exact .some ⟨rfl, { cursors with fetchSize := rfl }, worlds⟩

end RemoteQuery.Twins
