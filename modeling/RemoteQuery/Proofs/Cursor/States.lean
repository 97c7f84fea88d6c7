import RemoteQuery.Proofs.Cursor.Operations

/-! # The states of a cursor

Which operations a cursor takes is decided by its state alone, and so is its next state,
together with the operation's answer. What a whole history can do to the state follows.
-/

namespace RemoteQuery

variable {σ : Type} {connection : Connection} {environment : Environment σ} {limit : Nat}

/-- The state behind an operation, by the operation's answer. -/
def CursorState.next (operation : Operation) (answer : Delivery) : CursorState → CursorState
  | .closed => .closed
  | .consumable =>
      match operation with
      | .launch _ _ | .fetch _ => Cursor.settled answer
      | .close => .closed
      | .cancel | .setFetchSize _ => .consumable
  | state =>
      match operation with
      | .launch _ _ => Cursor.settled answer
      | .close => .closed
      | .fetch _ | .cancel | .setFetchSize _ => state

namespace Cursor

variable {cursor next after last : Cursor σ} {world middle reached final : World σ}

/-! ## One operation -/

private theorem next_launch {state : CursorState} (unclosed : state ≠ .closed) (sql : String)
    (launch : Launch) (answer : Delivery) :
    state.next (.launch sql launch) answer = settled answer := by
  cases state with
  | closed => exact absurd rfl unclosed
  | _ => rfl

private theorem next_fetch_of_misuse {state : CursorState} {misuse : Misuse}
    (refused : misuse? state = some misuse) (fetch : Fetch) (answer : Delivery) :
    state.next (.fetch fetch) answer = state := by
  cases state with
  | consumable => cases refused
  | _ => rfl

private theorem next_close (state : CursorState) (answer : Delivery) :
    state.next .close answer = .closed := by
  cases state <;> rfl

private theorem launch_state {sql : String} {launch : Launch} {result : Except Fault Unit}
    (launched : cursor.launch connection environment limit sql launch world =
      some (result, after, reached)) :
    after.state = cursor.state.next (.launch sql launch) (result.map fun _ => []) := by
  cases launches_of_launch launched with
  | refused closed => rw [ready_state, closed]; rfl
  | succeeded unclosed ran =>
      rw [next_launch unclosed]
      rfl
  | failed unclosed ran =>
      rw [renewToken_state, next_launch unclosed]
      rfl

private theorem fetch_state {fetch : Fetch} {answer : Delivery}
    (fetched : cursor.fetch connection environment limit fetch world =
      some (answer, after, reached)) :
    after.state = cursor.state.next (.fetch fetch) answer := by
  rcases fetch_cases fetched with ⟨misuse, refused, rfl, rfl, rfl⟩ | ⟨consumable, gathers⟩
  · exact (next_fetch_of_misuse refused fetch _).symm
  · rw [gathers.state consumable, consumable]
    rfl

theorem perform_state {operation : Operation} {answer : Delivery}
    (performed : cursor.perform connection environment limit operation world =
      some (answer, after, reached)) :
    after.state = cursor.state.next operation answer := by
  cases operation with
  | launch sql launch =>
      rcases launch_of_perform performed with ⟨result, launched, rfl⟩
      exact launch_state launched
  | fetch fetch => exact fetch_state performed
  | cancel =>
      cases performed
      cases cursor.state <;> rfl
  | close =>
      cases performed
      exact (next_close _ _).symm
  | setFetchSize size =>
      rcases setFetchSize_of_perform performed with ⟨fetchSize, rfl, -⟩
      cases cursor.state <;> rfl

/-! ## Many operations -/

private theorem invariant_of_states {allowed : Operation → Prop} (Holds : CursorState → Prop)
    (moved : ∀ {operation answer state}, allowed operation → Holds state →
      Holds (state.next operation answer))
    (begun : ∀ {sql launch state}, allowed (.launch sql launch) → Holds state →
      state ≠ .closed → Holds .executing) :
    Invariant connection environment allowed
      (fun cursor : Cursor σ => Holds cursor.state) where
  performed permitted holds answered := by
    rw [perform_state answered]
    exact moved permitted holds
  abandonedLaunch _ permitted holds unclosed := begun permitted holds unclosed
  abandonedFetch _ holds _ _ := holds

theorem invariant_closed : Invariant connection environment (fun _ => True)
    (fun cursor : Cursor σ => cursor.state = .closed) := by
  apply invariant_of_states (fun state => state = .closed)
  · rintro operation answer state - rfl
    rfl
  · intro sql launch state _ closed unclosed
    exact absurd closed unclosed

private theorem next_of_not_endsResults {operation : Operation}
    (going : operation.endsResults = false) (answer : Delivery) (state : CursorState) :
    state.next operation answer = state ∨
      state = .consumable ∧ state.next operation answer = .failed := by
  cases operation with
  | launch sql launch => cases going
  | close => cases going
  | fetch fetch =>
      cases state with
      | consumable =>
          cases answer with
          | ok rows => exact .inl rfl
          | error fault => exact .inr ⟨rfl, rfl⟩
      | _ => exact .inl rfl
  | _ => cases state <;> exact .inl rfl

theorem invariant_refuses :
    Invariant connection environment (fun operation => operation.isLaunch = false)
      (fun cursor : Cursor σ => cursor.state ≠ .consumable) := by
  apply invariant_of_states (fun state => state ≠ .consumable)
  · intro operation answer state unlaunched refuses
    cases going : operation.endsResults with
    | false =>
        rcases next_of_not_endsResults going answer state with same | ⟨consumable, -⟩
        · rwa [same]
        · exact absurd consumable refuses
    | true =>
        cases operation with
        | launch sql launch => cases unlaunched
        | close =>
            rw [next_close]
            exact fun wrong => by cases wrong
        | _ => cases going
  · intro sql launch state unlaunched
    cases unlaunched

/-- Unless the results are ended, a cursor stays in its state, or goes from having rows to
having failed. -/
theorem invariant_stays (first : CursorState) :
    Invariant connection environment (fun operation => operation.endsResults = false)
      (fun cursor : Cursor σ =>
        cursor.state = first ∨ first = .consumable ∧ cursor.state = .failed) := by
  apply invariant_of_states (fun state => state = first ∨ first = .consumable ∧ state = .failed)
  · intro operation answer state going stays
    rcases next_of_not_endsResults going answer state with same | ⟨consumable, failed⟩
    · rwa [same]
    · rcases stays with rfl | ⟨_, already⟩
      · exact .inr ⟨consumable, failed⟩
      · rw [already] at consumable
        cases consumable
  · intro sql launch state going
    cases going

theorem invariant_exhausted :
    Invariant connection environment (fun operation => operation.endsResults = false)
      (Exhausted (σ := σ)) where
  performed := by
    intro limit operation answer cursor next world middle going exhausted answered
    cases operation with
    | launch sql launch => cases going
    | close => cases going
    | fetch fetch =>
        rw [exhausted.gathers (gathers_of_fetch exhausted.consumable answered)]
        exact exhausted
    | cancel =>
        cases answered
        exact exhausted
    | setFetchSize size =>
        rcases setFetchSize_of_perform answered with ⟨fetchSize, rfl, -⟩
        exact ⟨exhausted.consumable, exhausted.empty, exhausted.pager⟩
  abandonedLaunch _ going := by cases going
  abandonedFetch _ exhausted _ unexhausted := absurd exhausted unexhausted

theorem invariant_cleared : Invariant connection environment (fun _ => True)
    (fun cursor : Cursor σ => cursor.state = .closed → cursor.execution = none) where
  performed := by
    intro limit operation answer cursor next world middle _ cleared answered closed
    cases operation with
    | launch sql launch =>
        rcases launch_of_perform answered with ⟨result, launched, -⟩
        cases launches_of_launch launched with
        | refused already =>
            rcases ready_eq cursor world launch with ⟨token, same⟩
            rw [same]
            exact cleared already
        | succeeded unclosed ran => cases closed
        | failed unclosed ran =>
            rw [renewToken_state] at closed
            cases closed
    | fetch fetch =>
        rcases fetch_cases answered with ⟨misuse, refused, rfl, rfl, rfl⟩ | ⟨consumable, gathers⟩
        · exact cleared closed
        · rw [gathers.state consumable] at closed
          cases answer <;> cases closed
    | cancel =>
        cases answered
        exact cleared closed
    | close =>
        cases answered
        rfl
    | setFetchSize size =>
        rcases setFetchSize_of_perform answered with ⟨fetchSize, rfl, -⟩
        exact cleared closed
  abandonedLaunch _ _ _ _ closed := by cases closed
  abandonedFetch _ _ consumable _ closed := by
    rw [consumable] at closed
    cases closed

/-! ## Any moment of a history -/

structure Governed (connection : Connection) (environment : Environment σ) (cursor : Cursor σ)
    (world : World σ) : Prop where
  described : cursor.description.isSome = true ↔ cursor.state = .consumable
  /-- Where there are no rows to fetch, a fetch is a misuse, and does nothing. -/
  refuses : cursor.state ≠ .consumable → ∀ (limit : Nat) (fetch : Fetch), ∃ misuse : Misuse,
    cursor.fetch connection environment limit fetch world =
      some (.error misuse.fault, cursor, world)
  /-- A closed cursor launches nothing, and has nothing to cancel. -/
  closed : cursor.state = .closed →
    (∀ (limit : Nat) (sql : String) (launch : Launch), ∃ token reached,
      cursor.launch connection environment limit sql launch world =
          some (.error Misuse.closed.fault, { cursor with token }, reached) ∧
        reached.sent = world.sent) ∧
      cursor.cancel environment world = (.error Misuse.nothingToCancel.fault, world)
  moves : ∀ {limit : Nat} {operation : Operation} {answer : Delivery} {after : Cursor σ}
    {reached : World σ},
    cursor.perform connection environment limit operation world =
        some (answer, after, reached) →
      after.state = cursor.state.next operation answer
  launches : cursor.state ≠ .closed → ∀ {limit : Nat} {sql : String} {launch : Launch}
    {result : Except Fault Unit} {after : Cursor σ} {reached : World σ},
    cursor.launch connection environment limit sql launch world =
        some (result, after, reached) →
      after.state = settled result
  staysClosed : cursor.state = .closed → ∀ {operations : List Operation} {later : Cursor σ}
    {final : World σ}, History connection environment cursor world operations later final →
      later.state = .closed
  /-- Only a launch and the end of the cursor lead anywhere but from rows to a failure. -/
  stays : ∀ {operations : List Operation} {later : Cursor σ} {final : World σ},
    History connection environment cursor world operations later final →
      (∀ operation ∈ operations, operation.endsResults = false) →
        later.state = cursor.state ∨ cursor.state = .consumable ∧ later.state = .failed
  /-- Behind a fetch that fails, there are no rows until the next launch. -/
  failed : ∀ {limit : Nat} {fetch : Fetch} {fault : Fault} {after : Cursor σ}
    {reached : World σ},
    cursor.fetch connection environment limit fetch world =
        some (.error fault, after, reached) →
      ∀ {operations : List Operation} {later : Cursor σ} {final : World σ},
        History connection environment after reached operations later final →
          (∀ operation ∈ operations, operation.isLaunch = false) →
            ∀ (limit : Nat) (fetch : Fetch), ∃ misuse : Misuse,
              later.fetch connection environment limit fetch final =
                some (.error misuse.fault, later, final)
  /-- A fetch that brings less than it wants brings the last row. -/
  exhausts : ∀ {limit : Nat} {fetch : Fetch} {rows : List Row} {after : Cursor σ}
    {reached : World σ},
    cursor.fetch connection environment limit fetch world = some (.ok rows, after, reached) →
      fetch.Wants cursor.fetchSize rows.length → after.Exhausted
  /-- Behind the last row, fetches succeed without rows and without a call. -/
  exhausted : cursor.Exhausted → ∀ {operations : List Operation} {later : Cursor σ}
    {final : World σ}, History connection environment cursor world operations later final →
      (∀ operation ∈ operations, operation.endsResults = false) →
        ∀ (limit : Nat) (fetch : Fetch),
          later.fetch connection environment (limit + 1) fetch final =
            some (.ok [], later, final)

private theorem description_isSome (cursor : Cursor σ) :
    cursor.description.isSome = true ↔ cursor.state = .consumable := by
  unfold description
  split <;> simp_all

private theorem fetch_refused (refuses : cursor.state ≠ .consumable) (limit : Nat)
    (fetch : Fetch) (world : World σ) : ∃ misuse : Misuse,
      cursor.fetch connection environment limit fetch world =
        some (.error misuse.fault, cursor, world) := by
  cases refused : misuse? cursor.state with
  | none => exact absurd ((misuse?_eq_none_iff _).mp refused) refuses
  | some misuse => exact ⟨misuse, fetch_of_misuse refused fetch world⟩

private theorem launched_state {sql : String} {launch : Launch} {result : Except Fault Unit}
    (unclosed : cursor.state ≠ .closed)
    (launched : cursor.launch connection environment limit sql launch world =
      some (result, after, reached)) : after.state = settled result := by
  rw [launch_state launched, next_launch unclosed]
  cases result <;> rfl

private theorem launch_of_closed (closed : cursor.state = .closed) (limit : Nat) (sql : String)
    (launch : Launch) (world : World σ) : ∃ token reached,
      cursor.launch connection environment limit sql launch world =
          some (.error Misuse.closed.fault, { cursor with token }, reached) ∧
        reached.sent = world.sent := by
  rcases ready_eq cursor world launch with ⟨token, same⟩
  refine ⟨token, (cursor.ready world launch).2, ?_, ready_sent cursor world launch⟩
  rw [launch_eq_executeWith, executeWith, ready_state, if_pos closed, same]

private theorem cancel_of_unrecorded (unrecorded : cursor.execution = none) (world : World σ) :
    cursor.cancel environment world = (.error Misuse.nothingToCancel.fault, world) := by
  rw [cancel, queryId, unrecorded]
  rfl

/-- However a cursor is used, its state decides what can be done with it. -/
theorem History.governed {start : World σ} {operations : List Operation}
    (history : History connection environment (connection.cursor start).1
      (connection.cursor start).2 operations cursor world) :
    Governed connection environment cursor world where
  described := description_isSome cursor
  refuses refuses limit fetch := fetch_refused refuses limit fetch world
  closed closed := by
    have cleared : cursor.state = .closed → cursor.execution = none :=
      history.holds invariant_cleared (fun _ _ => trivial) fun _ => rfl
    exact ⟨fun limit sql launch => launch_of_closed closed limit sql launch world,
      cancel_of_unrecorded (cleared closed) world⟩
  moves performed := perform_state performed
  launches unclosed _ _ _ _ _ _ launched := launched_state unclosed launched
  staysClosed closed _ _ _ further := further.holds invariant_closed (fun _ _ => trivial) closed
  stays further going := further.holds (invariant_stays cursor.state) going (.inl rfl)
  failed := by
    intro limit fetch fault after reached fetched operations later final further unlaunched
    have unable : after.state ≠ .consumable := by
      rw [fetch_state fetched]
      cases cursor.state <;> exact fun wrong => by cases wrong
    exact fun limit fetch =>
      fetch_refused (further.holds invariant_refuses unlaunched unable) limit fetch final
  exhausts := by
    intro limit fetch rows after reached fetched unmet
    rcases fetch_cases fetched with ⟨misuse, -, wrong, -⟩ | ⟨consumable, gathers⟩
    · cases wrong
    · exact gathers.exhausted consumable unmet
  exhausted := by
    intro exhausted operations later final further going limit fetch
    exact (further.holds invariant_exhausted going exhausted).fetch_eq fetch final

/-- A cursor that has handed out three rows, and then come upon one that cannot be cast. -/
theorem governed_behindBadRow :
    ∃ (cursor : Cursor Rehearsal.Script) (world : World Rehearsal.Script),
      History { config := {}, sentinels := {} } (Rehearsal.environment false default)
        (Connection.cursor { config := {}, sentinels := {} }
          { succeedsAtOnce with nextToken := 0 }).1
        (Connection.cursor { config := {}, sentinels := {} }
          { succeedsAtOnce with nextToken := 0 }).2
        [.launch "SELECT c FROM t" .own, .fetch (.many (some 3)), .fetch .all] cursor world ∧
      cursor.state = .failed ∧
      Governed { config := {}, sentinels := {} } (Rehearsal.environment false default) cursor
        world := by
  have history : History { config := {}, sentinels := {} } (Rehearsal.environment false default)
      (Connection.cursor { config := {}, sentinels := {} }
        { succeedsAtOnce with nextToken := 0 }).1
      (Connection.cursor { config := {}, sentinels := {} }
        { succeedsAtOnce with nextToken := 0 }).2
      [.launch "SELECT c FROM t" .own, .fetch (.many (some 3)), .fetch .all] _ _ :=
    .performed 4 rfl (.performed 4 rfl (.performed 4 rfl .nil))
  exact ⟨_, _, history, rfl, history.governed⟩

end Cursor

end RemoteQuery
