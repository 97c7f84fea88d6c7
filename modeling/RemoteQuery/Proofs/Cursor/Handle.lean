import RemoteQuery.Proofs.Cursor.Traffic

/-! # What becomes of a handle

A handle is the token that a cursor has when the handle is taken. It ends the cursor's next
query if it is fired while that query is run. If it has been fired before, the query is run
for another token.
-/

namespace RemoteQuery

open Calendar (Duration)

variable {σ : Type}

namespace Poller

variable {poller : Poller} {environment : Environment σ} {token : Token} {started : Duration}
  {progress : Progress σ}

/-- The token is fired before the engine goes on behind a look. -/
inductive FiredDuring (poller : Poller) (environment : Environment σ) (token : Token)
    (started : Duration) (progress : Progress σ) : Prop
  | inTime (fired : FiredInTime poller environment token started progress)
  | atRest {resting : Progress σ} {reached : World σ}
      (awaits : Awaits poller environment token started progress resting)
      (waited : resting.world.wait environment token poller.interval = (true, reached))

/-- What is told of a query that is given up during a look: that it was cancelled, unless the
status check of the look fails for good. -/
structure GivenUp (poller : Poller) (environment : Environment σ) (token : Token)
    (started : Duration) (progress : Progress σ) (queryId : String)
    (outcome : Except Fault Unit) : Prop where
  cancelled : outcome = .error (.cancelled queryId) ↔
    ∀ message, ¬FailsForGood poller environment token started progress message
  failed : ∀ message, FailsForGood poller environment token started progress message →
    outcome = .error (.terminal (some queryId) message)

theorem GivenUp.is_error {queryId : String} {outcome : Except Fault Unit}
    (givenUp : GivenUp poller environment token started progress queryId outcome) :
    ∃ fault, outcome = .error fault := by
  by_cases fine : ∀ message, ¬FailsForGood poller environment token started progress message
  · exact ⟨_, givenUp.cancelled.mpr fine⟩
  · rcases Classical.not_forall_not.mp fine with ⟨message, fails⟩
    exact ⟨_, givenUp.failed message fails⟩

theorem step_of_firedDuring
    (fired : FiredDuring poller environment token started progress) :
    ∃ conclusion, poller.step environment token started progress = .concluded conclusion ∧
      GivenUp poller environment token started progress progress.execution.queryId
        conclusion.outcome := by
  by_cases fine : ∀ message, ¬FailsForGood poller environment token started progress message
  · have cancelled : ∃ conclusion,
        poller.step environment token started progress = .concluded conclusion ∧
          conclusion.outcome = .error (.cancelled progress.execution.queryId) := by
      cases fired with
      | inTime fired => exact step_of_firedInTime fired fine
      | atRest awaits waited =>
          refine ⟨_, (Look.firedAtRest awaits waited).step_eq, ?_⟩
          rw [abort, awaits.queryId_eq]
    rcases cancelled with ⟨conclusion, stepped, outcome⟩
    exact ⟨conclusion, stepped, iff_of_true outcome fine,
      fun message fails => absurd fails (fine message)⟩
  · rcases Classical.not_forall_not.mp fine with ⟨message, fails⟩
    rcases step_of_failsForGood fails with ⟨conclusion, stepped, outcome⟩
    refine ⟨conclusion, stepped, iff_of_false (by simp [outcome]) fine, ?_⟩
    intro other otherFails
    rcases step_of_failsForGood otherFails with ⟨ended, steppedAgain, told⟩
    cases stepped.symm.trans steppedAgain
    exact told

end Poller

namespace Cursor

variable {connection : Connection} {environment : Environment σ} {limit : Nat} {sql : String}
  {cursor taken later : Cursor σ} {world : World σ}

/-! ## A launch whose query does not succeed -/

private theorem launch_own_of_stopped {execution last : Execution} {submitted settled : World σ}
    {fault : Fault} (unclosed : cursor.state ≠ .closed)
    (unfired : world.isFired cursor.token = false)
    (accepted : submit environment connection.config sql world = (.ok execution, submitted))
    (followed : connection.config.poller.pollUntilTerminal environment cursor.token limit
      execution submitted = some ⟨.error fault, last, settled⟩) :
    ∃ after reached,
      cursor.launch connection environment limit sql .own world =
          some (.error fault, after, reached) ∧
        reached.sent = settled.sent := by
  have same : cursor.renewToken world = (cursor, world) := by
    rw [renewToken, unfired]
    rfl
  let failed : Cursor σ := { cursor.reset with execution := some last, state := .failed }
  refine ⟨(failed.renewToken settled).1, (failed.renewToken settled).2, ?_,
    renewToken_sent failed settled⟩
  simp only [launch, execute, same, executeWith, if_neg unclosed, run,
    (Reaches.stopped accepted followed).eq, failed]

private theorem unread_of_stopped {execution : Execution} {submitted reached : World σ}
    {token : Token} {conclusion : Poller.Conclusion σ}
    (accepted : submit environment connection.config sql world = (.ok execution, submitted))
    (followed : connection.config.poller.pollUntilTerminal environment token limit
      execution submitted = some conclusion)
    (silent : reached.sent = conclusion.world.sent) :
    ∀ call ∈ reached.calls world, call.isRead = false := by
  rcases submit_calls environment connection.config sql world with ⟨leads, requestToken, first⟩
  rw [accepted] at leads first
  intro call member
  rw [World.calls_of_sent_eq silent,
    leads.calls_eq_append (Poller.pollUntilTerminal_leadsTo followed), first] at member
  rcases List.mem_append.mp member with submission | polled
  · cases List.mem_singleton.mp submission
    rfl
  · exact pollUntilTerminal_unread followed call polled

/-! ## Handles -/

private theorem launch_of_firedDuring {looks : Nat} {execution : Execution}
    {submitted : World σ} {progress : Poller.Progress σ} (unclosed : cursor.state ≠ .closed)
    (unfired : world.isFired cursor.token = false)
    (accepted : submit environment connection.config sql world = (.ok execution, submitted))
    (reaches : connection.config.poller.after environment cursor.token (submitted.now environment).1
      looks { execution, world := (submitted.now environment).2 } = some progress)
    (within : looks < limit)
    (fired : connection.config.poller.FiredDuring environment cursor.token
      (submitted.now environment).1
      progress) :
    ∃ result after reached,
      cursor.launch connection environment limit sql .own world =
          some (result, after, reached) ∧
        connection.config.poller.GivenUp environment cursor.token (submitted.now environment).1
          progress
          execution.queryId result ∧
        ∀ call ∈ reached.calls world, call.isRead = false := by
  have sameQuery : progress.execution.queryId = execution.queryId :=
    Poller.after_queryId reaches
  rcases Poller.step_of_firedDuring fired with ⟨⟨outcome, last, settled⟩, stepped, givenUp⟩
  rw [sameQuery] at givenUp
  have followed : connection.config.poller.pollUntilTerminal environment cursor.token limit
      execution submitted = some ⟨outcome, last, settled⟩ :=
    Poller.follow_of_step_concluded reaches within stepped
  rcases givenUp.is_error with ⟨fault, rfl⟩
  rcases launch_own_of_stopped unclosed unfired accepted followed with
    ⟨after, reached, launched, silent⟩
  exact ⟨_, after, reached, launched, givenUp, unread_of_stopped accepted followed silent⟩

private theorem tokenFor_own_ne {handle : Token} (minted : handle.number < world.nextToken)
    (fired : world.isFired handle = true) : (cursor.tokenFor world .own).1 ≠ handle := by
  unfold tokenFor renewToken
  dsimp only
  -- Either the cursor's token is new by now, or it has not been fired as the handle has.
  split
  · rintro rfl
    exact absurd minted (Nat.lt_irrefl _)
  · rename_i unfired
    rintro rfl
    exact unfired fired

structure Heeds (connection : Connection) (environment : Environment σ) (sql : String)
    (handle : Token) (cursor : Cursor σ) (world : World σ) : Prop where
  /-- If the handle is fired while the query is run, the query is given up, and nothing is read
  of its results. -/
  fired : world.isFired handle = false →
    ∀ {limit looks : Nat} {execution : Execution} {submitted : World σ}
      {progress : Poller.Progress σ},
      submit environment connection.config sql world = (.ok execution, submitted) →
      connection.config.poller.after environment handle (submitted.now environment).1 looks
          { execution, world := (submitted.now environment).2 } = some progress →
      looks < limit →
      connection.config.poller.FiredDuring environment handle (submitted.now environment).1
        progress →
        ∃ result after reached,
          cursor.launch connection environment limit sql .own world =
              some (result, after, reached) ∧
            connection.config.poller.GivenUp environment handle (submitted.now environment).1
              progress
              execution.queryId result ∧
            ∀ call ∈ reached.calls world, call.isRead = false
  /-- If the handle has been fired before, the query is run for another token. -/
  firedBefore : world.isFired handle = true → (cursor.tokenFor world .own).1 ≠ handle

/-- However a cursor has been used before its handle is taken, and is used behind that, its
next launch heeds the handle as long as that has not been fired before the launch. -/
theorem History.heeds {start takenWorld : World σ} {before behind : List Operation}
    (history : History connection environment (connection.cursor start).1
      (connection.cursor start).2 before taken takenWorld)
    (further : History connection environment taken takenWorld behind later world)
    (unclosed : later.state ≠ .closed) (sql : String) :
    Heeds connection environment sql taken.token later world where
  fired unfired := by
    intro limit looks execution submitted progress accepted reaches within fired
    have same : later.token = taken.token := further.inherits.same unfired
    rw [← same] at unfired reaches fired ⊢
    exact launch_of_firedDuring unclosed unfired accepted reaches within fired
  firedBefore fired := by
    have minted : taken.token.number < world.nextToken :=
      Nat.lt_of_lt_of_le (history.inherits.minted (Nat.lt_succ_self _))
        further.inherits.leads.nextToken
    exact tokenFor_own_ne minted fired

/-! ### A handle that is fired in time, and one that is not -/

/-- A query that succeeds in the step in which the first token is fired. -/
def firedAtEnd : World Rehearsal.Script :=
  { outside :=
      { current := some ⟨0⟩
        submissions := [{ outcome := .ok "q1" }]
        statuses :=
          [{ outcome := .ok { state := .running } },
            { outcome := .ok { state := .succeeded }, fires := true }] } }

theorem heeds_firedAtEnd :
    ∃ (fresh : Cursor Rehearsal.Script) (world : World Rehearsal.Script),
      History { config := {}, sentinels := {} } (Rehearsal.environment false default)
        (Connection.cursor { config := {}, sentinels := {} } firedAtEnd).1
        (Connection.cursor { config := {}, sentinels := {} } firedAtEnd).2 [] fresh world ∧
      fresh.state ≠ .closed ∧
      ∃ after reached,
        fresh.launch { config := {}, sentinels := {} } (Rehearsal.environment false default) 2
          "SELECT 1" .own world = some (.error (.cancelled "q1"), after, reached) ∧
        ∀ call ∈ reached.calls world, call.isRead = false := by
  have unclosed : CursorState.idle ≠ .closed := fun wrong => by cases wrong
  have history : History { config := {}, sentinels := {} } (Rehearsal.environment false default)
      (Connection.cursor { config := {}, sentinels := {} } firedAtEnd).1
      (Connection.cursor { config := {}, sentinels := {} } firedAtEnd).2 [] _ _ := .nil
  refine ⟨_, _, history, unclosed, ?_⟩
  have heeds := history.heeds .nil unclosed "SELECT 1"
  rcases @Heeds.fired _ _ _ _ _ _ _ heeds rfl 2 1 _ _ _ rfl rfl (by decide)
    (.inTime (.together ⟨rfl, rfl⟩ (Eq.refl (_, _)) rfl)) with
    ⟨result, after, reached, launched, givenUp, unread⟩
  have cancelled : result = .error (.cancelled "q1") := by
    refine givenUp.cancelled.mpr fun message fails => ?_
    cases fails with
    | refused checks answered final => cases answered
    | exhausted checks answered retryable spent => cases answered
  exact ⟨after, reached, cancelled ▸ launched, unread⟩

/-- A handle that is fired before the launch does not end the query. -/
theorem firedBefore_succeeds :
    ∃ (cursor after : Cursor Rehearsal.Script) (world reached : World Rehearsal.Script),
      History { config := {}, sentinels := {} } (Rehearsal.environment false default)
        (Connection.cursor { config := {}, sentinels := {} }
          { succeedsAtOnce with nextToken := 0 }).1
        (Connection.cursor { config := {}, sentinels := {} }
          { succeedsAtOnce with nextToken := 0 }).2 [] cursor world ∧
      world.isFired cursor.token = true ∧
      cursor.launch { config := {}, sentinels := {} } (Rehearsal.environment false default) 1
        "SELECT c FROM t" .own world = some (.ok (), after, reached) ∧
      (reached.calls world).any Call.isRead = true := by
  let start : World Rehearsal.Script := { succeedsAtOnce with nextToken := 0 }
  let fresh := Connection.cursor { config := {}, sentinels := {} } start
  have leads : fresh.2.LeadsTo (fresh.2.fire [fresh.1.token]) :=
    ⟨Nat.le_refl _, List.prefix_append _ _, Nat.le_refl _, List.prefix_rfl⟩
  exact ⟨fresh.1, _, fresh.2.fire [fresh.1.token], _, .meanwhile leads .nil, rfl, rfl, rfl⟩

end Cursor

end RemoteQuery
