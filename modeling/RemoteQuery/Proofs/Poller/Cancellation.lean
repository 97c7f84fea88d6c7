import RemoteQuery.Proofs.Poller.Record

/-! # Looks during which the caller gives up

A token can be fired before a look, while its check is under way, or in the step in which
the answer comes. In all three cases the query is given up as cancelled, whatever status
comes and even if a failure was to be followed by another look. Only a check that fails
for good is told by its failure instead.
-/

namespace RemoteQuery.Poller

open Calendar (Duration)

variable {σ : Type}

section

variable (poller : Poller) (environment : Environment σ) (token : Token) (started : Duration)

/-- Where a query stands after a number of looks, if it has not ended before. -/
def after : (looks : Nat) → Progress σ → Option (Progress σ)
  | 0, progress => some progress
  | looks + 1, progress =>
      match poller.step environment token started progress with
      | .continued next => after looks next
      | _ => none

variable (progress : Progress σ)

/-- The token is fired before the engine acts on what a look brings. -/
inductive FiredInTime : Prop
  | before (fired : progress.world.isFired token = true)
  | meanwhile {reached : World σ}
      (checks : Checks poller environment token started progress)
      (unanswered : poller.check environment token started progress =
        (.interrupted, reached))
  | together {outcome : Outcome Status} {reached : World σ}
      (checks : Checks poller environment token started progress)
      (answered : poller.check environment token started progress =
        (.answered outcome, reached))
      (fired : reached.isFired token = true)

/-- The check of a look fails for good, and the message says so. -/
inductive FailsForGood : (message : String) → Prop
  | refused {error : ServiceError} {reached : World σ}
      (checks : Checks poller environment token started progress)
      (answered : poller.check environment token started progress =
        (.answered (.error error), reached))
      (final : error.isRetryable progress.execution.database progress.execution.catalog =
        false) :
      FailsForGood error.message
  | exhausted {error : ServiceError} {reached : World σ}
      (checks : Checks poller environment token started progress)
      (answered : poller.check environment token started progress =
        (.answered (.error error), reached))
      (retryable : error.isRetryable progress.execution.database progress.execution.catalog =
        true)
      (spent : ¬Allowed poller environment progress reached) :
      FailsForGood (RetryPolicy.exhaustedMessage error.message)

end

variable {poller : Poller} {environment : Environment σ} {token : Token} {started : Duration}
  {progress : Progress σ}

/-! ## One look -/

theorem recorded_queryId (status : Status) (reached : World σ) :
    (recorded environment progress status reached).queryId = progress.execution.queryId := by
  unfold recorded Execution.applyStatus
  split <;> rfl

theorem Awaits.queryId_eq {resting : Progress σ}
    (awaits : Awaits poller environment token started progress resting) :
    resting.execution.queryId = progress.execution.queryId := by
  cases awaits with
  | status checks answered unfired undecided => exact recorded_queryId _ _
  | failure checks answered retryable allowed => rfl

theorem step_of_failsForGood {message : String}
    (fails : FailsForGood poller environment token started progress message) :
    ∃ conclusion, poller.step environment token started progress = .concluded conclusion ∧
      conclusion.outcome = .error (.terminal (some progress.execution.queryId) message) := by
  cases fails with
  | refused checks answered final =>
      exact ⟨_, (Look.refused checks answered final).step_eq, rfl⟩
  | exhausted checks answered retryable spent =>
      exact ⟨_, (Look.exhausted checks answered retryable spent).step_eq, rfl⟩

theorem step_of_firedInTime
    (firedInTime : FiredInTime poller environment token started progress)
    (fine : ∀ message, ¬FailsForGood poller environment token started progress message) :
    ∃ conclusion, poller.step environment token started progress = .concluded conclusion ∧
      conclusion.outcome = .error (.cancelled progress.execution.queryId) := by
  cases firedInTime with
  | before fired => exact ⟨_, (Look.firedBefore fired).step_eq, rfl⟩
  | meanwhile checks unanswered =>
      exact ⟨_, (Look.firedMeanwhile checks unanswered).step_eq, rfl⟩
  | @together outcome reached checks answered fired =>
      cases outcome with
      | ok status =>
          refine ⟨_, (Look.firedWithStatus checks answered fired).step_eq, ?_⟩
          exact congrArg (fun queryId => Except.error (Fault.cancelled queryId))
            (recorded_queryId status reached)
      | error error =>
          have retryable : error.isRetryable progress.execution.database
              progress.execution.catalog = true := by
            cases final : error.isRetryable progress.execution.database
                progress.execution.catalog with
            | true => rfl
            | false => exact absurd (.refused checks answered final) (fine _)
          have allowed : Allowed poller environment progress reached :=
            Classical.byContradiction fun spent =>
              fine _ (.exhausted checks answered retryable spent)
          have awaits : Awaits poller environment token started progress
              { execution := progress.execution
                failing := some (progress.failingBy environment reached)
                world := ((reached.now environment).2.now environment).2 } :=
            .failure checks answered retryable allowed
          exact ⟨_, (Look.firedAtRest awaits (World.wait_of_isFired fired)).step_eq, rfl⟩

/-! ## Many looks -/

theorem continued_of_after {looks : Nat} {next : Progress σ}
    (reaches : poller.after environment token started (looks + 1) progress = some next) :
    ∃ middle, poller.step environment token started progress = .continued middle ∧
      poller.after environment token started looks middle = some next := by
  rw [after] at reaches
  cases stepped : poller.step environment token started progress with
  | stuck => simp [stepped] at reaches
  | concluded conclusion => simp [stepped] at reaches
  | continued middle =>
      simp only [stepped] at reaches
      exact ⟨middle, rfl, reaches⟩

theorem after_queryId {looks : Nat} {next : Progress σ}
    (reaches : poller.after environment token started looks progress = some next) :
    next.execution.queryId = progress.execution.queryId := by
  induction looks generalizing progress with
  | zero =>
      cases reaches
      rfl
  | succ looks induction =>
      rcases continued_of_after reaches with ⟨middle, stepped, reaches⟩
      have look := look_step poller environment token started progress
      rw [stepped] at look
      cases look with
      | continued awaits waited => rw [induction reaches, awaits.queryId_eq]

theorem follow_after {looks : Nat} {next : Progress σ}
    (reaches : poller.after environment token started looks progress = some next)
    (limit : Nat) :
    poller.follow environment token started (looks + limit) progress =
      poller.follow environment token started limit next := by
  induction looks generalizing progress with
  | zero =>
      cases reaches
      rw [Nat.zero_add]
  | succ looks induction =>
      rcases continued_of_after reaches with ⟨middle, stepped, reaches⟩
      rw [Nat.add_right_comm, follow, stepped]
      exact induction reaches

theorem follow_of_step_concluded {looks limit : Nat} {next : Progress σ}
    {conclusion : Conclusion σ}
    (reaches : poller.after environment token started looks progress = some next)
    (within : looks < limit)
    (stepped : poller.step environment token started next = .concluded conclusion) :
    poller.follow environment token started limit progress = some conclusion := by
  obtain ⟨more, rfl⟩ : ∃ more, limit = looks + (more + 1) := ⟨limit - looks - 1, by omega⟩
  rw [follow_after reaches, follow, stepped]

/-- A run in which the token is fired before the engine acts on a look always ends with that
look: with the failure of a check that fails for good, and as cancelled in all other cases. -/
theorem pollUntilTerminal_of_firedInTime (poller : Poller) (environment : Environment σ)
    (token : Token) (execution : Execution) (world : World σ) {looks limit : Nat}
    {progress : Progress σ}
    (reaches : poller.after environment token (world.now environment).1 looks
      { execution, world := (world.now environment).2 } = some progress)
    (within : looks < limit)
    (firedInTime : FiredInTime poller environment token (world.now environment).1 progress) :
    ∃ conclusion,
      poller.pollUntilTerminal environment token limit execution world = some conclusion ∧
      (conclusion.outcome = .error (.cancelled execution.queryId) ↔
        ∀ message, ¬FailsForGood poller environment token (world.now environment).1 progress
          message) ∧
      ∀ message, FailsForGood poller environment token (world.now environment).1 progress message →
        conclusion.outcome = .error (.terminal (some execution.queryId) message) := by
  have sameQuery : progress.execution.queryId = execution.queryId := after_queryId reaches
  by_cases fine : ∀ message,
      ¬FailsForGood poller environment token (world.now environment).1 progress message
  · rcases step_of_firedInTime firedInTime fine with ⟨conclusion, stepped, outcome⟩
    refine ⟨conclusion, follow_of_step_concluded reaches within stepped, ?_, ?_⟩
    · exact iff_of_true (sameQuery ▸ outcome) fine
    · exact fun message fails => absurd fails (fine message)
  · rcases Classical.not_forall_not.mp fine with ⟨message, fails⟩
    rcases step_of_failsForGood fails with ⟨conclusion, stepped, outcome⟩
    refine ⟨conclusion, follow_of_step_concluded reaches within stepped, ?_, ?_⟩
    · exact iff_of_false (by simp [outcome]) fine
    · intro other otherFails
      rcases step_of_failsForGood otherFails with ⟨ended, steppedAgain, told⟩
      rw [stepped] at steppedAgain
      cases steppedAgain
      rw [told, sameQuery]

/-! ### Two runs -/

/-- Two checks: the query is running, then it succeeds as the token is fired. -/
def firedAtSuccess : World Rehearsal.Script :=
  scripted
    [{ outcome := .ok { state := .running } },
      { outcome := .ok { state := .succeeded }, fires := true }]

theorem pollUntilTerminal_of_firedAtSuccess :
    ∃ progress,
      patient.after (Rehearsal.environment false default) ⟨0⟩
        (firedAtSuccess.now (Rehearsal.environment false default)).1 1
        { execution := freshQuery
          world := (firedAtSuccess.now (Rehearsal.environment false default)).2 } = some progress ∧
      FiredInTime patient (Rehearsal.environment false default) ⟨0⟩
        (firedAtSuccess.now (Rehearsal.environment false default)).1 progress ∧
      ∃ conclusion,
        patient.pollUntilTerminal (Rehearsal.environment false default) ⟨0⟩ 2 freshQuery
          firedAtSuccess = some conclusion ∧
        conclusion.outcome = .error (.cancelled "q1") := by
  have reaches : patient.after (Rehearsal.environment false default) ⟨0⟩
      (firedAtSuccess.now (Rehearsal.environment false default)).1 1
      { execution := freshQuery
        world := (firedAtSuccess.now (Rehearsal.environment false default)).2 } = some _ := rfl
  refine ⟨_, reaches, .together ⟨rfl, rfl⟩ (Eq.refl (_, _)) rfl, ?_⟩
  rcases pollUntilTerminal_of_firedInTime patient (Rehearsal.environment false default) ⟨0⟩
    freshQuery firedAtSuccess reaches (by decide : 1 < 2)
    (.together ⟨rfl, rfl⟩ (Eq.refl (_, _)) rfl) with ⟨conclusion, ended, cancelled, told⟩
  refine ⟨conclusion, ended, cancelled.mpr fun message fails => ?_⟩
  cases fails with
  | refused checks answered final => cases answered
  | exhausted checks answered retryable spent => cases answered

def firedAtRefusal : World Rehearsal.Script :=
  scripted [{ outcome := .error (.programming "bad id"), fires := true }]

/-- A token does not come before a check that fails for good in the same step. -/
theorem firedInTime_and_terminal :
    ∃ conclusion,
      FiredInTime patient (Rehearsal.environment false default) ⟨0⟩
        (firedAtRefusal.now (Rehearsal.environment false default)).1
        { execution := freshQuery
          world := (firedAtRefusal.now (Rehearsal.environment false default)).2 } ∧
      patient.pollUntilTerminal (Rehearsal.environment false default) ⟨0⟩ 1 freshQuery
        firedAtRefusal = some conclusion ∧
      conclusion.outcome = .error (.terminal (some "q1") "bad id") :=
  ⟨_, .together ⟨rfl, rfl⟩ (Eq.refl (_, _)) rfl, rfl, rfl⟩

end RemoteQuery.Poller
