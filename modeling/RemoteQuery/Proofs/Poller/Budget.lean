import RemoteQuery.Proofs.Retry.Budget

/-! # The budget of looks

While a query is followed, the engine counts failing looks on its own. It counts what the
calls tell, so following a query keeps to the policy, too.
-/

namespace RemoteQuery

open Calendar (Duration)

/-- The times of settings are counted in milliseconds of 64 bits, so that a policy of settings
asks for no sum that is not a duration, as long as the time that has gone by is not within such
a time of the longest duration. -/
theorem Config.overflows_retryPolicy (config : Config) (failures : Nat) {elapsed : Duration}
    (short : elapsed + 2 ^ 64 * 10 ^ 6 ≤ Duration.limit) :
    config.retryPolicy.overflows failures elapsed = false := by
  have interval : config.retryPolicy.interval < 2 ^ 64 * 10 ^ 6 :=
    Nat.mul_lt_mul_of_pos_right config.pollIntervalMillis.toNat_lt (by decide)
  rw [RetryPolicy.overflows, decide_eq_false_iff_not]
  rintro ⟨-, long⟩
  have fits := Nat.lt_of_lt_of_le (Nat.add_lt_add_left interval elapsed) short
  exact Nat.not_lt.mpr long fits

namespace Poller

open RetryPolicy (Calm Kept)

variable {σ : Type} {poller : Poller} {environment : Environment σ} {token : Token}
  {started : Duration} {progress : Progress σ} {stretch : Option Stretch}

/-- The failing looks, as far as the calls tell. The engine notes the time when it has
looked at the clock. -/
def Failing.ofStretch (step : Duration) (stretch : Stretch) : Failing :=
  { count := stretch.count, since := stretch.since + step }

theorem failingBy_eq (failing : progress.failing = stretch.map (.ofStretch environment.step))
    (reached : World σ) (time : Duration) (queryId : String)
    (answered : Option (Duration × Outcome Status)) :
    progress.failingBy environment reached =
      .ofStretch environment.step
        (Stretch.grown stretch ⟨time, .status queryId, answered⟩ reached.clock) := by
  rw [Progress.failingBy, failing]
  cases stretch <;> rfl

theorem allowed_iff_fits {reached : World σ} {stretch : Stretch}
    (failing : progress.failingBy environment reached = .ofStretch environment.step stretch) :
    Allowed poller environment progress reached ↔
      stretch.Fits poller.retry environment.step reached.clock := by
  have elapsed : ((reached.now environment).2.now environment).1 -
      (Failing.ofStretch environment.step stretch).since =
        reached.clock + environment.step - stretch.since :=
    Nat.add_sub_add_right (reached.clock + environment.step) environment.step stretch.since
  rw [Allowed, failing, elapsed]
  exact Stretch.allows_iff_fits

/-! ## One look -/

theorem applyStatus_database (execution : Execution) (status : Status)
    (now : Calendar.Instant) :
    (execution.applyStatus status now).database = execution.database := by
  unfold Execution.applyStatus
  split <;> rfl

theorem applyStatus_catalog (execution : Execution) (status : Status)
    (now : Calendar.Instant) :
    (execution.applyStatus status now).catalog = execution.catalog := by
  unfold Execution.applyStatus
  split <;> rfl

theorem Awaits.database_eq {resting : Progress σ}
    (awaits : Awaits poller environment token started progress resting) :
    resting.execution.database = progress.execution.database := by
  cases awaits with
  | status checks answered unfired undecided => exact applyStatus_database _ _ _
  | failure checks answered retryable allowed => rfl

theorem Awaits.catalog_eq {resting : Progress σ}
    (awaits : Awaits poller environment token started progress resting) :
    resting.execution.catalog = progress.execution.catalog := by
  cases awaits with
  | status checks answered unfired undecided => exact applyStatus_catalog _ _ _
  | failure checks answered retryable allowed => rfl

theorem Awaits.wait_since {resting : Progress σ} {fired : Bool} {reached : World σ}
    (waited : resting.world.wait environment token poller.interval = (fired, reached))
    (earlier : World σ) : reached.since earlier = resting.world.since earlier := by
  have quiet := World.wait_sent environment token poller.interval resting.world
  rw [waited] at quiet
  rw [World.since, World.since, quiet]

theorem Awaits.budget {resting : Progress σ}
    (failing : progress.failing = stretch.map (.ofStretch environment.step))
    (awaits : Awaits poller environment token started progress resting) :
    Calm poller.retry environment.step progress.execution.database progress.execution.catalog
      stretch (resting.world.since progress.world) ∧
      resting.failing =
        (Stretch.trailing progress.execution.database progress.execution.catalog stretch
          (resting.world.since progress.world)).map (.ofStretch environment.step) := by
  cases awaits with
  | status checks answered unfired undecided =>
      rcases check_answered_since answered with ⟨time, calls⟩
      rw [calls]
      refine ⟨RetryPolicy.calm_of_no_setback rfl, ?_⟩
      rw [Stretch.trailing_singleton, Stretch.after_of_no_setback rfl]
      rfl
  | @failure error reached checks answered retryable allowed =>
      rcases check_answered_since answered with ⟨time, calls⟩
      have setback := @Sent.setback?_of_failure _ _ time reached.clock
        (.status progress.execution.queryId) error rfl retryable
      have counted := failingBy_eq failing reached time progress.execution.queryId
        (some (reached.clock, .error error))
      rw [show World.since ((reached.now environment).2.now environment).2 progress.world = _
        from calls]
      constructor
      · rw [RetryPolicy.calm_of_setback setback]
        exact (allowed_iff_fits counted).mp allowed
      · rw [Stretch.trailing_singleton, Stretch.after_of_setback setback]
        exact congrArg some counted

private theorem abort_calm {execution : Execution} {world : World σ}
    {database catalog : String} :
    Calm poller.retry environment.step database catalog stretch
      ((poller.abort environment execution world).world.since world) := by
  unfold abort
  dsimp only
  split
  · rcases requestCancel_since environment execution.queryId world with ⟨answered, calls⟩
    rw [calls]
    exact RetryPolicy.calm_of_no_setback (Sent.setback?_of_not_retried rfl)
  · rw [World.since_self]
    exact RetryPolicy.calm_nil

private theorem kept_abort {execution : Execution} {world reached : World σ}
    {database catalog : String} (leads : world.LeadsTo reached)
    (calm : Calm poller.retry environment.step database catalog stretch (reached.since world)) :
    Kept poller.retry environment.step database catalog stretch
      ((poller.abort environment execution reached).world.since world)
      (some (.cancelled execution.queryId)) := by
  rw [leads.since_eq_append (poller.abort_leadsTo environment execution reached)]
  exact .failed (RetryPolicy.calm_append.mpr ⟨calm, abort_calm⟩)

theorem Look.kept {conclusion : Conclusion σ}
    (failing : progress.failing = stretch.map (.ofStretch environment.step))
    (look : Look poller environment token started progress (.concluded conclusion)) :
    Kept poller.retry environment.step progress.execution.database progress.execution.catalog
      stretch (conclusion.world.since progress.world) (Fault.of? conclusion.outcome) := by
  cases look with
  | firedBefore fired =>
      refine kept_abort (.refl _) ?_
      rw [World.since_self]
      exact RetryPolicy.calm_nil
  | @expired timeout reached unfired overdue =>
      have quiet := poller.overdue?_sent environment started progress.world
      rw [overdue] at quiet
      rcases requestCancel_since environment progress.execution.queryId reached with
        ⟨answered, calls⟩
      rw [World.since, quiet] at calls
      rw [show World.since (expire environment timeout progress.execution reached).world
        progress.world = _ from calls]
      exact .failed (RetryPolicy.calm_of_no_setback (Sent.setback?_of_not_retried rfl))
  | firedMeanwhile checks unanswered =>
      rcases check_interrupted_since unanswered with ⟨-, time, calls⟩
      refine kept_abort (check_leadsTo unanswered) ?_
      rw [calls]
      exact RetryPolicy.calm_of_no_setback rfl
  | firedWithStatus checks answered fired =>
      rcases check_answered_since answered with ⟨time, calls⟩
      refine kept_abort (check_leadsTo answered) ?_
      rw [calls]
      exact RetryPolicy.calm_of_no_setback rfl
  | @decided status reached outcome checks answered unfired verdict =>
      rcases check_answered_since answered with ⟨time, calls⟩
      rw [calls]
      cases outcome with
      | ok =>
          refine .through (RetryPolicy.calm_of_no_setback rfl) ?_
          rw [Stretch.trailing_singleton, Stretch.after_of_no_setback rfl]
      | error fault => exact .failed (RetryPolicy.calm_of_no_setback rfl)
  | @refused error reached checks answered final =>
      rcases check_answered_since answered with ⟨time, calls⟩
      rw [show World.since (giveUp environment error.message progress.execution
        (reached.now environment).2).world progress.world = _ from calls]
      refine .failed (RetryPolicy.calm_of_no_setback ?_)
      simp [Sent.setback?, Sent.failure?, final]
  | @exhausted error reached checks answered retryable spent =>
      rcases check_answered_since answered with ⟨time, calls⟩
      have setback := @Sent.setback?_of_failure _ _ time reached.clock
        (.status progress.execution.queryId) error rfl retryable
      have counted := failingBy_eq failing reached time progress.execution.queryId
        (some (reached.clock, .error error))
      rw [show World.since (giveUp environment (RetryPolicy.exhaustedMessage error.message)
        progress.execution ((reached.now environment).2.now environment).2).world progress.world = _
          from calls]
      refine @Kept.exhausted _ _ _ _ _ [] _ _ _ _ RetryPolicy.calm_nil setback ?_
      exact fun fits => spent ((allowed_iff_fits counted).mpr fits)
  | firedAtRest awaits waited =>
      refine kept_abort (awaits.waits_leadsTo waited) ?_
      rw [Awaits.wait_since waited]
      exact (awaits.budget failing).1

theorem budget_of_continued {next : Progress σ}
    (failing : progress.failing = stretch.map (.ofStretch environment.step))
    (stepped : poller.step environment token started progress = .continued next) :
    progress.world.LeadsTo next.world ∧ next.execution.database = progress.execution.database ∧
      next.execution.catalog = progress.execution.catalog ∧
      Calm poller.retry environment.step progress.execution.database progress.execution.catalog
        stretch (next.world.since progress.world) ∧
      next.failing = (Stretch.trailing progress.execution.database progress.execution.catalog
        stretch (next.world.since progress.world)).map (.ofStretch environment.step) := by
  have look := look_step poller environment token started progress
  rw [stepped] at look
  cases look with
  | @continued resting reached awaits waited =>
      rw [show World.since _ _ = _ from Awaits.wait_since waited progress.world]
      exact ⟨awaits.waits_leadsTo waited, awaits.database_eq, awaits.catalog_eq,
        awaits.budget failing⟩

/-! ## Many looks -/

theorem follow_kept {limit : Nat} {conclusion : Conclusion σ}
    (failing : progress.failing = stretch.map (.ofStretch environment.step))
    (ends : poller.follow environment token started limit progress = some conclusion) :
    Kept poller.retry environment.step progress.execution.database progress.execution.catalog
      stretch (conclusion.world.since progress.world) (Fault.of? conclusion.outcome) := by
  induction limit generalizing progress stretch with
  | zero => cases ends
  | succ limit induction =>
      rcases follow_cases ends with look | ⟨next, look, rest⟩
      · exact look.kept failing
      · rcases budget_of_continued failing look.step_eq with
          ⟨leads, database, catalog, calm, counted⟩
        have later := induction counted rest
        rw [database, catalog] at later
        rw [leads.since_eq_append (follow_leadsTo rest)]
        exact .append calm later

theorem pollUntilTerminal_keeps {limit : Nat} {execution : Execution} {world : World σ}
    {conclusion : Conclusion σ}
    (ends : poller.pollUntilTerminal environment token limit execution world =
      some conclusion) :
    poller.retry.Keeps environment.step execution.database execution.catalog world conclusion.world
      (Fault.of? conclusion.outcome) := by
  refine ⟨pollUntilTerminal_leadsTo ends, ?_⟩
  exact @follow_kept σ poller environment token (world.now environment).1
    { execution, world := (world.now environment).2 } none limit conclusion rfl ends

end Poller

end RemoteQuery
