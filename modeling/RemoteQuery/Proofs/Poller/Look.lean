import RemoteQuery.Poller

/-! # What one look at a query leads to

`Look` lists everything that `Poller.step` can do, each case with the facts that decide
for it. Whatever is proved of a run of looks is proved case by case from this list.
-/

namespace RemoteQuery.Poller

open Calendar (Duration)

variable {σ : Type}

section

variable (poller : Poller) (environment : Environment σ) (token : Token) (started : Duration)
  (progress : Progress σ)

/-- A look gets as far as its status check: the token has not been fired before, and
there is time left. -/
def Checks : Prop :=
  progress.world.isFired token = false ∧
    (poller.overdue? environment started progress.world).1 = none

def check : World.Raced (Outcome Status) × World σ :=
  (poller.overdue? environment started progress.world).2.race token
    (.status progress.execution.queryId) (environment.status progress.execution.queryId)

def recorded (status : Status) (reached : World σ) : Execution :=
  progress.execution.applyStatus status (environment.wallClock reached.clock)

/-- The failing looks, if the answer that was there in a world is another failure. -/
def Progress.failingBy (reached : World σ) : Failing :=
  Failing.another (reached.now environment).1 progress.failing

def Allowed (reached : World σ) : Prop :=
  poller.retry.allows (progress.failingBy environment reached).count
    (((reached.now environment).2.now environment).1 -
      (progress.failingBy environment reached).since) = true

inductive Awaits : Progress σ → Prop
  | status {status : Status} {reached : World σ}
      (checks : Checks poller environment token started progress)
      (answered : poller.check environment token started progress =
        (.answered (.ok status), reached))
      (unfired : reached.isFired token = false)
      (undecided : verdict? (recorded environment progress status reached) = none) :
      Awaits { execution := recorded environment progress status reached, world := reached }
  | failure {error : ServiceError} {reached : World σ}
      (checks : Checks poller environment token started progress)
      (answered : poller.check environment token started progress =
        (.answered (.error error), reached))
      (retryable : error.isRetryable progress.execution.database progress.execution.catalog =
        true)
      (allowed : Allowed poller environment progress reached) :
      Awaits
        { execution := progress.execution
          failing := some (progress.failingBy environment reached)
          world := ((reached.now environment).2.now environment).2 }

inductive Look : Step σ → Prop
  | firedBefore (fired : progress.world.isFired token = true) :
      Look (.concluded (poller.abort environment progress.execution progress.world))
  | expired {timeout : Duration} {reached : World σ}
      (unfired : progress.world.isFired token = false)
      (overdue : poller.overdue? environment started progress.world = (some timeout, reached)) :
      Look (.concluded (expire environment timeout progress.execution reached))
  | stuck {reached : World σ}
      (checks : Checks poller environment token started progress)
      (unanswered : poller.check environment token started progress = (.stuck, reached)) :
      Look .stuck
  | firedMeanwhile {reached : World σ}
      (checks : Checks poller environment token started progress)
      (unanswered : poller.check environment token started progress =
        (.interrupted, reached)) :
      Look (.concluded (poller.abort environment progress.execution reached))
  | firedWithStatus {status : Status} {reached : World σ}
      (checks : Checks poller environment token started progress)
      (answered : poller.check environment token started progress =
        (.answered (.ok status), reached))
      (fired : reached.isFired token = true) :
      Look (.concluded (poller.abort environment (recorded environment progress status reached)
        reached))
  | decided {status : Status} {reached : World σ} {outcome : Except Fault Unit}
      (checks : Checks poller environment token started progress)
      (answered : poller.check environment token started progress =
        (.answered (.ok status), reached))
      (unfired : reached.isFired token = false)
      (verdict : verdict? (recorded environment progress status reached) = some outcome) :
      Look (.concluded
        { outcome, execution := recorded environment progress status reached, world := reached })
  | refused {error : ServiceError} {reached : World σ}
      (checks : Checks poller environment token started progress)
      (answered : poller.check environment token started progress =
        (.answered (.error error), reached))
      (final : error.isRetryable progress.execution.database progress.execution.catalog =
        false) :
      Look (.concluded (giveUp environment error.message progress.execution
        (reached.now environment).2))
  | exhausted {error : ServiceError} {reached : World σ}
      (checks : Checks poller environment token started progress)
      (answered : poller.check environment token started progress =
        (.answered (.error error), reached))
      (retryable : error.isRetryable progress.execution.database progress.execution.catalog =
        true)
      (spent : ¬Allowed poller environment progress reached) :
      Look (.concluded (giveUp environment (RetryPolicy.exhaustedMessage error.message)
        progress.execution ((reached.now environment).2.now environment).2))
  | firedAtRest {resting : Progress σ} {reached : World σ}
      (awaits : Awaits poller environment token started progress resting)
      (waited : resting.world.wait environment token poller.interval = (true, reached)) :
      Look (.concluded (poller.abort environment resting.execution reached))
  | continued {resting : Progress σ} {reached : World σ}
      (awaits : Awaits poller environment token started progress resting)
      (waited : resting.world.wait environment token poller.interval = (false, reached)) :
      Look (.continued { resting with world := reached })

end

variable {poller : Poller} {environment : Environment σ} {token : Token} {started : Duration}
  {progress : Progress σ}

private theorem look_rest {resting : Progress σ}
    (awaits : Awaits poller environment token started progress resting) :
    Look poller environment token started progress
      (poller.rest environment token resting) := by
  unfold rest
  cases waited : resting.world.wait environment token poller.interval with
  | mk interrupted reached =>
      cases interrupted with
      | true => exact .firedAtRest awaits waited
      | false => exact .continued awaits waited

private theorem look_afterStatus {status : Status} {reached : World σ}
    (checks : Checks poller environment token started progress)
    (answered : poller.check environment token started progress =
      (.answered (.ok status), reached)) :
    Look poller environment token started progress
      (poller.afterStatus environment token progress.execution status reached) := by
  unfold afterStatus
  dsimp only
  split
  · rename_i fired
    exact .firedWithStatus checks answered fired
  · rename_i unfired
    have unfired := Bool.not_eq_true _ ▸ unfired
    split
    · rename_i outcome verdict
      exact .decided checks answered unfired verdict
    · rename_i undecided
      exact look_rest (.status checks answered unfired undecided)

private theorem look_afterError {error : ServiceError} {reached : World σ}
    (checks : Checks poller environment token started progress)
    (answered : poller.check environment token started progress =
      (.answered (.error error), reached)) :
    Look poller environment token started progress
      (poller.afterError environment token { progress with world := reached } error) := by
  unfold afterError
  dsimp only
  split
  · rename_i final
    exact .refused checks answered (by simpa using final)
  · rename_i retryable
    have retryable := by simpa using retryable
    split
    · rename_i allowed
      exact look_rest (.failure checks answered retryable allowed)
    · rename_i spent
      exact .exhausted checks answered retryable spent

theorem look_step (poller : Poller) (environment : Environment σ) (token : Token)
    (started : Duration) (progress : Progress σ) :
    Look poller environment token started progress
      (poller.step environment token started progress) := by
  unfold step
  dsimp only
  split
  · rename_i fired
    exact .firedBefore fired
  · rename_i unfired
    have unfired := Bool.not_eq_true _ ▸ unfired
    split
    · rename_i timeout reached overdue
      exact .expired unfired overdue
    · rename_i looked inTime
      have checks : Checks poller environment token started progress := ⟨unfired, by rw [inTime]⟩
      have checked : poller.check environment token started progress =
          looked.race token (.status progress.execution.queryId)
            (environment.status progress.execution.queryId) := by
        rw [check, inTime]
      split
      · rename_i reached raced
        exact .stuck checks (checked.trans raced)
      · rename_i reached raced
        exact .firedMeanwhile checks (checked.trans raced)
      · rename_i status reached raced
        exact look_afterStatus checks (checked.trans raced)
      · rename_i error reached raced
        exact look_afterError checks (checked.trans raced)

private theorem step_of_checks (checks : Checks poller environment token started progress) :
    poller.step environment token started progress =
      match poller.check environment token started progress with
      | (.stuck, _) => .stuck
      | (.interrupted, reached) =>
          .concluded (poller.abort environment progress.execution reached)
      | (.answered (.ok status), reached) =>
          poller.afterStatus environment token progress.execution status reached
      | (.answered (.error error), reached) =>
          poller.afterError environment token { progress with world := reached } error := by
  unfold step check
  rcases checks with ⟨unfired, inTime⟩
  cases looked : poller.overdue? environment started progress.world with
  | mk overdue world =>
      rw [looked] at inTime
      cases inTime
      simp only [unfired, Bool.false_eq_true, if_false]
      rcases world.race token (.status progress.execution.queryId)
        (environment.status progress.execution.queryId) with ⟨ended, reached⟩
      cases ended with
      | stuck => rfl
      | interrupted => rfl
      | answered outcome => cases outcome <;> rfl

theorem Awaits.step_eq {resting : Progress σ}
    (awaits : Awaits poller environment token started progress resting) :
    poller.step environment token started progress =
      poller.rest environment token resting := by
  cases awaits with
  | status checks answered unfired undecided =>
      rw [step_of_checks checks, answered]
      simp only [recorded] at undecided
      simp only [afterStatus, recorded, unfired, undecided, Bool.false_eq_true, if_false]
  | failure checks answered retryable allowed =>
      rw [step_of_checks checks, answered]
      simp only [Allowed, Progress.failingBy] at allowed
      simp only [afterError, Progress.failingBy, retryable, allowed, Bool.not_true,
        Bool.false_eq_true, if_false, if_true]

theorem Look.step_eq {result : Step σ}
    (look : Look poller environment token started progress result) :
    poller.step environment token started progress = result := by
  cases look with
  | firedBefore fired => simp only [step, fired, if_true]
  | expired unfired overdue =>
      simp only [step, unfired, overdue, Bool.false_eq_true, if_false]
  | stuck checks unanswered => rw [step_of_checks checks, unanswered]
  | firedMeanwhile checks unanswered => rw [step_of_checks checks, unanswered]
  | firedWithStatus checks answered fired =>
      rw [step_of_checks checks, answered]
      simp only [afterStatus, recorded, fired, if_true]
  | decided checks answered unfired verdict =>
      rw [step_of_checks checks, answered]
      simp only [recorded] at verdict
      simp only [afterStatus, recorded, unfired, verdict, Bool.false_eq_true, if_false]
  | refused checks answered final =>
      rw [step_of_checks checks, answered]
      simp only [afterError, final, Bool.not_false, if_true]
  | exhausted checks answered retryable spent =>
      rw [step_of_checks checks, answered]
      simp only [Allowed, Progress.failingBy] at spent
      simp only [afterError, retryable, spent, Bool.not_true, Bool.false_eq_true, if_false]
  | firedAtRest awaits waited =>
      rw [awaits.step_eq]
      simp only [rest, waited]
  | continued awaits waited =>
      rw [awaits.step_eq]
      simp only [rest, waited]

theorem follow_cases {limit : Nat} {conclusion : Conclusion σ}
    (ends : poller.follow environment token started (limit + 1) progress = some conclusion) :
    Look poller environment token started progress (.concluded conclusion) ∨
      ∃ next, Look poller environment token started progress (.continued next) ∧
        poller.follow environment token started limit next = some conclusion := by
  have look := look_step poller environment token started progress
  rw [follow] at ends
  cases stepped : poller.step environment token started progress with
  | stuck => simp [stepped] at ends
  | concluded ended =>
      simp only [stepped, Option.some.injEq] at ends look
      exact .inl (ends ▸ look)
  | continued next =>
      simp only [stepped] at ends look
      exact .inr ⟨next, look, ends⟩

end RemoteQuery.Poller
