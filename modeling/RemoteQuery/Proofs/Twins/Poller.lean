import RemoteQuery.Proofs.Disturbance.Poller
import RemoteQuery.Proofs.Twins.Basic

/-! # Following a query in twin worlds

A query that is followed in twin worlds comes to the same end, or to none in both. Its
records differ in times only.
-/

namespace RemoteQuery.Twins

open Calendar (Duration Instant)
open Poller (Progress Conclusion Step Failing)

variable {σ τ : Type} (twins : Twins σ τ)

structure Failings (failing failingTwin : Failing) : Prop where
  count : failingTwin.count = failing.count
  since : SameSpan twins.start.clock failing.since twins.startTwin.clock failingTwin.since

structure Progresses (calendar : Duration → Instant) (progress : Progress σ)
    (progressTwin : Progress τ) : Prop where
  execution : progress.execution.Alike calendar progressTwin.execution
  failing : Option.Rel twins.Failings progress.failing progressTwin.failing
  world : twins.Worlds progress.world progressTwin.world

structure Conclusions (calendar : Duration → Instant) (conclusion : Conclusion σ)
    (conclusionTwin : Conclusion τ) : Prop where
  outcome : conclusionTwin.outcome = conclusion.outcome
  execution : conclusion.execution.Alike calendar conclusionTwin.execution
  world : twins.Worlds conclusion.world conclusionTwin.world

inductive Steps (calendar : Duration → Instant) : Step σ → Step τ → Prop
  | concluded {conclusion : Conclusion σ} {conclusionTwin : Conclusion τ}
      (conclusions : twins.Conclusions calendar conclusion conclusionTwin) :
      Steps calendar (.concluded conclusion) (.concluded conclusionTwin)
  | continued {progress : Progress σ} {progressTwin : Progress τ}
      (progresses : twins.Progresses calendar progress progressTwin) :
      Steps calendar (.continued progress) (.continued progressTwin)
  | stuck : Steps calendar .stuck .stuck

variable {twins} {environment : Environment σ} {environmentTwin : Environment τ}
  {token tokenTwin : Token} {poller : Poller} {execution executionTwin : Execution}
  {progress : Progress σ} {progressTwin : Progress τ} {world : World σ} {worldTwin : World τ}

/-! ## Submission -/

/-- Whatever a submission has in place of a request token does not matter. -/
private theorem masked_submission (config : Config) (sql requestToken other : String) :
    (config.submission sql other).masked = (config.submission sql requestToken).masked :=
  rfl

theorem submit_twin (behave : twins.Environments environment environmentTwin) (config : Config)
    (sql : String) (worlds : twins.Worlds world worldTwin) :
    Fault.Shared (Execution.Alike environment.wallClock)
        (submit environment config sql world).1 (submit environmentTwin config sql worldTwin).1 ∧
      twins.Worlds (submit environment config sql world).2
        (submit environmentTwin config sql worldTwin).2 := by
  have random := behave.random _ _ worlds.outside
  unfold submit
  rcases drawn : environment.random world.outside with ⟨bits, outside⟩
  rcases drawnTwin : environmentTwin.random worldTwin.outside with ⟨bitsTwin, outsideTwin⟩
  rw [drawn, drawnTwin] at random
  have begins : twins.Worlds { world with outside } { worldTwin with outside := outsideTwin } :=
    { worlds with outside := random.2 }
  rcases (begins.askSubmit behave (masked_submission config sql (RequestToken.ofRandom bits)
    (RequestToken.ofRandom bitsTwin))).exists with
    ⟨outcome, reached, reachedTwin, asked, askedTwin, reaches⟩
  dsimp only
  rw [asked, askedTwin]
  cases outcome with
  | error error => exact ⟨.error _, reaches⟩
  | ok queryId =>
      rw [behave.wallClock]
      exact ⟨.ok (.of (.shown _ _) (.same none)), reaches⟩

/-! ## Giving up -/

theorem requestCancel_twin (behave : twins.Environments environment environmentTwin)
    (queryId : String) (worlds : twins.Worlds world worldTwin) :
    twins.Worlds (Poller.requestCancel environment queryId world)
      (Poller.requestCancel environmentTwin queryId worldTwin) :=
  (worlds.ask (.cancel queryId) (behave.cancel queryId)).world

private theorem abort_twin (behave : twins.Environments environment environmentTwin)
    (alike : execution.Alike environment.wallClock executionTwin)
    (worlds : twins.Worlds world worldTwin) :
    twins.Conclusions environment.wallClock (poller.abort environment execution world)
      (poller.abort environmentTwin executionTwin worldTwin) := by
  unfold Poller.abort
  rw [alike.queryId_eq]
  refine ⟨rfl, alike, ?_⟩
  dsimp only
  split
  · exact requestCancel_twin behave _ worlds
  · exact worlds

private theorem giveUp_twin (behave : twins.Environments environment environmentTwin)
    (message : String) (alike : execution.Alike environment.wallClock executionTwin)
    (worlds : twins.Worlds world worldTwin) :
    twins.Conclusions environment.wallClock (Poller.giveUp environment message execution world)
      (Poller.giveUp environmentTwin message executionTwin worldTwin) := by
  unfold Poller.giveUp
  rw [alike.queryId_eq, behave.wallClock]
  exact ⟨rfl, alike.markFailed message _ _, worlds⟩

private theorem expire_twin (behave : twins.Environments environment environmentTwin)
    (timeout : Duration) (alike : execution.Alike environment.wallClock executionTwin)
    (worlds : twins.Worlds world worldTwin) :
    twins.Conclusions environment.wallClock (Poller.expire environment timeout execution world)
      (Poller.expire environmentTwin timeout executionTwin worldTwin) := by
  unfold Poller.expire
  rw [alike.queryId_eq]
  exact giveUp_twin behave _ alike (requestCancel_twin behave _ worlds)

private theorem overdue?_inStep (behave : twins.Environments environment environmentTwin)
    (poller : Poller) {started startedTwin : Duration}
    (span : SameSpan twins.start.clock started twins.startTwin.clock startedTwin) :
    twins.InStep (poller.overdue? environment started)
      (poller.overdue? environmentTwin startedTwin) := by
  intro world worldTwin worlds
  unfold Poller.overdue?
  cases poller.timeout with
  | none => exact ⟨rfl, worlds⟩
  | some timeout =>
      dsimp only
      rw [worlds.now_sub_eq behave span]
      exact ⟨rfl, worlds.now behave⟩

/-! ## Looking -/

private theorem rest_twin (behave : twins.Environments environment environmentTwin)
    (paired : twins.token token tokenTwin)
    (progresses : twins.Progresses environment.wallClock progress progressTwin) :
    twins.Steps environment.wallClock (poller.rest environment token progress)
      (poller.rest environmentTwin tokenTwin progressTwin) := by
  rcases (progresses.world.wait behave paired poller.interval).exists with
    ⟨interrupted, rested, restedTwin, waited, waitedTwin, rests⟩
  simp only [Poller.rest, waited, waitedTwin]
  cases interrupted with
  | true => exact .concluded (abort_twin behave progresses.execution rests)
  | false => exact .continued ⟨progresses.execution, progresses.failing, rests⟩

private theorem afterStatus_twin (behave : twins.Environments environment environmentTwin)
    (paired : twins.token token tokenTwin)
    (alike : execution.Alike environment.wallClock executionTwin) (status : Status)
    (worlds : twins.Worlds world worldTwin) :
    twins.Steps environment.wallClock
      (poller.afterStatus environment token execution status world)
      (poller.afterStatus environmentTwin tokenTwin executionTwin status worldTwin) := by
  have applied := alike.applyStatus status world.clock worldTwin.clock
  unfold Poller.afterStatus
  dsimp only
  rw [behave.wallClock, worlds.isFired_eq paired, applied.verdict?_eq]
  split
  · exact .concluded (abort_twin behave applied worlds)
  · split
    · exact .concluded ⟨rfl, applied, worlds⟩
    · exact rest_twin behave paired ⟨applied, .none, worlds⟩

private theorem another_twin (behave : twins.Environments environment environmentTwin)
    {failing failingTwin : Option Failing}
    (failings : Option.Rel twins.Failings failing failingTwin)
    (worlds : twins.Worlds world worldTwin) :
    twins.Failings (Failing.another (world.now environment).1 failing)
      (Failing.another (worldTwin.now environmentTwin).1 failingTwin) := by
  cases failings with
  | none => exact ⟨rfl, (worlds.now behave).clock⟩
  | some failings => exact ⟨congrArg (· + 1) failings.count, failings.since⟩

private theorem afterError_twin (behave : twins.Environments environment environmentTwin)
    (paired : twins.token token tokenTwin)
    (progresses : twins.Progresses environment.wallClock progress progressTwin)
    (error : ServiceError) :
    twins.Steps environment.wallClock (poller.afterError environment token progress error)
      (poller.afterError environmentTwin tokenTwin progressTwin error) := by
  rcases progresses with ⟨alike, failings, worlds⟩
  have more := another_twin behave failings worlds
  unfold Poller.afterError
  dsimp only
  rw [alike.database_eq, alike.catalog_eq, more.count,
    (worlds.now behave).now_sub_eq behave more.since]
  split
  · exact .concluded (giveUp_twin behave _ alike (worlds.now behave))
  · split
    · exact rest_twin behave paired ⟨alike, .some more, (worlds.now behave).now behave⟩
    · exact .concluded (giveUp_twin behave _ alike ((worlds.now behave).now behave))

theorem step_twin (behave : twins.Environments environment environmentTwin)
    (paired : twins.token token tokenTwin) (poller : Poller) {started startedTwin : Duration}
    (span : SameSpan twins.start.clock started twins.startTwin.clock startedTwin)
    (progresses : twins.Progresses environment.wallClock progress progressTwin) :
    twins.Steps environment.wallClock (poller.step environment token started progress)
      (poller.step environmentTwin tokenTwin startedTwin progressTwin) := by
  rcases progresses with ⟨alike, failings, worlds⟩
  unfold Poller.step
  dsimp only
  rw [worlds.isFired_eq paired, alike.queryId_eq]
  split
  · exact .concluded (abort_twin behave alike worlds)
  · rcases (overdue?_inStep behave poller span _ _ worlds).exists with
      ⟨overdue, looked, lookedTwin, looks, looksTwin, same⟩
    rw [looks, looksTwin]
    cases overdue with
    | some timeout => exact .concluded (expire_twin behave timeout alike same)
    | none =>
        rcases (same.race paired (.status progress.execution.queryId) (behave.status _)).exists
          with ⟨raced, reached, reachedTwin, races, racesTwin, reaches⟩
        dsimp only
        rw [races, racesTwin]
        rcases raced with _ | outcome | _
        · exact .concluded (abort_twin behave alike reaches)
        · cases outcome with
          | ok status => exact afterStatus_twin behave paired alike status reaches
          | error error =>
              have progresses : twins.Progresses environment.wallClock
                  { progress with world := reached } { progressTwin with world := reachedTwin } :=
                ⟨alike, failings, reaches⟩
              exact afterError_twin behave paired progresses error
        · exact .stuck

theorem follow_twin (behave : twins.Environments environment environmentTwin)
    (paired : twins.token token tokenTwin) {started startedTwin : Duration}
    (span : SameSpan twins.start.clock started twins.startTwin.clock startedTwin) (limit : Nat)
    (progresses : twins.Progresses environment.wallClock progress progressTwin) :
    Option.Rel (twins.Conclusions environment.wallClock)
      (poller.follow environment token started limit progress)
      (poller.follow environmentTwin tokenTwin startedTwin limit progressTwin) := by
  induction limit generalizing progress progressTwin with
  | zero => exact .none
  | succ limit induction =>
      have steps := step_twin behave paired poller span progresses
      unfold Poller.follow
      generalize poller.step environment token started progress = result at steps ⊢
      generalize poller.step environmentTwin tokenTwin startedTwin progressTwin = resultTwin
        at steps ⊢
      cases steps with
      | concluded conclusions => exact .some conclusions
      | continued progresses => exact induction progresses
      | stuck => exact .none

theorem pollUntilTerminal_twin (behave : twins.Environments environment environmentTwin)
    (paired : twins.token token tokenTwin) (poller : Poller) (limit : Nat)
    (alike : execution.Alike environment.wallClock executionTwin)
    (worlds : twins.Worlds world worldTwin) :
    Option.Rel (twins.Conclusions environment.wallClock)
      (poller.pollUntilTerminal environment token limit execution world)
      (poller.pollUntilTerminal environmentTwin tokenTwin limit executionTwin worldTwin) :=
  follow_twin behave paired (worlds.now behave).clock limit ⟨alike, .none, worlds.now behave⟩

end RemoteQuery.Twins
