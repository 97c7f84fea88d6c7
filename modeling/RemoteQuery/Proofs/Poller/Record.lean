import RemoteQuery.Proofs.Poller.Budget
import RemoteQuery.Rehearsal

/-! # The record of a query that is followed

The calls of a run tell what the record of its query has to be: the news of all checks
that succeeded, in their order, and behind them a failure noted by the engine exactly if
it gave the query up itself. The outcome of the run agrees with that record.
-/

namespace RemoteQuery

open Calendar (Duration Instant)

def Sent.news? : Sent → Option (Duration × Status)
  | ⟨_, .status _, some (time, .ok status)⟩ => some (time, status)
  | _ => none

namespace Execution

def told (wallClock : Duration → Instant) (calls : List Sent) (execution : Execution) :
    Execution :=
  (calls.filterMap Sent.news?).foldl
    (fun execution news => execution.applyStatus news.2 (wallClock news.1)) execution

variable {wallClock : Duration → Instant} {execution : Execution}

theorem told_append (left right : List Sent) :
    execution.told wallClock (left ++ right) =
      (execution.told wallClock left).told wallClock right := by
  simp [told]

theorem told_of_no_news {calls : List Sent} (silent : ∀ sent ∈ calls, sent.news? = none) :
    execution.told wallClock calls = execution := by
  rw [told, List.filterMap_eq_nil_iff.mpr silent, List.foldl_nil]

/-! ## What news does not change -/

@[simp] theorem applyStatus_subject (status : Status) (now : Instant) :
    (execution.applyStatus status now).subject = execution.subject := by
  unfold applyStatus
  split <;> rfl

@[simp] theorem told_subject (calls : List Sent) :
    (execution.told wallClock calls).subject = execution.subject := by
  unfold told
  induction calls.filterMap Sent.news? generalizing execution with
  | nil => rfl
  | cons news rest induction => rw [List.foldl_cons, induction, applyStatus_subject]

@[simp] theorem told_queryId (calls : List Sent) :
    (execution.told wallClock calls).queryId = execution.queryId :=
  congrArg Subject.queryId (told_subject calls)

theorem completedAt_of_applyStatus {status : Status} {now : Instant}
    (undecided : execution.isTerminal = false)
    (ended : (execution.applyStatus status now).isTerminal = true) :
    (execution.applyStatus status now).completedAt.isSome = true := by
  simp only [applyStatus, undecided, Bool.false_eq_true, if_false] at ended ⊢
  simp only [advance, isTerminal] at ended ⊢
  rw [if_pos ended]
  rfl

end Execution

namespace Poller

variable {σ : Type}

/-! ## Reasons to give a query up -/

/-- The engine gives a query up for a reason of its own, and the calls of the run show
why: its time was over as it was ended, or its last check failed for good. -/
inductive GaveUp (poller : Poller) (step started : Duration) (subject : Subject)
    (calls : List Sent) : (message : String) → Prop
  | expired {timeout : Duration} {sent : Sent}
      (limited : poller.timeout = some timeout)
      (last : calls.getLast? = some sent)
      (ending : sent.call = .cancel subject.queryId)
      (late : timeout ≤ sent.time - started) :
      GaveUp poller step started subject calls (timeoutMessage timeout)
  | refused {sent : Sent} {time : Duration} {error : ServiceError}
      (last : calls.getLast? = some sent)
      (checking : sent.call = .status subject.queryId)
      (failed : sent.failure? = some (time, error))
      (final : error.isRetryable subject.database subject.catalog = false) :
      GaveUp poller step started subject calls error.message
  | exhausted {sent : Sent} {time : Duration} {error : ServiceError} {stretch : Stretch}
      (last : calls.getLast? = some sent)
      (checking : sent.call = .status subject.queryId)
      (setback : sent.setback? subject.database subject.catalog = some (time, error))
      (row : Stretch.trailing subject.database subject.catalog none calls = some stretch)
      (spent : ¬stretch.Fits poller.retry step time) :
      GaveUp poller step started subject calls (RetryPolicy.exhaustedMessage error.message)

theorem not_gaveUp_of_news {poller : Poller} {step started time : Duration} {subject : Subject}
    {calls : List Sent} {queryId : String} {status : Status} {answered : Duration}
    (last : calls.getLast? =
      some ⟨time, .status queryId, some (answered, .ok status)⟩) (message : String) :
    ¬GaveUp poller step started subject calls message := by
  intro gaveUp
  cases gaveUp with
  | expired limited lastAgain ending late =>
      rw [last] at lastAgain
      cases lastAgain
      cases ending
  | refused lastAgain checking failed final =>
      rw [last] at lastAgain
      cases lastAgain
      cases failed
  | exhausted lastAgain checking setback row spent =>
      rw [last] at lastAgain
      cases lastAgain
      cases setback

/-! ## What each look preserves -/

section

variable (environment : Environment σ) (token : Token) (execution : Execution)
  (start : World σ)

structure Followed (progress : Progress σ) : Prop where
  leads : start.LeadsTo progress.world
  record : progress.execution =
    execution.told environment.wallClock (progress.world.since start)
  undecided : progress.execution.isTerminal = false
  failing : progress.failing =
    (Stretch.trailing execution.database execution.catalog none
      (progress.world.since start)).map (.ofStretch environment.step)

inductive Accounted (poller : Poller) (started : Duration) (conclusion : Conclusion σ) :
    Prop
  | decided
      (record : conclusion.execution =
        execution.told environment.wallClock (conclusion.world.since start))
      (verdict : verdict? conclusion.execution = some conclusion.outcome)
      (ended : conclusion.execution.completedAt.isSome = true)
      (kept : ∀ message, ¬GaveUp poller environment.step started execution.subject
        (conclusion.world.since start) message)
  | interrupted
      (record : conclusion.execution =
        execution.told environment.wallClock (conclusion.world.since start))
      (outcome : conclusion.outcome = .error (.cancelled execution.queryId))
      (fired : conclusion.world.isFired token = true)
  | givenUp {message : String}
      (undecided : (execution.told environment.wallClock
        (conclusion.world.since start)).isTerminal = false)
      (record : conclusion.execution =
        (execution.told environment.wallClock (conclusion.world.since start)).markFailed
          message (environment.wallClock conclusion.world.clock))
      (outcome : conclusion.outcome =
        .error (.terminal (some execution.queryId) message))
      (gaveUp : GaveUp poller environment.step started execution.subject
        (conclusion.world.since start)
        message)

end

variable {poller : Poller} {environment : Environment σ} {token : Token}
  {started : Duration} {execution : Execution} {start : World σ} {progress : Progress σ}

namespace Followed

theorem subject_eq (followed : Followed environment execution start progress) :
    progress.execution.subject = execution.subject := by
  rw [followed.record, Execution.told_subject]

theorem queryId_eq (followed : Followed environment execution start progress) :
    progress.execution.queryId = execution.queryId :=
  congrArg Subject.queryId followed.subject_eq

theorem database_eq (followed : Followed environment execution start progress) :
    progress.execution.database = execution.database :=
  congrArg Subject.database followed.subject_eq

theorem catalog_eq (followed : Followed environment execution start progress) :
    progress.execution.catalog = execution.catalog :=
  congrArg Subject.catalog followed.subject_eq

theorem told_eq (followed : Followed environment execution start progress)
    {later : World σ} (leads : progress.world.LeadsTo later)
    (silent : ∀ sent ∈ later.since progress.world, sent.news? = none) :
    execution.told environment.wallClock (later.since start) = progress.execution := by
  rw [followed.leads.since_eq_append leads, Execution.told_append,
    Execution.told_of_no_news silent, ← followed.record]

theorem told_recorded (followed : Followed environment execution start progress)
    {status : Status} {reached : World σ}
    (answered : poller.check environment token started progress =
      (.answered (.ok status), reached)) :
    execution.told environment.wallClock (reached.since start) =
      recorded environment progress status reached := by
  rcases check_answered_since answered with ⟨time, calls⟩
  rw [followed.leads.since_eq_append (check_leadsTo answered), calls,
    Execution.told_append, ← followed.record]
  rfl

theorem told_failure (followed : Followed environment execution start progress)
    {error : ServiceError} {reached : World σ}
    (answered : poller.check environment token started progress =
      (.answered (.error error), reached)) :
    execution.told environment.wallClock (reached.since start) = progress.execution := by
  rcases check_answered_since answered with ⟨time, calls⟩
  refine followed.told_eq (check_leadsTo answered) fun sent member => ?_
  rw [calls, List.mem_singleton] at member
  rw [member]
  rfl

theorem last_check (followed : Followed environment execution start progress)
    {outcome : Outcome Status} {reached : World σ}
    (answered : poller.check environment token started progress =
      (.answered outcome, reached)) :
    ∃ time, (reached.since start).getLast? =
      some ⟨time, .status execution.queryId, some (reached.clock, outcome)⟩ := by
  rcases check_answered_since answered with ⟨time, calls⟩
  refine ⟨time, ?_⟩
  rw [followed.leads.since_eq_append (check_leadsTo answered), calls, List.getLast?_concat,
    followed.queryId_eq]

theorem trailing_setback (followed : Followed environment execution start progress)
    {error : ServiceError} {reached : World σ}
    (answered : poller.check environment token started progress =
      (.answered (.error error), reached))
    (retryable : error.isRetryable execution.database execution.catalog = true) :
    ∃ stretch,
      Stretch.trailing execution.database execution.catalog none (reached.since start) =
        some stretch ∧
      progress.failingBy environment reached = .ofStretch environment.step stretch := by
  rcases check_answered_since answered with ⟨time, calls⟩
  have setback := @Sent.setback?_of_failure _ _ time reached.clock
    (.status progress.execution.queryId) error rfl retryable
  rw [followed.leads.since_eq_append (check_leadsTo answered), calls,
    Stretch.trailing_append, Stretch.trailing_singleton, Stretch.after_of_setback setback]
  exact ⟨_, rfl, failingBy_eq followed.failing reached time _ _⟩

end Followed

theorem isTerminal_of_verdict? {execution : Execution} :
    execution.isTerminal = (verdict? execution).isSome := by
  unfold Execution.isTerminal verdict?
  cases execution.state <;> rfl

/-- The world of a query at rest is that of its check, but for looks at the clock. -/
private theorem Awaits.told_eq {resting : Progress σ}
    (followed : Followed environment execution start progress)
    (awaits : Awaits poller environment token started progress resting) :
    execution.told environment.wallClock (resting.world.since start) = resting.execution := by
  cases awaits with
  | status checks answered unfired undecided => exact followed.told_recorded answered
  | @failure error reached checks answered retryable allowed =>
      change execution.told environment.wallClock (reached.since start) = progress.execution
      exact followed.told_failure answered

theorem Look.followed {next : Progress σ}
    (followed : Followed environment execution start progress)
    (look : Look poller environment token started progress (.continued next)) :
    Followed environment execution start next := by
  cases look with
  | @continued resting rested awaits waited =>
      have calls := Awaits.wait_since waited start
      refine ⟨followed.leads.trans (awaits.waits_leadsTo waited), ?_, ?_, ?_⟩
      · rw [calls, awaits.told_eq followed]
      · cases awaits with
        | status checks answered unfired undecided =>
            rw [isTerminal_of_verdict?, undecided]
            rfl
        | failure checks answered retryable allowed => exact followed.undecided
      · have counted := (awaits.budget followed.failing).2
        rw [followed.database_eq, followed.catalog_eq, ← Stretch.trailing_append,
          ← followed.leads.since_eq_append awaits.leadsTo] at counted
        rw [calls]
        exact counted

private theorem abort_silent {given : Execution} {world : World σ} :
    ∀ sent ∈ (poller.abort environment given world).world.since world,
      sent.news? = none := by
  intro sent member
  unfold abort at member
  split at member
  · rcases requestCancel_since environment given.queryId world with ⟨answered, calls⟩
    rw [calls, List.mem_singleton] at member
    rw [member]
    rfl
  · rw [World.since_self] at member
    cases member

private theorem accounted_abort {given : Execution} {world : World σ}
    (leads : start.LeadsTo world)
    (record : given = execution.told environment.wallClock (world.since start))
    (fired : world.isFired token = true) :
    Accounted environment token execution start poller started
      (poller.abort environment given world) := by
  have aborts := poller.abort_leadsTo environment given world
  refine .interrupted ?_ ?_ (aborts.isFired fired)
  · rw [leads.since_eq_append aborts, Execution.told_append, ← record,
      Execution.told_of_no_news abort_silent]
    rfl
  · rw [abort, record, Execution.told_queryId]

private theorem accounted_giveUp {given : Execution} {message : String} {world : World σ}
    (record : given = execution.told environment.wallClock (world.since start))
    (undecided : given.isTerminal = false)
    (gaveUp : GaveUp poller environment.step started execution.subject (world.since start)
      message) :
    Accounted environment token execution start poller started
      (giveUp environment message given world) := by
  refine .givenUp (record ▸ undecided) ?_ ?_ gaveUp
  · rw [giveUp, record]
  · rw [giveUp, record, Execution.told_queryId]

theorem Look.accounted {conclusion : Conclusion σ}
    (followed : Followed environment execution start progress)
    (look : Look poller environment token started progress (.concluded conclusion)) :
    Accounted environment token execution start poller started conclusion := by
  cases look with
  | firedBefore fired => exact accounted_abort followed.leads followed.record fired
  | @expired timeout reached unfired overdue =>
      have looks := poller.overdue?_leadsTo environment started progress.world
      have quiet := poller.overdue?_sent environment started progress.world
      rw [overdue] at looks quiet
      rcases overdue?_clock poller environment started progress.world overdue with ⟨limited, late⟩
      rcases requestCancel_since environment progress.execution.queryId reached with
        ⟨answered, ending⟩
      have cancels := requestCancel_leadsTo environment progress.execution.queryId reached
      have calls : (requestCancel environment progress.execution.queryId reached).since
          progress.world = [⟨reached.clock, .cancel progress.execution.queryId, answered⟩] := by
        rw [looks.since_eq_append cancels, ending, World.since_of_sent_eq, List.nil_append]
        rw [quiet, List.append_nil]
      have leads := looks.trans cancels
      have last : ((requestCancel environment progress.execution.queryId reached).since
          start).getLast? =
            some ⟨reached.clock, .cancel progress.execution.queryId, answered⟩ := by
        rw [followed.leads.since_eq_append leads, calls, List.getLast?_concat]
      refine accounted_giveUp ?_ followed.undecided
        (.expired limited last (congrArg Call.cancel followed.queryId_eq) late)
      refine (followed.told_eq leads fun sent member => ?_).symm
      rw [calls, List.mem_singleton] at member
      rw [member]
      rfl
  | @firedMeanwhile reached checks unanswered =>
      rcases check_interrupted_since unanswered with ⟨fired, time, calls⟩
      have leads := check_leadsTo unanswered
      refine accounted_abort (followed.leads.trans leads) ?_ fired
      refine (followed.told_eq leads fun sent member => ?_).symm
      rw [calls, List.mem_singleton] at member
      rw [member]
      rfl
  | firedWithStatus checks answered fired =>
      exact accounted_abort (followed.leads.trans (check_leadsTo answered))
        (followed.told_recorded answered).symm fired
  | decided checks answered unfired verdict =>
      rcases followed.last_check answered with ⟨time, last⟩
      refine .decided (followed.told_recorded answered).symm verdict ?_
        (not_gaveUp_of_news last)
      refine Execution.completedAt_of_applyStatus followed.undecided ?_
      rw [isTerminal_of_verdict?]
      exact congrArg Option.isSome verdict
  | refused checks answered final =>
      rcases followed.last_check answered with ⟨time, last⟩
      rw [followed.database_eq, followed.catalog_eq] at final
      exact accounted_giveUp (followed.told_failure answered).symm followed.undecided
        (.refused last rfl rfl final)
  | exhausted checks answered retryable spent =>
      rcases followed.last_check answered with ⟨time, last⟩
      rw [followed.database_eq, followed.catalog_eq] at retryable
      rcases followed.trailing_setback answered retryable with ⟨stretch, row, failing⟩
      exact accounted_giveUp (followed.told_failure answered).symm followed.undecided
        (.exhausted last rfl (Sent.setback?_of_failure rfl retryable) row
          fun fits => spent ((allowed_iff_fits failing).mpr fits))
  | @firedAtRest resting reached awaits waited =>
      refine accounted_abort (followed.leads.trans (awaits.waits_leadsTo waited)) ?_
        (World.wait_isFired waited)
      rw [Awaits.wait_since waited, awaits.told_eq followed]

theorem follow_accounted {limit : Nat} {conclusion : Conclusion σ}
    (followed : Followed environment execution start progress)
    (ends : poller.follow environment token started limit progress = some conclusion) :
    Accounted environment token execution start poller started conclusion := by
  induction limit generalizing progress with
  | zero => cases ends
  | succ limit induction =>
      rcases follow_cases ends with look | ⟨next, look, rest⟩
      · exact look.accounted followed
      · exact induction (look.followed followed) rest

/-! ## Outcome and record -/

/-- The outcome of a run and the record that it leaves tell the same of the query. -/
structure Agrees (token : Token) (queryId : String) (conclusion : Conclusion σ) : Prop where
  sameQuery : conclusion.execution.queryId = queryId
  succeeded : conclusion.outcome = .ok () → conclusion.execution.state = .succeeded
  terminal : ∀ query? message, conclusion.outcome = .error (.terminal query? message) →
    query? = some queryId ∧ conclusion.execution.state = .failed ∧
      conclusion.execution.completedAt.isSome = true ∧
      message =
        conclusion.execution.errorMessage.getD "query failed without a reason"
  cancelled : ∀ query, conclusion.outcome = .error (.cancelled query) →
    query = queryId ∧
      (conclusion.world.isFired token = true ∨ conclusion.execution.state = .cancelled)
  faults : ∀ fault, conclusion.outcome = .error fault →
    (∃ message, fault = .terminal (some queryId) message) ∨ fault = .cancelled queryId

private theorem agrees_of_verdict? {conclusion : Conclusion σ}
    (verdict : verdict? conclusion.execution = some conclusion.outcome)
    (ended : conclusion.execution.completedAt.isSome = true) :
    Agrees token conclusion.execution.queryId conclusion := by
  rcases conclusion with ⟨outcome, execution, world⟩
  dsimp only at verdict ended ⊢
  unfold verdict? at verdict
  cases state : execution.state <;> rw [state] at verdict <;> cases verdict
  case succeeded => constructor <;> simp [state]
  case failed => constructor <;> simp [state, ended]
  case cancelled => constructor <;> simp [state]

theorem Accounted.subject_eq {conclusion : Conclusion σ}
    (accounted : Accounted environment token execution start poller started conclusion) :
    conclusion.execution.subject = execution.subject := by
  cases accounted with
  | decided record verdict ended kept => rw [record, Execution.told_subject]
  | interrupted record outcome fired => rw [record, Execution.told_subject]
  | givenUp undecided record outcome gaveUp =>
      rw [record, Execution.markFailed, undecided]
      exact Execution.told_subject _

theorem Accounted.agrees {conclusion : Conclusion σ}
    (accounted : Accounted environment token execution start poller started conclusion) :
    Agrees token execution.queryId conclusion := by
  have same : conclusion.execution.queryId = execution.queryId :=
    congrArg Subject.queryId accounted.subject_eq
  cases accounted with
  | decided record verdict ended kept => exact same ▸ agrees_of_verdict? verdict ended
  | interrupted record outcome fired => constructor <;> simp_all
  | givenUp undecided record outcome gaveUp =>
      rw [Execution.markFailed, undecided] at record
      constructor <;> simp [record, outcome]

theorem pollUntilTerminal_accounted {limit : Nat} {execution : Execution} {world : World σ}
    {conclusion : Conclusion σ} (fresh : execution.isTerminal = false)
    (ends : poller.pollUntilTerminal environment token limit execution world =
      some conclusion) :
    Accounted environment token execution world poller (world.now environment).1 conclusion := by
  have noCalls : (world.now environment).2.since world = [] := world.since_self
  have followed : Followed environment execution world
      { execution, world := (world.now environment).2 } :=
    { leads := world.now_leadsTo environment
      record := (congrArg (execution.told environment.wallClock) noCalls).symm
      undecided := fresh
      failing := (congrArg (fun calls => (Stretch.trailing _ _ none calls).map _) noCalls).symm }
  exact follow_accounted followed ends

/-- Whenever the following of a query that has not ended comes to an end, its outcome
agrees with the record, and the record is what the calls of the run say it has to be. -/
theorem pollUntilTerminal_agrees (poller : Poller) (environment : Environment σ)
    (token : Token) (limit : Nat) (execution : Execution) (world : World σ)
    {conclusion : Conclusion σ} (fresh : execution.isTerminal = false)
    (ends : poller.pollUntilTerminal environment token limit execution world =
      some conclusion) :
    Agrees token execution.queryId conclusion ∧
      Accounted environment token execution world poller (world.now environment).1 conclusion := by
  have accounted := pollUntilTerminal_accounted fresh ends
  exact ⟨accounted.agrees, accounted⟩

/-! ### A run with a failing check -/

def patient : Poller :=
  { interval := 1, retry := { interval := 1 }, killOnInterrupt := true, timeout := none }

def freshQuery : Execution :=
  { queryId := "q1", sql := "SELECT 1", database := "default", catalog := "AwsDataCatalog"
    submittedAt := default }

/-- Status checks that go by a script, in which a step may fire the first token. -/
def scripted (statuses : List (Rehearsal.Step Status)) : World Rehearsal.Script :=
  { outside := { current := some ⟨0⟩, statuses }, nextToken := 1 }

def failsAfterSetback : World Rehearsal.Script :=
  scripted
    [{ outcome := .ok { state := .running } },
      { outcome := .error (.operational "busy") },
      { outcome := .ok { state := .failed, errorMessage := some "boom" } }]

theorem pollUntilTerminal_of_failsAfterSetback :
    freshQuery.isTerminal = false ∧
      ∃ conclusion,
        patient.pollUntilTerminal (Rehearsal.environment false default) ⟨0⟩ 3 freshQuery
          failsAfterSetback = some conclusion ∧
        conclusion.outcome = .error (.terminal (some "q1") "boom") ∧
        Agrees ⟨0⟩ "q1" conclusion ∧
        Accounted (Rehearsal.environment false default) ⟨0⟩ freshQuery failsAfterSetback
          patient (failsAfterSetback.now (Rehearsal.environment false default)).1 conclusion :=
  ⟨rfl, _, rfl, rfl,
    pollUntilTerminal_agrees patient (Rehearsal.environment false default) ⟨0⟩ 3 freshQuery
      failsAfterSetback rfl rfl⟩

end Poller

end RemoteQuery
