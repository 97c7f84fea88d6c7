import RemoteQuery.Proofs.Poller.Cancellation

/-! # Why following a query ends, and what is asked of the service until then

A query is followed by status checks and by nothing else. What ends it decides whether the
service is asked to end the query, too; that request is the last call of all.
-/

namespace RemoteQuery

open Calendar (Duration)

variable {σ : Type}

/-! ## Calls -/

namespace World

def calls (later earlier : World σ) : List Call :=
  (later.since earlier).map (·.call)

@[simp] theorem calls_self (world : World σ) : world.calls world = [] := by
  rw [calls, since_self, List.map_nil]

theorem LeadsTo.calls_eq_append {first second third : World σ} (left : first.LeadsTo second)
    (right : second.LeadsTo third) :
    third.calls first = second.calls first ++ third.calls second := by
  rw [calls, left.since_eq_append right, List.map_append]
  rfl

theorem calls_of_sent_eq {later still : World σ} (silent : still.sent = later.sent)
    (earlier : World σ) : still.calls earlier = later.calls earlier := by
  rw [calls, calls, since, since, silent]

theorem calls_from_sent_eq {earlier still : World σ} (silent : still.sent = earlier.sent)
    (later : World σ) : later.calls still = later.calls earlier := by
  rw [calls, calls, since, since, silent]

end World

namespace Poller

inductive Cause where
  /-- The token has been seen to be fired. -/
  | token
  /-- The time for the query is over. -/
  | timeout
  /-- The service has told how the query ended. -/
  | report (outcome : Except Fault Unit)
  /-- A status check has failed for good. -/
  | failure

def Cause.cancels (killOnInterrupt : Bool) : Cause → Bool
  | .token => killOnInterrupt
  | .timeout => true
  | .report _ | .failure => false

def Cause.requests (killOnInterrupt : Bool) (queryId : String) (cause : Cause) : List Call :=
  if cause.cancels killOnInterrupt then [.cancel queryId] else []

section

variable (poller : Poller) (environment : Environment σ) (token : Token) (started : Duration)
  (progress : Progress σ)

inductive StopsFor : Cause → Prop
  | firedBefore (fired : progress.world.isFired token = true) : StopsFor .token
  | firedMeanwhile {reached : World σ}
      (checks : Checks poller environment token started progress)
      (unanswered : poller.check environment token started progress =
        (.interrupted, reached)) : StopsFor .token
  | firedWithStatus {status : Status} {reached : World σ}
      (checks : Checks poller environment token started progress)
      (answered : poller.check environment token started progress =
        (.answered (.ok status), reached))
      (fired : reached.isFired token = true) : StopsFor .token
  | firedAtRest {resting : Progress σ} {reached : World σ}
      (awaits : Awaits poller environment token started progress resting)
      (waited : resting.world.wait environment token poller.interval = (true, reached)) :
      StopsFor .token
  | expired {timeout : Duration} {reached : World σ}
      (unfired : progress.world.isFired token = false)
      (overdue : poller.overdue? environment started progress.world = (some timeout, reached)) :
      StopsFor .timeout
  | decided {status : Status} {reached : World σ} {outcome : Except Fault Unit}
      (checks : Checks poller environment token started progress)
      (answered : poller.check environment token started progress =
        (.answered (.ok status), reached))
      (unfired : reached.isFired token = false)
      (verdict : verdict? (recorded environment progress status reached) = some outcome) :
      StopsFor (.report outcome)
  | failed {message : String}
      (fails : FailsForGood poller environment token started progress message) :
      StopsFor .failure

/-- What a last look does: at most one check, and behind it the request that its cause asks
for. -/
structure Stops (cause : Cause) (conclusion : Conclusion σ) : Prop where
  step_eq : poller.step environment token started progress = .concluded conclusion
  calls : ∃ checks, conclusion.world.calls progress.world =
    List.replicate checks (.status progress.execution.queryId) ++
      cause.requests poller.killOnInterrupt progress.execution.queryId
  outcome : conclusion.outcome = .ok () ↔ cause = .report (.ok ())

end

variable {poller : Poller} {environment : Environment σ} {token : Token} {started : Duration}
  {progress next : Progress σ}

/-! ## The last look -/

theorem requestCancel_calls (environment : Environment σ) (queryId : String) (world : World σ) :
    (requestCancel environment queryId world).calls world = [.cancel queryId] := by
  rcases requestCancel_since environment queryId world with ⟨answered, calls⟩
  rw [World.calls, calls]
  rfl

theorem abort_calls (poller : Poller) (environment : Environment σ) (execution : Execution)
    (world : World σ) :
    (poller.abort environment execution world).world.calls world =
      Cause.token.requests poller.killOnInterrupt execution.queryId := by
  unfold abort Cause.requests Cause.cancels
  dsimp only
  split
  · exact requestCancel_calls environment execution.queryId world
  · exact World.calls_self world

theorem check_calls {reached : World σ} {outcome : Outcome Status}
    (answered : poller.check environment token started progress =
      (.answered outcome, reached)) :
    reached.calls progress.world = [.status progress.execution.queryId] := by
  rcases check_answered_since answered with ⟨time, calls⟩
  rw [World.calls, calls]
  rfl

theorem Awaits.calls {resting : Progress σ} {fired : Bool} {reached : World σ}
    (awaits : Awaits poller environment token started progress resting)
    (waited : resting.world.wait environment token poller.interval = (fired, reached)) :
    reached.calls progress.world = [.status progress.execution.queryId] := by
  have quiet := World.wait_sent environment token poller.interval resting.world
  rw [waited] at quiet
  rw [World.calls_of_sent_eq quiet]
  cases awaits with
  | status checks answered unfired undecided => exact check_calls answered
  | failure checks answered retryable allowed =>
      have calls := check_calls answered
      exact calls

private theorem aborted_calls {execution : Execution} {reached : World σ} {checks : List Call}
    (leads : progress.world.LeadsTo reached) (calls : reached.calls progress.world = checks)
    (sameQuery : execution.queryId = progress.execution.queryId) :
    (poller.abort environment execution reached).world.calls progress.world =
      checks ++ Cause.token.requests poller.killOnInterrupt progress.execution.queryId := by
  rw [leads.calls_eq_append (poller.abort_leadsTo environment execution reached), calls,
    abort_calls, sameQuery]

private theorem aborted_outcome (poller : Poller) (environment : Environment σ)
    (execution : Execution) (world : World σ) :
    (poller.abort environment execution world).outcome = .ok () ↔
      Cause.token = .report (.ok ()) :=
  iff_of_false (fun wrong => by cases wrong) fun wrong => by cases wrong

private theorem given_up_outcome {message : String} {execution : Execution} {world : World σ}
    {cause : Cause} (unreported : ∀ outcome, cause ≠ .report outcome) :
    (giveUp environment message execution world).outcome = .ok () ↔ cause = .report (.ok ()) :=
  iff_of_false (fun wrong => by cases wrong) (unreported _)

theorem StopsFor.stops {cause : Cause}
    (stopsFor : StopsFor poller environment token started progress cause) :
    ∃ conclusion, Stops poller environment token started progress cause conclusion := by
  cases stopsFor with
  | firedBefore fired =>
      exact ⟨_, (Look.firedBefore fired).step_eq,
        ⟨0, aborted_calls (.refl _) (World.calls_self _) rfl⟩, aborted_outcome ..⟩
  | firedMeanwhile checks unanswered =>
      rcases check_interrupted_since unanswered with ⟨-, time, calls⟩
      refine ⟨_, (Look.firedMeanwhile checks unanswered).step_eq, ⟨1, ?_⟩, aborted_outcome ..⟩
      refine aborted_calls (check_leadsTo unanswered) ?_ rfl
      rw [World.calls, calls]
      rfl
  | firedWithStatus checks answered fired =>
      exact ⟨_, (Look.firedWithStatus checks answered fired).step_eq,
        ⟨1, aborted_calls (check_leadsTo answered) (check_calls answered)
          (recorded_queryId _ _)⟩, aborted_outcome ..⟩
  | firedAtRest awaits waited =>
      exact ⟨_, (Look.firedAtRest awaits waited).step_eq,
        ⟨1, aborted_calls (awaits.waits_leadsTo waited) (awaits.calls waited)
          awaits.queryId_eq⟩, aborted_outcome ..⟩
  | @expired timeout reached unfired overdue =>
      have quiet := poller.overdue?_sent environment started progress.world
      have leads := poller.overdue?_leadsTo environment started progress.world
      rw [overdue] at quiet leads
      refine ⟨_, (Look.expired unfired overdue).step_eq, ⟨0, ?_⟩,
        given_up_outcome fun outcome wrong => by cases wrong⟩
      have asks := requestCancel_calls environment progress.execution.queryId reached
      rw [expire, giveUp, leads.calls_eq_append (requestCancel_leadsTo environment _ reached),
        asks, World.calls_of_sent_eq quiet, World.calls_self]
      rfl
  | decided checks answered unfired verdict =>
      refine ⟨_, (Look.decided checks answered unfired verdict).step_eq,
        ⟨1, check_calls answered⟩, ?_⟩
      simp only [Cause.report.injEq]
  | failed fails =>
      cases fails with
      | refused checks answered final =>
          have calls := check_calls answered
          exact ⟨_, (Look.refused checks answered final).step_eq, ⟨1, calls⟩,
            given_up_outcome fun outcome wrong => by cases wrong⟩
      | exhausted checks answered retryable spent =>
          have calls := check_calls answered
          exact ⟨_, (Look.exhausted checks answered retryable spent).step_eq, ⟨1, calls⟩,
            given_up_outcome fun outcome wrong => by cases wrong⟩

theorem Look.exists_stopsFor {conclusion : Conclusion σ}
    (look : Look poller environment token started progress (.concluded conclusion)) :
    ∃ cause, StopsFor poller environment token started progress cause := by
  cases look with
  | firedBefore fired => exact ⟨_, .firedBefore fired⟩
  | expired unfired overdue => exact ⟨_, .expired unfired overdue⟩
  | firedMeanwhile checks unanswered => exact ⟨_, .firedMeanwhile checks unanswered⟩
  | firedWithStatus checks answered fired => exact ⟨_, .firedWithStatus checks answered fired⟩
  | decided checks answered unfired verdict =>
      exact ⟨_, .decided checks answered unfired verdict⟩
  | refused checks answered final => exact ⟨_, .failed (.refused checks answered final)⟩
  | exhausted checks answered retryable spent =>
      exact ⟨_, .failed (.exhausted checks answered retryable spent)⟩
  | firedAtRest awaits waited => exact ⟨_, .firedAtRest awaits waited⟩

/-! ## All looks -/

theorem look_of_continued {middle : Progress σ}
    (stepped : poller.step environment token started progress = .continued middle) :
    Look poller environment token started progress (.continued middle) := by
  have look := look_step poller environment token started progress
  rwa [stepped] at look

theorem after_calls {looks : Nat}
    (reaches : poller.after environment token started looks progress = some next) :
    progress.world.LeadsTo next.world ∧ next.world.calls progress.world =
      List.replicate looks (.status progress.execution.queryId) := by
  induction looks generalizing progress with
  | zero =>
      cases reaches
      exact ⟨.refl _, World.calls_self _⟩
  | succ looks induction =>
      rcases continued_of_after reaches with ⟨middle, stepped, reaches⟩
      rcases induction reaches with ⟨leads, calls⟩
      cases look_of_continued stepped with
      | @continued resting reached awaits waited =>
          have begins := awaits.waits_leadsTo waited
          refine ⟨begins.trans leads, ?_⟩
          rw [begins.calls_eq_append leads, awaits.calls waited, calls, awaits.queryId_eq,
            List.replicate_succ, List.singleton_append]

theorem after_of_continued {looks : Nat} {middle : Progress σ}
    (stepped : poller.step environment token started progress = .continued middle)
    (reaches : poller.after environment token started looks middle = some next) :
    poller.after environment token started (looks + 1) progress = some next := by
  rw [after, stepped]
  exact reaches

theorem exists_after_of_follow {limit : Nat} {conclusion : Conclusion σ}
    (ends : poller.follow environment token started limit progress = some conclusion) :
    ∃ looks last, poller.after environment token started looks progress = some last ∧
      Look poller environment token started last (.concluded conclusion) := by
  induction limit generalizing progress with
  | zero => cases ends
  | succ limit induction =>
      rcases follow_cases ends with look | ⟨middle, look, rest⟩
      · exact ⟨0, progress, rfl, look⟩
      · rcases induction rest with ⟨looks, last, reaches, lastLook⟩
        exact ⟨looks + 1, last, after_of_continued look.step_eq reaches, lastLook⟩

/-- How a run ends: with a last look, whose cause decides what is asked of the service behind
all status checks, and what the run tells. -/
structure EndsBy (poller : Poller) (environment : Environment σ) (token : Token)
    (execution : Execution) (world : World σ) (conclusion : Conclusion σ) (looks : Nat)
    (last : Progress σ) : Prop where
  reaches : poller.after environment token (world.now environment).1 looks
    { execution, world := (world.now environment).2 } = some last
  stopsFor : ∃ cause, StopsFor poller environment token (world.now environment).1 last cause
  calls : ∀ cause, StopsFor poller environment token (world.now environment).1 last cause →
    ∃ checks, conclusion.world.calls world =
      List.replicate checks (.status execution.queryId) ++
        cause.requests poller.killOnInterrupt execution.queryId
  outcome : ∀ cause, StopsFor poller environment token (world.now environment).1 last cause →
    (conclusion.outcome = .ok () ↔ cause = .report (.ok ()))

theorem exists_endsBy {limit : Nat} {execution : Execution} {world : World σ}
    {conclusion : Conclusion σ}
    (ends : poller.pollUntilTerminal environment token limit execution world =
      some conclusion) :
    ∃ looks last, EndsBy poller environment token execution world conclusion looks last := by
  rcases exists_after_of_follow ends with ⟨looks, last, reaches, look⟩
  have sameQuery : last.execution.queryId = execution.queryId := after_queryId reaches
  -- A look leads to one thing only, so whatever the cause, it is this look that stops.
  have stops : ∀ cause, StopsFor poller environment token (world.now environment).1 last cause →
      Stops poller environment token (world.now environment).1 last cause conclusion := by
    intro cause stopsFor
    rcases stopsFor.stops with ⟨ended, stops⟩
    have same := stops.step_eq.symm.trans look.step_eq
    cases same
    exact stops
  refine ⟨looks, last, reaches, look.exists_stopsFor, ?_, fun cause stopsFor =>
    (stops cause stopsFor).outcome⟩
  intro cause stopsFor
  have leads : (world.now environment).2.LeadsTo last.world := (after_calls reaches).1
  have before : last.world.calls (world.now environment).2 =
      List.replicate looks (.status execution.queryId) := (after_calls reaches).2
  rcases (stops cause stopsFor).calls with ⟨checks, calls⟩
  refine ⟨looks + checks, ?_⟩
  calc conclusion.world.calls world
      = last.world.calls (world.now environment).2 ++ conclusion.world.calls last.world :=
        leads.calls_eq_append (look.leadsTo rfl)
    _ = List.replicate looks (.status execution.queryId) ++
          (List.replicate checks (.status execution.queryId) ++
            cause.requests poller.killOnInterrupt execution.queryId) := by
        rw [before, calls, sameQuery]
    _ = List.replicate (looks + checks) (.status execution.queryId) ++
          cause.requests poller.killOnInterrupt execution.queryId := by
        rw [← List.append_assoc, List.replicate_append_replicate]

end Poller

end RemoteQuery
