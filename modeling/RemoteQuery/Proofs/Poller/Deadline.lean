import Mathlib.Algebra.Order.Floor.Div
import RemoteQuery.Proofs.Poller.Ending

/-! # The time for a query

Every look that is followed by another one takes at least as long as the wait behind it, so the
clock bounds how many looks there are. The first look for which the time is over is the last one.
-/

namespace RemoteQuery

open Calendar (Duration)

variable {σ : Type}

def Sent.isCheck (sent : Sent) : Bool :=
  match sent.call with
  | .status _ => true
  | _ => false

namespace World

def checks (later earlier : World σ) : List Sent :=
  (later.since earlier).filter Sent.isCheck

@[simp] theorem checks_self (world : World σ) : world.checks world = [] := by
  rw [checks, since_self, List.filter_nil]

theorem LeadsTo.checks_eq_append {first second third : World σ} (left : first.LeadsTo second)
    (right : second.LeadsTo third) :
    third.checks first = second.checks first ++ third.checks second := by
  rw [checks, left.since_eq_append right, List.filter_append]
  rfl

end World

namespace Poller

section

variable (poller : Poller) (environment : Environment σ) (token : Token) (started : Duration)
  (progress : Progress σ)

/-- The status checks of a look: one if the look gets so far, and none otherwise. -/
inductive LookChecks : List Sent → Prop
  | none : LookChecks []
  | one {sent : Sent} (checks : Checks poller environment token started progress)
      (time : sent.time = (poller.overdue? environment started progress.world).2.clock) :
      LookChecks [sent]

end

variable {poller : Poller} {environment : Environment σ} {token : Token} {started : Duration}
  {progress next last : Progress σ} {timeout : Duration} {looks limit : Nat}

/-! ## The checks of a look -/

theorem check_sent {ended : World.Raced (Outcome Status)} {reached : World σ}
    (checked : poller.check environment token started progress = (ended, reached))
    (unstuck : ended ≠ .stuck) :
    ∃ answered, reached.since progress.world =
      [⟨(poller.overdue? environment started progress.world).2.clock,
        .status progress.execution.queryId, answered⟩] := by
  have ends := World.raceEnd_race token (.status progress.execution.queryId)
    (environment.status progress.execution.queryId)
    (poller.overdue? environment started progress.world).2
  rw [show World.race _ _ _ _ = _ from checked] at ends
  cases ends with
  | stuck => contradiction
  | interrupted sent | answered sent =>
      rw [overdue?_sent] at sent
      exact ⟨_, World.since_of_sent_eq sent⟩

theorem lookChecks_check {ended : World.Raced (Outcome Status)} {reached : World σ}
    (checks : Checks poller environment token started progress)
    (checked : poller.check environment token started progress = (ended, reached))
    (unstuck : ended ≠ .stuck) :
    LookChecks poller environment token started progress (reached.checks progress.world) := by
  obtain ⟨answered, sent⟩ := check_sent checked unstuck
  rw [World.checks, sent]
  exact .one checks rfl

theorem lookChecks_answered {outcome : Outcome Status} {reached : World σ}
    (checks : Checks poller environment token started progress)
    (answered : poller.check environment token started progress = (.answered outcome, reached)) :
    LookChecks poller environment token started progress (reached.checks progress.world) :=
  lookChecks_check checks answered nofun

theorem lookChecks_interrupted {reached : World σ}
    (checks : Checks poller environment token started progress)
    (unanswered : poller.check environment token started progress = (.interrupted, reached)) :
    LookChecks poller environment token started progress (reached.checks progress.world) :=
  lookChecks_check checks unanswered nofun

theorem requestCancel_checks (environment : Environment σ) (queryId : String) (world : World σ) :
    (requestCancel environment queryId world).checks world = [] := by
  obtain ⟨answered, sent⟩ := requestCancel_since environment queryId world
  rw [World.checks, sent]
  rfl

theorem abort_checks (poller : Poller) (environment : Environment σ) (execution : Execution)
    (world : World σ) : (poller.abort environment execution world).world.checks world = [] := by
  unfold abort
  dsimp only
  split
  · exact requestCancel_checks environment execution.queryId world
  · exact World.checks_self world

private theorem lookChecks_abort {execution : Execution} {reached : World σ}
    (leads : progress.world.LeadsTo reached)
    (checks : LookChecks poller environment token started progress
      (reached.checks progress.world)) :
    LookChecks poller environment token started progress
      ((poller.abort environment execution reached).world.checks progress.world) := by
  rw [leads.checks_eq_append (poller.abort_leadsTo environment execution reached), abort_checks,
    List.append_nil]
  exact checks

theorem Awaits.lookChecks {resting : Progress σ} {fired : Bool} {reached : World σ}
    (awaits : Awaits poller environment token started progress resting)
    (waited : resting.world.wait environment token poller.interval = (fired, reached)) :
    LookChecks poller environment token started progress (reached.checks progress.world) := by
  have same : reached.checks progress.world = resting.world.checks progress.world :=
    congrArg (List.filter Sent.isCheck) (Awaits.wait_since waited progress.world)
  rw [same]
  cases awaits with
  | status checks answered unfired undecided => exact lookChecks_answered checks answered
  | @failure error reached checks answered retryable allowed =>
      change LookChecks poller environment token started progress (reached.checks progress.world)
      exact lookChecks_answered checks answered

theorem Look.lookChecks {result : Step σ} {later : World σ}
    (look : Look poller environment token started progress result)
    (reaches : result.world? = some later) :
    LookChecks poller environment token started progress (later.checks progress.world) := by
  cases look with
  | firedBefore fired =>
      cases reaches
      refine lookChecks_abort (.refl _) ?_
      rw [World.checks_self]
      exact .none
  | @expired timeout reached unfired overdue =>
      cases reaches
      have quiet := poller.overdue?_sent environment started progress.world
      have leads := poller.overdue?_leadsTo environment started progress.world
      rw [overdue] at quiet leads
      have silent : reached.checks progress.world = [] := by
        rw [World.checks, World.since, quiet, List.drop_length, List.filter_nil]
      rw [expire, giveUp, leads.checks_eq_append (requestCancel_leadsTo environment _ reached),
        silent, requestCancel_checks]
      exact .none
  | stuck checks unanswered => cases reaches
  | firedMeanwhile checks unanswered =>
      cases reaches
      exact lookChecks_abort (check_leadsTo unanswered) (lookChecks_interrupted checks unanswered)
  | firedWithStatus checks answered fired =>
      cases reaches
      exact lookChecks_abort (check_leadsTo answered) (lookChecks_answered checks answered)
  | decided checks answered unfired verdict =>
      cases reaches
      exact lookChecks_answered checks answered
  | @refused error reached checks answered final =>
      cases reaches
      change LookChecks poller environment token started progress (reached.checks progress.world)
      exact lookChecks_answered checks answered
  | @exhausted error reached checks answered retryable spent =>
      cases reaches
      change LookChecks poller environment token started progress (reached.checks progress.world)
      exact lookChecks_answered checks answered
  | firedAtRest awaits waited =>
      cases reaches
      exact lookChecks_abort (awaits.waits_leadsTo waited) (awaits.lookChecks waited)
  | continued awaits waited =>
      cases reaches
      exact awaits.lookChecks waited

/-! ## The clock -/

theorem Checks.inTime (checks : Checks poller environment token started progress)
    (limited : poller.timeout = some timeout) :
    (poller.overdue? environment started progress.world).2.clock =
        (progress.world.now environment).1 ∧
      (progress.world.now environment).1 - started < timeout := by
  have inTime := checks.2
  unfold overdue? at inTime ⊢
  rw [limited] at inTime ⊢
  dsimp only at inTime ⊢
  split at inTime
  · cases inTime
  · rename_i early
    exact ⟨rfl, Nat.not_le.mp early⟩

theorem Look.clock (look : Look poller environment token started progress (.continued next)) :
    progress.world.clock + poller.interval ≤ next.world.clock := by
  cases look with
  | @continued resting reached awaits waited =>
      calc progress.world.clock + poller.interval
          ≤ resting.world.clock + poller.interval :=
            Nat.add_le_add_right awaits.leadsTo.clock poller.interval
        _ = reached.clock := (World.wait_clock waited).symm

/-! ## Many looks -/

theorem Look.checks_of_continued
    (look : Look poller environment token started progress (.continued next)) :
    Checks poller environment token started progress := by
  cases look with
  | continued awaits waited => cases awaits <;> assumption

theorem after_clock
    (reaches : poller.after environment token started looks progress = some next) :
    progress.world.clock + looks * poller.interval ≤ next.world.clock := by
  induction looks generalizing progress with
  | zero =>
      cases reaches
      rw [Nat.zero_mul]
      exact Nat.le_refl _
  | succ looks induction =>
      obtain ⟨middle, stepped, reaches⟩ := continued_of_after reaches
      calc progress.world.clock + (looks + 1) * poller.interval
          = progress.world.clock + poller.interval + looks * poller.interval := by
            rw [Nat.succ_mul, Nat.add_comm (looks * poller.interval), Nat.add_assoc]
        _ ≤ middle.world.clock + looks * poller.interval :=
            Nat.add_le_add_right (look_of_continued stepped).clock _
        _ ≤ next.world.clock := induction reaches

theorem exists_after {fewer : Nat} (within : fewer < looks)
    (reaches : poller.after environment token started looks progress = some next) :
    ∃ earlier later, poller.after environment token started fewer progress = some earlier ∧
      Look poller environment token started earlier (.continued later) := by
  induction fewer generalizing looks progress with
  | zero =>
      obtain ⟨more, rfl⟩ := Nat.exists_eq_succ_of_ne_zero (Nat.ne_of_gt within)
      obtain ⟨middle, stepped, -⟩ := continued_of_after reaches
      exact ⟨progress, middle, rfl, look_of_continued stepped⟩
  | succ fewer induction =>
      obtain ⟨more, rfl⟩ := Nat.exists_eq_succ_of_ne_zero (Nat.ne_zero_of_lt within)
      obtain ⟨middle, stepped, reaches⟩ := continued_of_after reaches
      obtain ⟨earlier, later, reached, look⟩ := induction (Nat.lt_of_succ_lt_succ within) reaches
      exact ⟨earlier, later, after_of_continued stepped reached, look⟩

theorem follow_eq_none
    (endless : poller.follow environment token started limit progress = none) :
    (∃ next, poller.after environment token started limit progress = some next) ∨
      ∃ looks < limit, ∃ last, poller.after environment token started looks progress = some last ∧
        poller.step environment token started last = .stuck := by
  induction limit generalizing progress with
  | zero => exact .inl ⟨progress, rfl⟩
  | succ limit induction =>
      rw [follow] at endless
      cases stepped : poller.step environment token started progress with
      | stuck => exact .inr ⟨0, Nat.succ_pos limit, progress, rfl, stepped⟩
      | concluded conclusion =>
          rw [stepped] at endless
          cases endless
      | continued middle =>
          rw [stepped] at endless
          rcases induction endless with ⟨next, reaches⟩ | ⟨looks, within, last, reaches, stuck⟩
          · exact .inl ⟨next, after_of_continued stepped reaches⟩
          · exact .inr ⟨looks + 1, Nat.succ_lt_succ within, last,
              after_of_continued stepped reaches, stuck⟩

theorem after_undecided (undecided : progress.execution.isTerminal = false)
    (reaches : poller.after environment token started looks progress = some next) :
    next.execution.isTerminal = false := by
  induction looks generalizing progress with
  | zero =>
      cases reaches
      exact undecided
  | succ looks induction =>
      obtain ⟨middle, stepped, reaches⟩ := continued_of_after reaches
      refine induction ?_ reaches
      cases look_of_continued stepped with
      | continued awaits waited =>
          cases awaits with
          | status checks answered unfired undecided =>
              rw [isTerminal_of_verdict?, undecided]
              rfl
          | failure checks answered retryable allowed => exact undecided

/-! ## The checks of a run -/

theorem LookChecks.length_le {made : List Sent}
    (checks : LookChecks poller environment token started progress made) : made.length ≤ 1 := by
  cases checks with
  | none => exact Nat.zero_le 1
  | one checks time => exact Nat.le_refl 1

theorem LookChecks.inTime {made : List Sent}
    (checks : LookChecks poller environment token started progress made)
    (limited : poller.timeout = some timeout) :
    ∀ sent ∈ made, sent.time < started + timeout := by
  intro sent member
  cases checks with
  | none => cases member
  | one checks time =>
      obtain ⟨now, early⟩ := checks.inTime limited
      rw [List.mem_singleton.mp member, time, now]
      exact lt_add_of_tsub_lt_left early

theorem after_checks (limited : poller.timeout = some timeout)
    (reaches : poller.after environment token started looks progress = some next) :
    (next.world.checks progress.world).length ≤ looks ∧
      ∀ sent ∈ next.world.checks progress.world, sent.time < started + timeout := by
  induction looks generalizing progress with
  | zero =>
      cases reaches
      rw [World.checks_self]
      exact ⟨Nat.le_refl 0, fun sent member => nomatch member⟩
  | succ looks induction =>
      obtain ⟨middle, stepped, reaches⟩ := continued_of_after reaches
      obtain ⟨few, inTime⟩ := induction reaches
      have look := look_of_continued stepped
      have checks := look.lookChecks rfl
      rw [(look.leadsTo rfl).checks_eq_append (after_calls reaches).1, List.length_append]
      constructor
      · have one := checks.length_le
        omega
      · intro sent member
        exact (List.mem_append.mp member).elim (checks.inTime limited sent) (inTime sent)

/-! ## Runs -/

section

variable (poller : Poller) (environment : Environment σ) (token : Token) (execution : Execution)
  (world : World σ)

def Reaches (looks : Nat) (progress : Progress σ) : Prop :=
  poller.after environment token (world.now environment).1 looks
    { execution, world := (world.now environment).2 } =
    some progress

def Late (timeout : Duration) (progress : Progress σ) : Prop :=
  (world.now environment).1 + timeout ≤ (progress.world.now environment).1

structure TimesOut (timeout : Duration) (looks : Nat) (progress : Progress σ)
    (conclusion : Conclusion σ) : Prop where
  outcome : conclusion.outcome =
    .error (.terminal (some execution.queryId) (timeoutMessage timeout))
  calls : conclusion.world.calls world =
    List.replicate looks (.status execution.queryId) ++ [.cancel execution.queryId]
  record : conclusion.execution =
    progress.execution.markFailed (timeoutMessage timeout)
      (environment.wallClock conclusion.world.clock)
  failed : execution.isTerminal = false →
    conclusion.execution.state = .failed ∧
      conclusion.execution.errorMessage = some (timeoutMessage timeout)

end

variable {execution : Execution} {world : World σ} {conclusion : Conclusion σ}

theorem Checks.few (positive : 0 < poller.interval) (limited : poller.timeout = some timeout)
    (reaches : Reaches poller environment token execution world looks progress)
    (checks : Checks poller environment token (world.now environment).1 progress) :
    ¬Late environment world timeout progress ∧ looks < timeout ⌈/⌉ poller.interval := by
  have early : (progress.world.now environment).1 < (world.now environment).1 + timeout :=
    lt_add_of_tsub_lt_left (checks.inTime limited).2
  have passed : (world.now environment).1 + looks * poller.interval ≤ progress.world.clock :=
    after_clock reaches
  have looked : looks * poller.interval < timeout :=
    Nat.lt_of_add_lt_add_left
      (Nat.lt_of_le_of_lt passed (Nat.lt_of_le_of_lt (Nat.le_add_right _ _) early))
  refine ⟨Nat.not_le.mpr early, Nat.not_le.mp fun many => ?_⟩
  rw [ceilDiv_le_iff_le_mul positive, Nat.mul_comm] at many
  exact Nat.not_le.mpr looked many

theorem Reaches.looks_le (positive : 0 < poller.interval)
    (limited : poller.timeout = some timeout)
    (reaches : Reaches poller environment token execution world looks progress) :
    looks ≤ timeout ⌈/⌉ poller.interval := by
  cases looks with
  | zero => exact Nat.zero_le _
  | succ looks =>
      obtain ⟨earlier, later, reached, look⟩ := exists_after (Nat.lt_succ_self looks) reaches
      exact (look.checks_of_continued.few positive limited reached).2

theorem checks_of_pollUntilTerminal (positive : 0 < poller.interval)
    (limited : poller.timeout = some timeout)
    (ends : poller.pollUntilTerminal environment token limit execution world =
      some conclusion) :
    (∀ sent ∈ conclusion.world.checks world, sent.time < (world.now environment).1 + timeout) ∧
      (conclusion.world.checks world).length ≤ timeout ⌈/⌉ poller.interval := by
  obtain ⟨looks, last, reaches, look⟩ := exists_after_of_follow ends
  obtain ⟨few, inTime⟩ := after_checks limited reaches
  have parts : conclusion.world.checks world =
      last.world.checks (world.now environment).2 ++ conclusion.world.checks last.world :=
    (after_calls reaches).1.checks_eq_append (look.leadsTo rfl)
  have lastChecks := look.lookChecks rfl
  rw [parts, List.length_append]
  constructor
  · intro sent member
    exact (List.mem_append.mp member).elim (inTime sent) (lastChecks.inTime limited sent)
  · generalize conclusion.world.checks last.world = made at lastChecks ⊢
    cases lastChecks with
    | none => exact Nat.le_trans few (Reaches.looks_le positive limited reaches)
    | one checks time =>
        exact Nat.le_trans (Nat.succ_le_succ few) (checks.few positive limited reaches).2

theorem overdue?_of_late (limited : poller.timeout = some timeout)
    (late : Late environment world timeout progress) :
    poller.overdue? environment (world.now environment).1 progress.world =
      (some timeout, (progress.world.now environment).2) := by
  have passed : timeout ≤ (progress.world.now environment).1 - (world.now environment).1 :=
    Nat.le_sub_of_add_le' late
  rw [overdue?, limited]
  exact congrArg (·, (progress.world.now environment).2) (if_pos passed)

theorem timesOut_of_late (limited : poller.timeout = some timeout)
    (reaches : Reaches poller environment token execution world looks progress)
    (unfired : progress.world.isFired token = false)
    (late : Late environment world timeout progress) :
    ∃ conclusion,
      poller.step environment token (world.now environment).1 progress = .concluded conclusion ∧
        TimesOut environment execution world timeout looks progress conclusion := by
  have sameQuery : progress.execution.queryId = execution.queryId := after_queryId reaches
  have look : Look poller environment token (world.now environment).1 progress _ :=
    .expired unfired (overdue?_of_late limited late)
  refine ⟨_, look.step_eq, ?_, ?_, rfl, fun undecided => ?_⟩
  · rw [← sameQuery]
    rfl
  · obtain ⟨leads, calls⟩ := after_calls reaches
    have ending : (expire environment timeout progress.execution
        (progress.world.now environment).2).world.calls progress.world =
          [.cancel execution.queryId] := by
      rw [← sameQuery]
      exact requestCancel_calls environment progress.execution.queryId
        (progress.world.now environment).2
    rw [← ending, ← calls]
    exact leads.calls_eq_append (look.leadsTo rfl)
  · have still : progress.execution.isTerminal = false := after_undecided undecided reaches
    rw [expire, giveUp, Execution.markFailed, if_neg (Bool.not_eq_true _ ▸ still)]
    exact ⟨rfl, rfl⟩

theorem late_of_overdue {elapsed : Duration} {reached : World σ}
    (limited : poller.timeout = some timeout)
    (reaches : Reaches poller environment token execution world looks progress)
    (overdue : poller.overdue? environment (world.now environment).1 progress.world =
      (some elapsed, reached)) :
    Late environment world timeout progress := by
  have looked : poller.overdue? environment (world.now environment).1 progress.world =
      (if timeout ≤ (progress.world.now environment).1 - (world.now environment).1 then some timeout
        else none, (progress.world.now environment).2) := by
    rw [overdue?, limited]
  have isOver := congrArg Prod.fst (looked.symm.trans overdue)
  have begun : (world.now environment).1 ≤ (progress.world.now environment).1 :=
    Nat.le_trans (Nat.le_trans (Nat.le_add_right _ _) (after_clock reaches))
      (Nat.le_add_right _ _)
  exact Nat.add_le_of_le_sub' begun (Option.ite_none_right_eq_some.mp isOver).1

theorem StopsFor.cancelled (stopsFor : StopsFor poller environment token started progress .token)
    (look : Look poller environment token started progress (.concluded conclusion)) :
    conclusion.outcome = .error (.cancelled progress.execution.queryId) := by
  have ended {other : Conclusion σ} {queryId : String}
      (same : Look poller environment token started progress (.concluded other))
      (outcome : other.outcome = .error (.cancelled queryId))
      (sameQuery : queryId = progress.execution.queryId) :
      conclusion.outcome = .error (.cancelled progress.execution.queryId) := by
    cases look.step_eq.symm.trans same.step_eq
    rw [outcome, sameQuery]
  cases stopsFor with
  | firedBefore fired => exact ended (.firedBefore fired) rfl rfl
  | firedMeanwhile checks unanswered => exact ended (.firedMeanwhile checks unanswered) rfl rfl
  | firedWithStatus checks answered fired =>
      exact ended (.firedWithStatus checks answered fired) rfl (recorded_queryId _ _)
  | firedAtRest awaits waited =>
      exact ended (.firedAtRest awaits waited) rfl awaits.queryId_eq

structure KeepsDeadline (poller : Poller) (environment : Environment σ) (token : Token)
    (execution : Execution) (world : World σ) (timeout : Duration) : Prop where
  /-- Every look that comes to its check begins in time, so that there are few of them. -/
  looks (looks : Nat) (progress : Progress σ) :
    Reaches poller environment token execution world looks progress →
    Checks poller environment token (world.now environment).1 progress →
      ¬Late environment world timeout progress ∧ looks < timeout ⌈/⌉ poller.interval
  checks (limit : Nat) (conclusion : Conclusion σ) :
    poller.pollUntilTerminal environment token limit execution world = some conclusion →
      (∀ sent ∈ conclusion.world.checks world, sent.time < (world.now environment).1 + timeout) ∧
        (conclusion.world.checks world).length ≤ timeout ⌈/⌉ poller.interval
  /-- Only a check that is never answered keeps a run from its end. -/
  ends (limit : Nat) : timeout ⌈/⌉ poller.interval < limit →
    poller.pollUntilTerminal environment token limit execution world = none →
      ∃ looks last, Reaches poller environment token execution world looks last ∧
        poller.step environment token (world.now environment).1 last = .stuck
  /-- What has not ended otherwise ends as its time is over. -/
  stops (limit : Nat) (conclusion : Conclusion σ) :
    poller.pollUntilTerminal environment token limit execution world = some conclusion →
      ∃ looks last cause, Reaches poller environment token execution world looks last ∧
        StopsFor poller environment token (world.now environment).1 last cause ∧
        (cause = .token → conclusion.outcome = .error (.cancelled execution.queryId)) ∧
        (cause = .timeout → Late environment world timeout last ∧
          TimesOut environment execution world timeout looks last conclusion)
  /-- The first look for which the time is over is the last one, and a token that has been
  fired comes before the time. -/
  late (looks : Nat) (progress : Progress σ) :
    Reaches poller environment token execution world looks progress →
    Late environment world timeout progress →
      (∀ fewer < looks, ∃ earlier,
        Reaches poller environment token execution world fewer earlier ∧
          ¬Late environment world timeout earlier) ∧
      ∀ limit, looks < limit → ∃ conclusion,
        poller.pollUntilTerminal environment token limit execution world = some conclusion ∧
        (progress.world.isFired token = true →
          conclusion.outcome = .error (.cancelled execution.queryId)) ∧
        (progress.world.isFired token = false →
          TimesOut environment execution world timeout looks progress conclusion)

/-- Following a query ends with its time, by as many checks as there are waits in it. -/
theorem keepsDeadline (environment : Environment σ) (token : Token) (execution : Execution)
    (world : World σ) (positive : 0 < poller.interval)
    (limited : poller.timeout = some timeout) :
    KeepsDeadline poller environment token execution world timeout where
  looks _ _ reaches checks := checks.few positive limited reaches
  checks _ _ := checks_of_pollUntilTerminal positive limited
  ends limit more endless := by
    rcases follow_eq_none endless with ⟨next, reaches⟩ | ⟨looks, -, last, reaches, stuck⟩
    · exact absurd (Reaches.looks_le positive limited reaches) (Nat.not_le.mpr more)
    · exact ⟨looks, last, reaches, stuck⟩
  stops limit conclusion ends := by
    obtain ⟨looks, last, reaches, look⟩ := exists_after_of_follow ends
    obtain ⟨cause, stopsFor⟩ := look.exists_stopsFor
    refine ⟨looks, last, cause, reaches, stopsFor, ?_, ?_⟩
    · rintro rfl
      rw [← after_queryId reaches]
      exact stopsFor.cancelled look
    · rintro rfl
      cases stopsFor with
      | expired unfired overdue =>
          have late := late_of_overdue limited reaches overdue
          obtain ⟨ended, stepped, timesOut⟩ := timesOut_of_late limited reaches unfired late
          cases look.step_eq.symm.trans stepped
          exact ⟨late, timesOut⟩
  late looks progress reaches late := by
    refine ⟨fun fewer within => ?_, fun limit within => ?_⟩
    · obtain ⟨earlier, later, reached, look⟩ := exists_after within reaches
      exact ⟨earlier, reached, (look.checks_of_continued.few positive limited reached).1⟩
    · cases fired : progress.world.isFired token with
      | true =>
          have look : Look poller environment token (world.now environment).1 progress _ :=
            .firedBefore fired
          refine ⟨_, follow_of_step_concluded reaches within look.step_eq, fun _ => ?_, nofun⟩
          rw [← after_queryId reaches]
          rfl
      | false =>
          obtain ⟨conclusion, stepped, timesOut⟩ := timesOut_of_late limited reaches fired late
          exact ⟨conclusion, follow_of_step_concluded reaches within stepped, nofun,
            fun _ => timesOut⟩

/-! ### Two and a half waits -/

/-- The query runs and runs, and is looked at every microsecond. -/
def hurried : Poller :=
  { interval := 1000, retry := { interval := 1000 }, killOnInterrupt := false
    timeout := some 2500 }

def runsOn : World Rehearsal.Script :=
  scripted (List.replicate 4 { outcome := .ok { state := .running } })

/-- The third check is the last one. -/
theorem keepsDeadline_runsOn :
    ∃ conclusion,
      hurried.pollUntilTerminal (Rehearsal.environment false default) ⟨0⟩ 4 freshQuery runsOn =
        some conclusion ∧
      (conclusion.world.checks runsOn).length = 3 ∧ hurried.interval = 1000 ∧
      (2500 : Nat) ⌈/⌉ (1000 : Nat) = 3 ∧
      (conclusion.world.checks runsOn).length ≤ (2500 : Nat) ⌈/⌉ (1000 : Nat) ∧
      ∃ progress, TimesOut (Rehearsal.environment false default) freshQuery runsOn 2500 3 progress
        conclusion := by
  have keeps := keepsDeadline (Rehearsal.environment false default) ⟨0⟩ freshQuery runsOn
    (by decide : 0 < hurried.interval) (rfl : hurried.timeout = some 2500)
  have fourth : ∃ progress : Progress Rehearsal.Script,
      Reaches hurried (Rehearsal.environment false default) ⟨0⟩ freshQuery runsOn 3 progress ∧
        Late (Rehearsal.environment false default) runsOn 2500 progress ∧
        progress.world.isFired ⟨0⟩ = false :=
    ⟨_, rfl, Nat.le_of_ble_eq_true rfl, rfl⟩
  obtain ⟨progress, reaches, late, unfired⟩ := fourth
  obtain ⟨conclusion, ends, -, timesOut⟩ := (keeps.late 3 progress reaches late).2 4 (by decide)
  have ended : ∃ conclusion, hurried.pollUntilTerminal (Rehearsal.environment false default) ⟨0⟩ 4
      freshQuery runsOn = some conclusion ∧ (conclusion.world.checks runsOn).length = 3 :=
    ⟨_, rfl, rfl⟩
  obtain ⟨again, endsAgain, three⟩ := ended
  cases ends.symm.trans endsAgain
  exact ⟨conclusion, ends, three, rfl, rfl, (keeps.checks 4 conclusion ends).2, progress,
    timesOut unfired⟩

end Poller

end RemoteQuery
