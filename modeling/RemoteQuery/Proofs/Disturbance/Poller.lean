import RemoteQuery.Proofs.Disturbance.Basic
import RemoteQuery.Proofs.Poller.Budget

/-! # Following a query in disturbed surroundings

A look that meets an extra failure leaves the query where it was. All other looks go as in
the undisturbed world, so the query comes to the same end if all is calm.
-/

namespace RemoteQuery

open Calendar (Duration Instant)

/-! ## Records that differ in times only -/

/-- Two times are the same, or the calendar has shown both of them. -/
inductive TimesAlike (calendar : Duration → Instant) : Option Instant → Option Instant → Prop
  | same (time : Option Instant) : TimesAlike calendar time time
  | shown (left right : Duration) :
      TimesAlike calendar (some (calendar left)) (some (calendar right))

namespace Execution

inductive Alike (calendar : Duration → Instant) (execution : Execution) : Execution → Prop
  | of {submittedAt : Instant} {completedAt : Option Instant}
      (submitted : TimesAlike calendar (some execution.submittedAt) (some submittedAt))
      (completed : TimesAlike calendar execution.completedAt completedAt) :
      Alike calendar execution { execution with submittedAt, completedAt }

namespace Alike

variable {calendar : Duration → Instant} {execution shadow : Execution}

theorem queryId_eq (alike : execution.Alike calendar shadow) :
    shadow.queryId = execution.queryId := by
  cases alike
  rfl

theorem subject_eq (alike : execution.Alike calendar shadow) :
    shadow.subject = execution.subject := by
  cases alike
  rfl

theorem isTerminal_eq (alike : execution.Alike calendar shadow) :
    shadow.isTerminal = execution.isTerminal := by
  cases alike
  rfl

theorem database_eq (alike : execution.Alike calendar shadow) :
    shadow.database = execution.database :=
  congrArg Subject.database alike.subject_eq

theorem catalog_eq (alike : execution.Alike calendar shadow) :
    shadow.catalog = execution.catalog :=
  congrArg Subject.catalog alike.subject_eq

theorem location_eq (alike : execution.Alike calendar shadow) :
    shadow.location = execution.location := by
  cases alike
  rfl

theorem verdict?_eq (alike : execution.Alike calendar shadow) :
    Poller.verdict? shadow = Poller.verdict? execution := by
  cases alike
  rfl

private theorem timesAlike_completed {completedAt completedShadow : Option Instant}
    (completed : TimesAlike calendar completedAt completedShadow) (status : Status)
    (time timeShadow : Duration) :
    TimesAlike calendar
      (if status.state.isTerminal then some (status.completedAt.getD (calendar time))
        else completedAt)
      (if status.state.isTerminal then some (status.completedAt.getD (calendar timeShadow))
        else completedShadow) := by
  split
  · cases status.completedAt with
    | none => exact .shown time timeShadow
    | some told => exact .same (some told)
  · exact completed

theorem applyStatus (alike : execution.Alike calendar shadow) (status : Status)
    (time timeShadow : Duration) :
    (execution.applyStatus status (calendar time)).Alike calendar
      (shadow.applyStatus status (calendar timeShadow)) := by
  rw [Execution.applyStatus, Execution.applyStatus, alike.isTerminal_eq]
  rcases alike with ⟨submitted, completed⟩
  split
  · exact .of submitted completed
  · exact .of submitted (timesAlike_completed completed status time timeShadow)

theorem markFailed (alike : execution.Alike calendar shadow) (message : String)
    (time timeShadow : Duration) :
    (execution.markFailed message (calendar time)).Alike calendar
      (shadow.markFailed message (calendar timeShadow)) := by
  rw [Execution.markFailed, Execution.markFailed, alike.isTerminal_eq]
  rcases alike with ⟨submitted, completed⟩
  split
  · exact .of submitted completed
  · exact .of submitted (.shown time timeShadow)

theorem recordUpdateCount (alike : execution.Alike calendar shadow) (count : UInt64) :
    (execution.recordUpdateCount count).Alike calendar (shadow.recordUpdateCount count) := by
  rcases alike with ⟨submitted, completed⟩
  exact .of submitted completed

end Alike

end Execution

/-! ## One look in both worlds -/

namespace Poller

open RetryPolicy (Calm)

variable {σ : Type} {poller : Poller} {environment : Environment σ} {token : Token}
  {started startedShadow : Duration} {stretch : Option Stretch}

/-- A query stands in a disturbed world where it stands in an undisturbed one, but for the
failing looks: there are at least as many of them, and they have taken at least as long. -/
structure Progress.Alike (calendar : Duration → Instant) (progress : Progress σ)
    (shadow : Progress (Disturbed σ)) : Prop where
  execution : progress.execution.Alike calendar shadow.execution
  world : progress.world.Shadows progress.execution.database progress.execution.catalog false
    shadow.world
  failing : ∀ failing ∈ progress.failing, ∃ more ∈ shadow.failing, failing.count ≤ more.count ∧
    Paced failing.since progress.world.clock more.since shadow.world.clock
  past : ∀ more ∈ shadow.failing, more.since ≤ shadow.world.clock

structure Conclusion.Alike (calendar : Duration → Instant) (database catalog : String)
    (conclusion : Conclusion σ) (shadow : Conclusion (Disturbed σ)) : Prop where
  outcome : shadow.outcome = conclusion.outcome
  execution : conclusion.execution.Alike calendar shadow.execution
  world : conclusion.world.Shadows database catalog false shadow.world

/-- What a look leads to in a disturbed world: it uses up the budget, it is the first one of
a pair of looks at the same status, or it leads to what it leads to in the undisturbed
world. -/
inductive Mirrored (poller : Poller) (environment : Environment σ) (stretch : Option Stretch)
    (progress : Progress σ) (shadow : Progress (Disturbed σ)) :
    Step σ → Step (Disturbed σ) → Prop
  | spent {result : Step σ} {conclusion : Conclusion (Disturbed σ)}
      (wild : ¬Calm poller.retry environment.step progress.execution.database
        progress.execution.catalog stretch (conclusion.world.since shadow.world)) :
      Mirrored poller environment stretch progress shadow result (.concluded conclusion)
  | delayed {result : Step σ} {next : Progress (Disturbed σ)}
      (alike : progress.Alike environment.wallClock next)
      (fewer : next.world.outside.lapsesLeft < shadow.world.outside.lapsesLeft) :
      Mirrored poller environment stretch progress shadow result (.continued next)
  | concluded {conclusion : Conclusion σ} {conclusionShadow : Conclusion (Disturbed σ)}
      (alike : conclusion.Alike environment.wallClock progress.execution.database
        progress.execution.catalog
        conclusionShadow) :
      Mirrored poller environment stretch progress shadow (.concluded conclusion)
        (.concluded conclusionShadow)
  | continued {next : Progress σ} {nextShadow : Progress (Disturbed σ)}
      (alike : next.Alike environment.wallClock nextShadow)
      (fewer : nextShadow.world.outside.lapsesLeft ≤ shadow.world.outside.lapsesLeft) :
      Mirrored poller environment stretch progress shadow (.continued next) (.continued nextShadow)

variable {progress : Progress σ} {shadow : Progress (Disturbed σ)}

theorem check_of_timeless (timeless : poller.timeout = none) (environment : Environment σ)
    (token : Token) (started : Duration) (progress : Progress σ) :
    poller.check environment token started progress =
      progress.world.race token (.status progress.execution.queryId)
        (environment.status progress.execution.queryId) := by
  rw [check, overdue?, timeless]

theorem checks_of_timeless (timeless : poller.timeout = none)
    (unfired : progress.world.isFired token = false) :
    Checks poller environment token started progress :=
  ⟨unfired, by rw [overdue?, timeless]⟩

theorem not_calm_of_not_allowed {reached : World σ} {error : ServiceError}
    (failing : progress.failing = stretch.map (.ofStretch environment.step))
    (answered : poller.check environment token started progress =
      (.answered (.error error), reached))
    (retryable : error.isRetryable progress.execution.database progress.execution.catalog =
      true)
    (spent : ¬Allowed poller environment progress reached) :
    ¬Calm poller.retry environment.step progress.execution.database progress.execution.catalog
      stretch (((reached.now environment).2.now environment).2.since progress.world) := by
  rcases check_answered_since answered with ⟨time, calls⟩
  have setback := @Sent.setback?_of_failure _ _ time reached.clock
    (.status progress.execution.queryId) error rfl retryable
  have counted := failingBy_eq failing reached time progress.execution.queryId
    (some (reached.clock, .error error))
  rw [show World.since ((reached.now environment).2.now environment).2 progress.world = _
      from calls,
    RetryPolicy.calm_of_setback setback]
  exact fun fits => spent ((allowed_iff_fits counted).mpr fits)

private theorem failing_of_lapse (alike : progress.Alike environment.wallClock shadow)
    {reached rested : World (Disturbed σ)} (later : shadow.world.clock ≤ rested.clock)
    {failing : Failing} (member : failing ∈ progress.failing) :
    ∃ more ∈ some (shadow.failingBy environment.disturbed reached), failing.count ≤ more.count ∧
      Paced failing.since progress.world.clock more.since rested.clock := by
  rcases alike.failing failing member with ⟨more, same, fewer, paced⟩
  refine ⟨_, rfl, ?_⟩
  rw [Progress.failingBy, same]
  exact ⟨Nat.le_succ_of_le fewer, paced.later later⟩

private theorem past_failingBy (alike : progress.Alike environment.wallClock shadow)
    {reached : World (Disturbed σ)} (later : shadow.world.clock ≤ reached.clock) :
    (shadow.failingBy environment.disturbed reached).since ≤
      (reached.now environment.disturbed).1 := by
  rw [Progress.failingBy]
  cases failed : shadow.failing with
  | none => exact Nat.le_refl _
  | some failing =>
      exact Nat.le_trans (Nat.le_trans (alike.past failing failed) later) (Nat.le_add_right _ _)

/-- If both worlds meet the same failure, the looks that have failed keep their pace. -/
private theorem failingBy_paced (alike : progress.Alike environment.wallClock shadow)
    {reached : World σ} {reachedShadow : World (Disturbed σ)}
    (later : shadow.world.clock ≤ reachedShadow.clock)
    (taken : reached.clock + shadow.world.clock = reachedShadow.clock + progress.world.clock) :
    (progress.failingBy environment reached).count ≤
        (shadow.failingBy environment.disturbed reachedShadow).count ∧
      Paced (progress.failingBy environment reached).since (reached.now environment).1
        (shadow.failingBy environment.disturbed reachedShadow).since
        (reachedShadow.now environment.disturbed).1 := by
  cases failed : progress.failing with
  | none =>
      have past := past_failingBy alike later
      rw [Progress.failingBy, failed]
      refine ⟨?_, .begins _ past⟩
      rw [Progress.failingBy]
      cases shadow.failing with
      | none => exact Nat.le_refl 1
      | some more => exact Nat.le_add_left 1 more.count
  | some failing =>
      rcases alike.failing failing failed with ⟨more, same, fewer, paced⟩
      rw [Progress.failingBy, Progress.failingBy, failed, same]
      exact ⟨Nat.succ_le_succ fewer, (paced.trans taken).now environment.step⟩

private theorem mirrored_lapse {result : Step σ} {reached : World (Disturbed σ)}
    {error : ServiceError}
    (alike : progress.Alike environment.wallClock shadow)
    (failing : shadow.failing = stretch.map (.ofStretch environment.step))
    (checks : Checks poller environment.disturbed token startedShadow shadow)
    (answered : poller.check environment.disturbed token startedShadow shadow =
      (.answered (.error error), reached))
    (retryable : error.isRetryable progress.execution.database progress.execution.catalog =
      true)
    (shadows : progress.world.Shadows progress.execution.database
      progress.execution.catalog true reached)
    (fewer : reached.outside.lapsesLeft < shadow.world.outside.lapsesLeft)
    (later : shadow.world.clock ≤ reached.clock)
    (unfired : progress.world.isFired token = false) :
    Mirrored poller environment stretch progress shadow result
      (poller.step environment.disturbed token startedShadow shadow) := by
  have sameDatabase := alike.execution.database_eq
  have sameCatalog := alike.execution.catalog_eq
  rw [← sameDatabase, ← sameCatalog] at retryable
  by_cases allowed : Allowed poller environment.disturbed shadow reached
  · rcases World.extra_wait ((shadows.looks environment).looks environment) environment
      poller.interval unfired with
      ⟨rested, waited, shadowsRested, lapses, laterRested⟩
    rw [(Look.continued (.failure checks answered retryable allowed) waited).step_eq]
    have laterYet : (reached.now environment.disturbed).1 ≤ rested.clock :=
      Nat.le_trans (Nat.le_add_right _ _) laterRested
    refine .delayed ⟨alike.execution, shadowsRested, fun failing member => ?_, ?_⟩
      (lapses ▸ fewer)
    · have sinceLapse := Nat.le_trans (Nat.le_add_right _ _) laterYet
      exact failing_of_lapse alike (Nat.le_trans later sinceLapse) member
    · rintro more ⟨⟩
      exact Nat.le_trans (past_failingBy alike later) laterYet
  · rw [(Look.exhausted checks answered retryable allowed).step_eq]
    have wild := not_calm_of_not_allowed failing answered retryable allowed
    rw [sameDatabase, sameCatalog] at wild
    exact .spent wild

private theorem mirrored_rest {resting : Progress σ} {restingShadow : Progress (Disturbed σ)}
    {started startedShadow : Duration}
    (awaits : Awaits poller environment token started progress resting)
    (awaitsShadow : Awaits poller environment.disturbed token startedShadow shadow restingShadow)
    (alike : resting.Alike environment.wallClock restingShadow)
    (fewer : restingShadow.world.outside.lapsesLeft ≤ shadow.world.outside.lapsesLeft)
    (unfired : ∀ later, (poller.step environment token started progress).world? = some later →
      later.isFired token = false) :
    Mirrored poller environment stretch progress shadow
      (poller.step environment token started progress)
      (poller.step environment.disturbed token startedShadow shadow) := by
  have waits := World.wait_shadows alike.world environment token poller.interval
  rcases waited : resting.world.wait environment token poller.interval with ⟨fired, rested⟩
  rcases waitedShadow : restingShadow.world.wait environment.disturbed token poller.interval with
    ⟨firedShadow, restedShadow⟩
  rw [waited, waitedShadow] at waits
  rcases waits with ⟨same, shadows, lapses, paced⟩
  cases same
  cases fired with
  | true =>
      have stepped := (Look.firedAtRest awaits waited).step_eq
      rw [stepped] at unfired
      have fired := (poller.abort_leadsTo environment resting.execution rested).isFired
        (World.wait_isFired waited)
      rw [unfired _ rfl] at fired
      cases fired
  | false =>
      rw [(Look.continued awaits waited).step_eq,
        (Look.continued awaitsShadow waitedShadow).step_eq]
      refine .continued ⟨alike.execution, shadows, fun failing member => ?_,
        fun more member => ?_⟩ (lapses ▸ fewer)
      · rcases alike.failing failing member with ⟨more, found, fewer, pacedYet⟩
        exact ⟨more, found, fewer, pacedYet.trans paced⟩
      · have rests := restingShadow.world.wait_leadsTo environment.disturbed token poller.interval
        rw [waitedShadow] at rests
        exact Nat.le_trans (alike.past more member) rests.clock

private theorem mirrored_status {reached : World σ} {reachedShadow : World (Disturbed σ)}
    {status : Status}
    (alike : progress.Alike environment.wallClock shadow)
    (checks : Checks poller environment token started progress)
    (checksShadow : Checks poller environment.disturbed token startedShadow shadow)
    (answered : poller.check environment token started progress =
      (.answered (.ok status), reached))
    (answeredShadow : poller.check environment.disturbed token startedShadow shadow =
      (.answered (.ok status), reachedShadow))
    (shadows : reached.Shadows progress.execution.database progress.execution.catalog false
      reachedShadow)
    (fewer : reachedShadow.outside.lapsesLeft ≤ shadow.world.outside.lapsesLeft)
    (unfired : ∀ later, (poller.step environment token started progress).world? = some later →
      later.isFired token = false) :
    Mirrored poller environment stretch progress shadow
      (poller.step environment token started progress)
      (poller.step environment.disturbed token startedShadow shadow) := by
  have recordedAlike := alike.execution.applyStatus status reached.clock reachedShadow.clock
  cases fired : reached.isFired token with
  | true =>
      rw [(Look.firedWithStatus checks answered fired).step_eq] at unfired
      have stillFired := (poller.abort_leadsTo environment
        (recorded environment progress status reached) reached).isFired fired
      rw [unfired _ rfl] at stillFired
      cases stillFired
  | false =>
      have firedShadow := (shadows.isFired_eq token).trans fired
      have verdicts := recordedAlike.verdict?_eq
      cases verdict : verdict? (recorded environment progress status reached) with
      | some outcome =>
          rw [(Look.decided checks answered fired verdict).step_eq,
            (Look.decided checksShadow answeredShadow firedShadow
              (verdicts.trans verdict)).step_eq]
          exact .concluded ⟨rfl, recordedAlike, shadows⟩
      | none =>
          refine mirrored_rest (.status checks answered fired verdict)
            (.status checksShadow answeredShadow firedShadow (verdicts.trans verdict))
            ⟨recordedAlike, ?_, fun failing wrong => (by cases wrong),
              fun more wrong => (by cases wrong)⟩ fewer unfired
          rw [recorded, applyStatus_database, applyStatus_catalog]
          exact shadows

private theorem allowed_of_alike {reached : World σ} {reachedShadow : World (Disturbed σ)}
    (alike : progress.Alike environment.wallClock shadow)
    (later : shadow.world.clock ≤ reachedShadow.clock)
    (taken : reached.clock + shadow.world.clock = reachedShadow.clock + progress.world.clock)
    (allowed : Allowed poller environment.disturbed shadow reachedShadow) :
    Allowed poller environment progress reached := by
  have counts := failingBy_paced alike later taken
  exact RetryPolicy.allows_of_le allowed counts.1 (counts.2.now environment.step).elapsed

/-- The same failure is taken in the same way in both worlds, unless it is one too many in
the disturbed one. -/
private theorem mirrored_error {reached : World σ} {reachedShadow : World (Disturbed σ)}
    {error : ServiceError}
    (alike : progress.Alike environment.wallClock shadow)
    (failing : shadow.failing = stretch.map (.ofStretch environment.step))
    (checks : Checks poller environment token started progress)
    (checksShadow : Checks poller environment.disturbed token startedShadow shadow)
    (answered : poller.check environment token started progress =
      (.answered (.error error), reached))
    (answeredShadow : poller.check environment.disturbed token startedShadow shadow =
      (.answered (.error error), reachedShadow))
    (shadows : reached.Shadows progress.execution.database progress.execution.catalog false
      reachedShadow)
    (fewer : reachedShadow.outside.lapsesLeft ≤ shadow.world.outside.lapsesLeft)
    (paced : reached.clock + shadow.world.clock = reachedShadow.clock + progress.world.clock)
    (unfired : ∀ later, (poller.step environment token started progress).world? = some later →
      later.isFired token = false) :
    Mirrored poller environment stretch progress shadow
      (poller.step environment token started progress)
      (poller.step environment.disturbed token startedShadow shadow) := by
  have sameDatabase := alike.execution.database_eq
  have sameCatalog := alike.execution.catalog_eq
  have later := (check_leadsTo answeredShadow).clock
  cases retryable : error.isRetryable progress.execution.database progress.execution.catalog with
  | false =>
      have final := retryable
      rw [← sameDatabase, ← sameCatalog] at final
      rw [(Look.refused checks answered retryable).step_eq,
        (Look.refused checksShadow answeredShadow final).step_eq]
      refine .concluded ⟨?_, ?_, shadows.now environment⟩
      · rw [giveUp, giveUp, alike.execution.queryId_eq]
      · exact alike.execution.markFailed error.message _ _
  | true =>
      have retryableShadow := retryable
      rw [← sameDatabase, ← sameCatalog] at retryableShadow
      by_cases allowed : Allowed poller environment.disturbed shadow reachedShadow
      · refine mirrored_rest
          (.failure checks answered retryable (allowed_of_alike alike later paced allowed))
          (.failure checksShadow answeredShadow retryableShadow allowed)
          ⟨alike.execution, (shadows.now environment).now environment, ?_, ?_⟩ fewer unfired
        · rintro failing ⟨⟩
          have counts := failingBy_paced alike later paced
          exact ⟨_, rfl, counts.1, counts.2.now environment.step⟩
        · rintro more ⟨⟩
          exact Nat.le_trans (past_failingBy alike later) (Nat.le_add_right _ _)
      · rw [(Look.exhausted checksShadow answeredShadow retryableShadow allowed).step_eq]
        have wild := not_calm_of_not_allowed failing answeredShadow retryableShadow allowed
        rw [sameDatabase, sameCatalog] at wild
        exact .spent wild

theorem step_mirrored (alike : progress.Alike environment.wallClock shadow)
    (failing : shadow.failing = stretch.map (.ofStretch environment.step))
    (timeless : poller.timeout = none)
    (moves : poller.step environment token started progress ≠ .stuck)
    (unfired : ∀ later, (poller.step environment token started progress).world? = some later →
      later.isFired token = false) :
    Mirrored poller environment stretch progress shadow
      (poller.step environment token started progress)
      (poller.step environment.disturbed token startedShadow shadow) := by
  have unfiredYet : progress.world.isFired token = false := by
    have look := look_step poller environment token started progress
    cases stepped : poller.step environment token started progress with
    | stuck => exact absurd stepped moves
    | concluded conclusion =>
        rw [stepped] at look unfired
        exact (look.leadsTo rfl).unfired (unfired _ rfl)
    | continued next =>
        rw [stepped] at look unfired
        exact (look.leadsTo rfl).unfired (unfired _ rfl)
  have checks := @checks_of_timeless σ poller environment token started progress timeless unfiredYet
  have checksShadow := @checks_of_timeless (Disturbed σ) poller environment.disturbed token
    startedShadow shadow
    timeless ((alike.world.isFired_eq token).trans unfiredYet)
  have echoes := World.race_echoes alike.world token (.status progress.execution.queryId)
    (environment.status progress.execution.queryId)
  have checked := check_of_timeless timeless environment token started progress
  have checkedShadow : poller.check environment.disturbed token startedShadow shadow =
      shadow.world.race token (.status progress.execution.queryId)
        (Disturbed.replying (environment.status progress.execution.queryId)) := by
    rw [check_of_timeless timeless, alike.execution.queryId_eq]
    rfl
  rw [← checked, ← checkedShadow] at echoes
  rcases answered : poller.check environment token started progress with ⟨ended, reached⟩
  rcases answeredShadow : poller.check environment.disturbed token startedShadow shadow with
    ⟨endedShadow, reachedShadow⟩
  rw [answered, answeredShadow] at echoes
  cases echoes with
  | lapse retryable shadows fewer later =>
      exact mirrored_lapse alike failing checksShadow answeredShadow retryable shadows fewer later
        unfiredYet
  | answer shadows fewer paced =>
      cases ended with
      | stuck => exact absurd (Look.stuck checks answered).step_eq moves
      | interrupted =>
          rw [(Look.firedMeanwhile checks answered).step_eq] at unfired
          have fired := (poller.abort_leadsTo environment progress.execution reached).isFired
            (check_interrupted_since answered).1
          rw [unfired _ rfl] at fired
          cases fired
      | answered outcome =>
          cases outcome with
          | ok status =>
              exact mirrored_status alike checks checksShadow answered answeredShadow shadows
                fewer unfired
          | error error =>
              exact mirrored_error alike failing checks checksShadow answered answeredShadow
                shadows fewer paced unfired

/-! ## Many looks in both worlds -/

section

variable {next : Progress (Disturbed σ)}
  (alike : progress.Alike environment.wallClock shadow)
  (failing : shadow.failing = stretch.map (.ofStretch environment.step))
  (stepped : poller.step environment.disturbed token startedShadow shadow = .continued next)

include alike failing stepped

private theorem counted_of_continued :
    next.failing = (Stretch.trailing progress.execution.database progress.execution.catalog
      stretch (next.world.since shadow.world)).map (.ofStretch environment.step) := by
  have counted := (budget_of_continued failing stepped).2.2.2.2
  rwa [alike.execution.database_eq, alike.execution.catalog_eq] at counted

omit alike in
private theorem calm_of_continued {more : Nat} {ended : Conclusion (Disturbed σ)}
    (ends : poller.follow environment.disturbed token startedShadow more next = some ended)
    (calm : Calm poller.retry environment.step progress.execution.database
      progress.execution.catalog
      stretch (ended.world.since shadow.world)) :
    Calm poller.retry environment.step progress.execution.database progress.execution.catalog
      (Stretch.trailing progress.execution.database progress.execution.catalog stretch
        (next.world.since shadow.world)) (ended.world.since next.world) := by
  rw [(budget_of_continued failing stepped).1.since_eq_append (follow_leadsTo ends),
    RetryPolicy.calm_append] at calm
  exact calm.2

end

private theorem leadsTo_of_follow {limit : Nat} {conclusion : Conclusion σ}
    (ends : poller.follow environment token started (limit + 1) progress = some conclusion) :
    poller.step environment token started progress ≠ .stuck ∧
      ∀ later, (poller.step environment token started progress).world? = some later →
        later.LeadsTo conclusion.world := by
  rcases follow_cases ends with look | ⟨next, look, rest⟩
  · rw [look.step_eq]
    refine ⟨(fun wrong => by cases wrong), ?_⟩
    rintro later ⟨⟩
    exact .refl _
  · rw [look.step_eq]
    refine ⟨(fun wrong => by cases wrong), ?_⟩
    rintro later ⟨⟩
    exact follow_leadsTo rest

/-- However many looks there are in the undisturbed world, the disturbed one has an end after as
many and one more for each failure, and if all is calm, it is the same. -/
theorem follow_shadows {limit more : Nat} {conclusion : Conclusion σ}
    (alike : progress.Alike environment.wallClock shadow)
    (failing : shadow.failing = stretch.map (.ofStretch environment.step))
    (timeless : poller.timeout = none)
    (ends : poller.follow environment token started limit progress = some conclusion)
    (unfired : conclusion.world.isFired token = false)
    (enough : limit + shadow.world.outside.lapsesLeft ≤ more) :
    ∃ ended, poller.follow environment.disturbed token startedShadow more shadow = some ended ∧
      (Calm poller.retry environment.step progress.execution.database progress.execution.catalog
          stretch (ended.world.since shadow.world) →
        conclusion.Alike environment.wallClock progress.execution.database
          progress.execution.catalog ended) := by
  -- The looks of the disturbed world are counted, since an extra one leaves the other world
  -- where it is.
  induction more generalizing limit progress shadow stretch with
  | zero =>
      cases limit with
      | zero => cases ends
      | succ limit => omega
  | succ more induction =>
      cases limit with
      | zero => cases ends
      | succ limit =>
          rcases leadsTo_of_follow ends with ⟨moves, leads⟩
          have mirrored := @step_mirrored σ poller environment token started startedShadow stretch
            progress shadow alike failing timeless moves
            fun later reaches => (leads later reaches).unfired unfired
          generalize stepped : poller.step environment token started progress = result at mirrored
          generalize steppedShadow : poller.step environment.disturbed token startedShadow shadow =
            resultShadow at mirrored
          cases mirrored with
          | spent wild =>
              exact ⟨_, by rw [follow, steppedShadow], fun calm => absurd calm wild⟩
          | @delayed _ nextShadow alikeNext fewer =>
              rcases induction alikeNext (counted_of_continued alike failing steppedShadow) ends
                (by omega) with ⟨ended, endsShadow, same⟩
              refine ⟨ended, by rw [follow, steppedShadow]; exact endsShadow, fun calm => ?_⟩
              exact same (calm_of_continued failing steppedShadow endsShadow calm)
          | @concluded ended endedShadow alikeEnded =>
              rcases follow_cases ends with look | ⟨next, look, rest⟩
              · cases stepped.symm.trans look.step_eq
                exact ⟨endedShadow, by rw [follow, steppedShadow], fun _ => alikeEnded⟩
              · cases stepped.symm.trans look.step_eq
          | @continued next nextShadow alikeNext fewer =>
              rcases follow_cases ends with look | ⟨next, look, rest⟩
              · cases stepped.symm.trans look.step_eq
              · cases stepped.symm.trans look.step_eq
                rcases induction alikeNext (counted_of_continued alike failing steppedShadow)
                  rest (by omega) with ⟨ended, endsShadow, same⟩
                refine ⟨ended, by rw [follow, steppedShadow]; exact endsShadow, fun calm => ?_⟩
                have stays := budget_of_continued failing steppedShadow
                have database := alikeNext.execution.database_eq.symm.trans
                  (stays.2.1.trans alike.execution.database_eq)
                have catalog := alikeNext.execution.catalog_eq.symm.trans
                  (stays.2.2.1.trans alike.execution.catalog_eq)
                rw [database, catalog] at same
                exact same (calm_of_continued failing steppedShadow endsShadow calm)

theorem pollUntilTerminal_shadows {limit more : Nat} {execution executionShadow : Execution}
    {world : World σ} {shadow : World (Disturbed σ)} {conclusion : Conclusion σ}
    (alike : execution.Alike environment.wallClock executionShadow)
    (shadows : world.Shadows execution.database execution.catalog false shadow)
    (timeless : poller.timeout = none)
    (ends : poller.pollUntilTerminal environment token limit execution world = some conclusion)
    (unfired : conclusion.world.isFired token = false)
    (enough : limit + shadow.outside.lapsesLeft ≤ more) :
    ∃ ended, poller.pollUntilTerminal environment.disturbed token more executionShadow shadow =
        some ended ∧
      (Calm poller.retry environment.step execution.database execution.catalog none
        (ended.world.since shadow) →
        conclusion.Alike environment.wallClock execution.database execution.catalog ended) := by
  have begins : Progress.Alike environment.wallClock
      ({ execution, world := (world.now environment).2 } : Progress σ)
      { execution := executionShadow, world := (shadow.now environment.disturbed).2 } :=
    ⟨alike, shadows.now environment, fun failing wrong => (by cases wrong),
      fun more wrong => (by cases wrong)⟩
  exact @follow_shadows σ poller environment token (world.now environment).1
    (shadow.now environment.disturbed).1 none _ _ limit more
    conclusion begins rfl timeless ends unfired enough

end Poller

end RemoteQuery
