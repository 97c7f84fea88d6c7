import RemoteQuery.Proofs.Cursor.Delivery
import RemoteQuery.Proofs.Disturbance.Cursor

/-! # Sessions in disturbed surroundings

A session tells the same in a disturbed world as in the undisturbed one, as long as all is
calm. A call that fails for now too often in a row is the last one of its session.
-/

namespace RemoteQuery

open Calendar (Duration Instant)
open RetryPolicy (Calm Keeps)

variable {σ : Type} {calendar : Duration → Instant} {environment : Environment σ}
  {policy : RetryPolicy} {token : Token} {world last : World σ}
  {shadow lastShadow : World (Disturbed σ)}

/-! ## Launches -/

theorem BulkSource.askColumns_shadows {location : Location} {subject : Subject}
    {retry : RetryPolicy} {columns columnsShadow : Except Fault (List Column)}
    (shadows : world.Shadows subject.database subject.catalog false shadow)
    (asked : askColumns environment location subject retry token world = (columns, last))
    (askedShadow : askColumns environment.disturbed location subject retry token shadow =
      (columnsShadow, lastShadow))
    (calm : Calm retry environment.step subject.database subject.catalog none
      (lastShadow.since shadow))
    (unfired : last.isFired token = false) :
    columnsShadow = columns ∧
      last.Shadows subject.database subject.catalog false lastShadow := by
  unfold askColumns at asked askedShadow
  cases named : location.table with
  | some table =>
      rw [named] at asked askedShadow
      exact RetryPolicy.run_shadows (.schema table) rfl (by simp) shadows asked askedShadow calm
        unfired
  | none =>
      rw [named] at asked askedShadow
      rcases ran : retry.run environment subject.scope token
        (environment.askResults subject.queryId none 1) world with ⟨part, reached⟩
      rcases ranShadow : retry.run environment.disturbed subject.scope token
        (environment.disturbed.askResults subject.queryId none 1) shadow with
        ⟨partShadow, reachedShadow⟩
      simp only [ran] at asked
      simp only [ranShadow] at askedShadow
      cases asked
      cases askedShadow
      rcases RetryPolicy.run_shadows (.results subject.queryId none 1) rfl (by simp) shadows ran
        ranShadow calm unfired with ⟨rfl, shadowsLast⟩
      exact ⟨rfl, shadowsLast⟩

namespace Cursor

variable {connection : Connection} {limit more : Nat} {sql : String}

theorem selectSource_shadows {execution executionShadow : Execution}
    {source : Except Fault (Source σ)} {sourceShadow : Except Fault (Source (Disturbed σ))}
    (alike : execution.Alike calendar executionShadow)
    (shadows : world.Shadows execution.database execution.catalog false shadow)
    (selected : selectSource connection environment token execution world = (source, last))
    (selectedShadow : selectSource connection environment.disturbed token executionShadow shadow =
      (sourceShadow, lastShadow))
    (calm : Calm connection.config.retryPolicy environment.step execution.database execution.catalog
      none (lastShadow.since shadow))
    (unfired : last.isFired token = false) :
    sourceShadow = source.map Source.disturbed ∧
      last.Shadows execution.database execution.catalog false lastShadow := by
  unfold selectSource at selected selectedShadow
  rw [alike.location_eq, alike.subject_eq] at selectedShadow
  cases format : connection.config.resultFormat with
  | direct =>
      simp only [format] at selected selectedShadow
      cases selected
      cases selectedShadow
      exact ⟨rfl, shadows⟩
  | bulk =>
      cases located : execution.location with
      | none =>
          simp only [format, located] at selected selectedShadow
          cases selected
          cases selectedShadow
          exact ⟨rfl, shadows⟩
      | some location =>
          have stores : environment.disturbed.object = environment.object.map _ := rfl
          cases stored : environment.object with
          | none =>
              simp only [format, located, stored] at selected
              simp only [format, located, stores, stored, Option.map_none] at selectedShadow
              cases selected
              cases selectedShadow
              exact ⟨rfl, shadows⟩
          | some object =>
              simp only [format, located, stored] at selected
              simp only [format, located, stores, stored, Option.map_some] at selectedShadow
              rcases asked : BulkSource.askColumns environment location execution.subject
                connection.config.retryPolicy token world with ⟨columns, reached⟩
              rcases askedShadow : BulkSource.askColumns environment.disturbed location
                execution.subject connection.config.retryPolicy token shadow with
                ⟨columnsShadow, reachedShadow⟩
              simp only [BulkSource.prepare, asked] at selected
              simp only [BulkSource.prepare, askedShadow] at selectedShadow
              cases selected
              cases selectedShadow
              rcases BulkSource.askColumns_shadows shadows asked askedShadow calm unfired with
                ⟨rfl, shadowsLast⟩
              refine ⟨?_, shadowsLast⟩
              cases columnsShadow <;> rfl

inductive Started (calendar : Duration → Instant) :
    Except Fault Execution → Except Fault Execution → Prop
  | refused (fault : Fault) : Started calendar (.error fault) (.error fault)
  | accepted {execution executionShadow : Execution}
      (alike : execution.Alike calendar executionShadow) :
      Started calendar (.ok execution) (.ok executionShadow)

theorem submit_shadows {config : Config} {started startedShadow : Except Fault Execution}
    (shadows : world.Shadows config.database config.catalog false shadow)
    (submitted : submit environment config sql world = (started, last))
    (submittedShadow : submit environment.disturbed config sql shadow =
      (startedShadow, lastShadow)) :
    Started environment.wallClock started startedShadow ∧
      last.Shadows config.database config.catalog false lastShadow ∧
      lastShadow.outside.lapsesLeft = shadow.outside.lapsesLeft := by
  have drawn : environment.disturbed.random shadow.outside =
      ((environment.random world.outside).1,
        { shadow.outside with inner := (environment.random world.outside).2 }) := by
    rw [← shadows.inner]
    rfl
  unfold submit at submitted submittedShadow
  rw [drawn] at submittedShadow
  generalize environment.random world.outside = drawn at submitted submittedShadow
  rcases drawn with ⟨bits, outside⟩
  dsimp only at submitted submittedShadow
  generalize config.submission sql (RequestToken.ofRandom bits) = submission
    at submitted submittedShadow
  have ready : World.Shadows config.database config.catalog false { world with outside }
      { shadow with outside := { shadow.outside with inner := outside } } :=
    ⟨rfl, shadows.resting, shadows.retryable, shadows.fired, shadows.nextToken, shadows.calls⟩
  have asks := World.ask_calmly ready (.submit submission) (environment.submit submission)
  rcases asked : World.ask (.submit submission) (environment.submit submission)
    { world with outside } with ⟨outcome, reached⟩
  rcases askedShadow : World.ask (.submit submission)
    (Disturbed.calmly (environment.submit submission))
    { shadow with outside := { shadow.outside with inner := outside } } with
    ⟨outcomeShadow, reachedShadow⟩
  have lapses : reachedShadow.outside.lapsesLeft = shadow.outside.lapsesLeft := by
    cases askedShadow
    rfl
  rw [asked, askedShadow] at asks
  rw [show environment.askSubmit _ _ = _ from asked] at submitted
  rw [show environment.disturbed.askSubmit _ _ = _ from askedShadow] at submittedShadow
  rcases asks with ⟨same, shadowsReached⟩
  cases same
  cases outcome with
  | error error =>
      cases submitted
      cases submittedShadow
      exact ⟨.refused _, shadowsReached, lapses⟩
  | ok queryId =>
      cases submitted
      cases submittedShadow
      exact ⟨.accepted (.of (.shown _ _) (.same none)), shadowsReached, lapses⟩

theorem reachResults_shadows {result : Except Fault (Source σ)} {execution? : Option Execution}
    (shadows : world.Shadows connection.config.database connection.config.catalog false shadow)
    (timeless : connection.config.poller.timeout = none)
    (enough : limit + shadow.outside.lapsesLeft ≤ more)
    (reaches : reachResults connection environment limit sql token world =
      some (result, execution?, last))
    (unfired : last.isFired token = false) :
    ∃ resultShadow executionShadow? lastShadow,
      reachResults connection environment.disturbed more sql token shadow =
        some (resultShadow, executionShadow?, lastShadow) ∧
      (Calm connection.config.retryPolicy environment.step connection.config.database
        connection.config.catalog none
        (lastShadow.since shadow) →
        resultShadow = result.map Source.disturbed ∧
          Option.Rel (Execution.Alike environment.wallClock) execution? executionShadow? ∧
          last.Shadows connection.config.database connection.config.catalog false
            lastShadow) := by
  have submits := submit_keeps connection.config.retryPolicy environment connection.config sql world
  have submitsShadow := submit_keeps connection.config.retryPolicy environment.disturbed
    connection.config sql shadow
  unfold reachResults at reaches ⊢
  rcases submission : submit environment connection.config sql world with ⟨started, middle⟩
  rcases submissionShadow : submit environment.disturbed connection.config sql shadow with
    ⟨startedShadow, middleShadow⟩
  rw [submission] at reaches submits
  rw [submissionShadow] at submitsShadow
  rcases submit_shadows shadows submission submissionShadow with ⟨both, shadowsMiddle, lapses⟩
  cases both with
  | refused fault =>
      cases reaches
      exact ⟨_, _, _, rfl, fun _ => ⟨rfl, .none, shadowsMiddle⟩⟩
  | @accepted execution executionShadow alike =>
      rcases submits.2 execution rfl with ⟨database, catalog, fresh⟩
      rcases followed : connection.config.poller.pollUntilTerminal environment token limit
        execution middle with _ | ⟨outcome, record, settled⟩
      · simp [followed] at reaches
      · have unfiredYet : settled.isFired token = false := by
          simp only [followed] at reaches
          cases outcome with
          | error fault =>
              cases reaches
              exact unfired
          | ok =>
              have selects := (selectSource_keeps connection environment token record
                settled).1.leads
              cases reaches
              exact selects.unfired unfired
        rw [← database, ← catalog] at shadowsMiddle
        rcases Poller.pollUntilTerminal_shadows alike shadowsMiddle timeless followed unfiredYet
          (lapses ▸ enough) with ⟨⟨outcomeShadow, recordShadow, settledShadow⟩, followedShadow,
            alikeSettled⟩
        have follows := Poller.pollUntilTerminal_keeps followedShadow
        have sameSubject := (Poller.pollUntilTerminal_accounted fresh followed).subject_eq
        rw [alike.database_eq, alike.catalog_eq, database, catalog] at follows
        rw [database, catalog] at alikeSettled
        simp only [followed] at reaches
        simp only [followedShadow]
        -- Only a query that fails in the disturbed world may have met too many failures.
        cases outcomeShadow with
        | error fault =>
            refine ⟨_, _, _, rfl, fun calm => ?_⟩
            rcases alikeSettled ((submitsShadow.1.calm_split follows.leads).mp calm) with
              ⟨same, alikeRecord, shadowsSettled⟩
            cases same
            cases reaches
            exact ⟨rfl, .some alikeRecord, shadowsSettled⟩
        | ok ended =>
            cases ended
            rcases alikeSettled follows.kept.calm with ⟨same, alikeRecord, shadowsSettled⟩
            cases same
            have sameDatabase : record.database = connection.config.database :=
              (congrArg Subject.database sameSubject).trans database
            have sameCatalog : record.catalog = connection.config.catalog :=
              (congrArg Subject.catalog sameSubject).trans catalog
            rcases selected : selectSource connection environment token record settled with
              ⟨source, reached⟩
            rcases selectedShadow : selectSource connection environment.disturbed token
              recordShadow settledShadow with ⟨sourceShadow, reachedShadow⟩
            have selects := (selectSource_keeps connection environment.disturbed token
              recordShadow settledShadow).1.leads
            rw [selectedShadow] at selects
            simp only [selected] at reaches
            simp only [selectedShadow]
            cases reaches
            refine ⟨_, _, _, rfl, fun calm => ?_⟩
            have calmSelect := ((submitsShadow.1.trans follows).calm_split selects).mp calm
            rw [← sameDatabase, ← sameCatalog] at calmSelect shadowsSettled ⊢
            rcases selectSource_shadows alikeRecord shadowsSettled selected selectedShadow
              calmSelect unfired with ⟨same, shadowsReached⟩
            exact ⟨same, .some alikeRecord, shadowsReached⟩

theorem openResults_agrees {source : Source σ} {cursor : Cursor σ} {subject : Subject}
    {cursorShadow : Cursor (Disturbed σ)} {made : Except Fault Unit × Cursor σ × World σ}
    {madeShadow : Except Fault Unit × Cursor (Disturbed σ) × World (Disturbed σ)}
    (uses : source.Uses policy subject token) (alike : cursor.Alike calendar cursorShadow)
    (shadows : world.Shadows subject.database subject.catalog false shadow)
    (opens : openResults environment source cursor world = made)
    (opensShadow : openResults environment.disturbed source.disturbed cursorShadow shadow =
      madeShadow)
    (calm : Calm policy environment.step subject.database subject.catalog none
      (madeShadow.2.2.since shadow))
    (unfired : made.2.2.isFired token = false) :
    Agrees calendar subject.database subject.catalog made madeShadow := by
  unfold openResults at opens opensShadow
  rcases stepped : ({ source } : Pager σ).next environment world with ⟨page?, pager, reached⟩
  rcases steppedShadow : ({ source := source.disturbed } : Pager (Disturbed σ)).next
    environment.disturbed shadow with ⟨pageShadow?, pagerShadow, reachedShadow⟩
  rw [stepped] at opens
  rw [steppedShadow] at opensShadow
  have ends : made.2.2 = reached := by
    rcases page? with _ | _ | _ <;> cases opens <;> rfl
  have endsShadow : madeShadow.2.2 = reachedShadow := by
    rcases pageShadow? with _ | _ | _ <;> cases opensShadow <;> rfl
  rw [ends] at unfired
  rw [endsShadow] at calm
  rcases Pager.next_shadows (show Source.Uses policy subject token
    ({ source } : Pager σ).source from uses) shadows stepped steppedShadow calm unfired with
    ⟨rfl, rfl, shadowsReached⟩
  rcases pageShadow? with fault | _ | page
  · cases opens
    cases opensShadow
    exact ⟨rfl, alike, shadowsReached⟩
  · cases opens
    cases opensShadow
    rcases alike with ⟨records⟩
    exact ⟨rfl, .of records, shadowsReached⟩
  · cases opens
    cases opensShadow
    exact ⟨rfl, (alike.recordUpdateCount page).filled page.columns page.rows pager,
      shadowsReached⟩

theorem run_transparent {cursor : Cursor σ} {cursorShadow : Cursor (Disturbed σ)}
    {made : Except Fault Unit × Cursor σ × World σ}
    (alike : cursor.Alike environment.wallClock cursorShadow)
    (shadows : world.Shadows connection.config.database connection.config.catalog false shadow)
    (timeless : connection.config.poller.timeout = none)
    (enough : limit + shadow.outside.lapsesLeft ≤ more)
    (ran : run connection environment limit sql token cursor world = some made)
    (unfired : made.2.2.isFired token = false) :
    Transparent connection.config.retryPolicy environment.step connection.config.database
      connection.config.catalog environment.wallClock shadow made
      (run connection environment.disturbed more sql token cursorShadow shadow) := by
  unfold run at ran ⊢
  rcases reaches : reachResults connection environment limit sql token world with
    _ | ⟨result, execution?, reached⟩
  · simp [reaches] at ran
  · rcases reachResults_keeps reaches with ⟨keeps, usesFound⟩
    have unfiredYet : reached.isFired token = false := by
      rw [reaches] at ran
      cases result with
      | error fault =>
          cases ran
          exact unfired
      | ok source =>
          rcases usesFound source rfl with ⟨subject, database, catalog, uses⟩
          have opens := (openResults_keeps uses (Option.some.inj ran)).1.leads
          exact opens.unfired unfired
    rcases reachResults_shadows shadows timeless enough reaches unfiredYet with
      ⟨resultShadow, executionShadow?, reachedShadow, reachesShadow, agrees⟩
    rcases reachResults_keeps reachesShadow with ⟨keepsShadow, usesShadow⟩
    have recorded (records : Option.Rel (Execution.Alike environment.wallClock) execution?
        executionShadow?) : Alike environment.wallClock
          { cursor with execution := execution? }
          { cursorShadow with execution := executionShadow? } := by
      rcases alike with ⟨-⟩
      exact .of records
    rw [reaches] at ran
    rw [reachesShadow]
    cases resultShadow with
    | error fault =>
        refine ⟨_, rfl, fun calm => ?_⟩
        rcases agrees calm with ⟨same, records, shadowsReached⟩
        cases result with
        | ok source => cases same
        | error found =>
            cases same
            cases ran
            exact ⟨rfl, recorded records, shadowsReached⟩
    | ok sourceShadow =>
        rcases agrees keepsShadow.kept.calm with ⟨same, records, shadowsReached⟩
        cases result with
        | error found => cases same
        | ok source =>
            cases same
            rcases usesFound source rfl with ⟨subject, database, catalog, uses⟩
            have opens : reachedShadow.LeadsTo
                (openResults environment.disturbed source.disturbed
                  { cursorShadow with execution := executionShadow? } reachedShadow).2.2 :=
              (openResults_keeps (Source.disturbed_uses uses) rfl).1.leads
            refine ⟨_, rfl, fun calm => ?_⟩
            have calmOpening := (keepsShadow.calm_split opens).mp calm
            rw [← database, ← catalog] at calmOpening shadowsReached ⊢
            exact openResults_agrees uses (recorded records) shadowsReached
              (Option.some.inj ran) rfl calmOpening unfired

section

variable {cursor : Cursor σ} {cursorShadow : Cursor (Disturbed σ)} {database catalog : String}

theorem renewToken_shadows (alike : cursor.Alike calendar cursorShadow)
    (shadows : world.Shadows database catalog false shadow) :
    (cursor.renewToken world).1.Alike calendar (cursorShadow.renewToken shadow).1 ∧
      (cursor.renewToken world).2.Shadows database catalog false
        (cursorShadow.renewToken shadow).2 ∧
      (cursorShadow.renewToken shadow).2.outside = shadow.outside := by
  unfold renewToken
  rw [alike.token_eq, shadows.isFired_eq]
  split
  · have sameToken : shadow.mint.1 = world.mint.1 := congrArg Token.mk shadows.nextToken
    refine ⟨?_, shadows.mint, rfl⟩
    dsimp only
    rw [sameToken]
    rcases alike with ⟨records⟩
    exact .of records
  · exact ⟨alike, shadows, rfl⟩

variable {made : Except Fault Unit × Cursor σ × World σ}

theorem executeWith_transparent (alike : cursor.Alike environment.wallClock cursorShadow)
    (shadows : world.Shadows connection.config.database connection.config.catalog false shadow)
    (timeless : connection.config.poller.timeout = none)
    (enough : limit + shadow.outside.lapsesLeft ≤ more)
    (executed : cursor.executeWith connection environment limit sql token world = some made)
    (unfired : made.2.2.isFired token = false) :
    Transparent connection.config.retryPolicy environment.step connection.config.database
      connection.config.catalog environment.wallClock shadow made
      (cursorShadow.executeWith connection environment.disturbed more sql token shadow) := by
  unfold executeWith at executed ⊢
  rw [alike.state_eq]
  split at executed
  · rename_i closed
    cases executed
    simp only [closed, if_true]
    exact ⟨_, rfl, fun _ => ⟨rfl, alike, shadows⟩⟩
  · rename_i opened
    simp only [opened, if_false]
    have ready : Alike environment.wallClock { cursor.reset with state := .executing }
        { cursorShadow.reset with state := .executing } := by
      rcases alike with ⟨-⟩
      exact .of .none
    rcases ran : run connection environment limit sql token
      { cursor.reset with state := .executing } world with _ | ⟨outcome, after, middle⟩
    · simp [ran] at executed
    · rw [ran] at executed
      have unfiredYet : middle.isFired token = false := by
        cases outcome with
        | ok done =>
            cases executed
            exact unfired
        | error fault =>
            cases executed
            exact (renewToken_leadsTo _ middle).unfired unfired
      rcases run_transparent ready shadows timeless enough ran unfiredYet with
        ⟨⟨outcomeShadow, afterShadow, middleShadow⟩, ranShadow, agrees⟩
      have keepsShadow := (run_keeps ranShadow).1
      rw [ranShadow]
      cases outcomeShadow with
      | ok done =>
          rcases agrees keepsShadow.kept.calm with ⟨same, alikeAfter, shadowsMiddle⟩
          cases same
          cases executed
          exact ⟨_, rfl, fun _ => ⟨rfl, alikeAfter.in_state .consumable, shadowsMiddle⟩⟩
      | error fault =>
          refine ⟨_, rfl, fun calm => ?_⟩
          rw [World.since, renewToken_sent] at calm
          rcases agrees calm with ⟨same, alikeAfter, shadowsMiddle⟩
          cases same
          cases executed
          rcases renewToken_shadows (alikeAfter.in_state .failed) shadowsMiddle with
            ⟨alikeRenewed, shadowsRenewed, -⟩
          exact ⟨rfl, alikeRenewed, shadowsRenewed⟩

theorem launch_transparent {launch : Launch}
    (alike : cursor.Alike environment.wallClock cursorShadow)
    (shadows : world.Shadows connection.config.database connection.config.catalog false shadow)
    (timeless : connection.config.poller.timeout = none)
    (enough : limit + shadow.outside.lapsesLeft ≤ more)
    (launched : cursor.launch connection environment limit sql launch world = some made)
    (unfired : made.2.2.isFired (cursor.tokenFor world launch).1 = false) :
    Transparent connection.config.retryPolicy environment.step connection.config.database
      connection.config.catalog environment.wallClock shadow made
      (cursorShadow.launch connection environment.disturbed more sql launch shadow) := by
  cases launch with
  | given token => exact executeWith_transparent alike shadows timeless enough launched unfired
  | own =>
      rcases renewToken_shadows alike shadows with ⟨alikeRenewed, shadowsRenewed, sameOutside⟩
      have executed : (cursor.renewToken world).1.executeWith connection environment limit sql
          (cursor.renewToken world).1.token (cursor.renewToken world).2 = some made := launched
      rw [← sameOutside] at enough
      rcases executeWith_transparent alikeRenewed shadowsRenewed timeless enough executed unfired
        with ⟨madeShadow, executedShadow, agrees⟩
      rw [← alikeRenewed.token_eq] at executedShadow
      refine ⟨madeShadow, executedShadow, fun calm => agrees ?_⟩
      rwa [World.since, renewToken_sent]

end

end Cursor

/-! ## Sessions -/

inductive Cursor.View.Alike (calendar : Duration → Instant) (view : View) : View → Prop
  | of {execution : Option Execution}
      (records : Option.Rel (Execution.Alike calendar) view.execution execution) :
      Alike calendar view { view with execution }

structure Cursor.Report.Alike (calendar : Duration → Instant) (report shadow : Report) : Prop where
  launched : shadow.launched = report.launched
  opened : report.opened.Alike calendar shadow.opened
  fetched : List.Forall₂ (fun delivery deliveryShadow =>
    deliveryShadow.1 = delivery.1 ∧ delivery.2.Alike calendar deliveryShadow.2)
      report.fetched shadow.fetched

namespace Cursor

theorem Alike.view {cursor : Cursor σ} {cursorShadow : Cursor (Disturbed σ)}
    (alike : cursor.Alike calendar cursorShadow) (connection : Connection) :
    (cursor.view connection).Alike calendar (cursorShadow.view connection) := by
  rcases cursor with ⟨state, execution, pager, buffer, columns, token, fetchSize⟩
  rcases alike with ⟨records⟩
  cases records with
  | none => exact .of .none
  | some alike =>
      rcases alike with ⟨submitted, completed⟩
      unfold Cursor.view rowCount scannedBytes executionMillis counted
      cases connection.config.reportCounters with
      | false => exact .of (.some (.of submitted completed))
      | true => exact .of (.some (.of submitted completed))

private theorem told_alike {deliveries : List (Delivery × Cursor σ)}
    {deliveriesShadow : List (Delivery × Cursor (Disturbed σ))} (connection : Connection)
    (delivered : Delivered calendar deliveries deliveriesShadow) :
    List.Forall₂ (fun told toldShadow =>
        toldShadow.1 = told.1 ∧ View.Alike calendar told.2 toldShadow.2)
      (deliveries.map fun delivery => (delivery.1, delivery.2.view connection))
      (deliveriesShadow.map fun delivery => (delivery.1, delivery.2.view connection)) := by
  induction delivered with
  | nil => exact .nil
  | cons first rest induction => exact .cons ⟨first.1, first.2.view connection⟩ induction

theorem session_transparent {cursor : Cursor σ} {cursorShadow : Cursor (Disturbed σ)}
    {launch : Launch} {fetches : List Fetch} {report : Report}
    (alike : cursor.Alike environment.wallClock cursorShadow)
    (shadows : world.Shadows connection.config.database connection.config.catalog false shadow)
    (timeless : connection.config.poller.timeout = none)
    (enough : limit + shadow.outside.lapsesLeft ≤ more)
    (ran : cursor.session connection environment limit sql launch fetches world =
      some (report, last))
    (unfired : last.isFired (cursor.tokenFor world launch).1 = false) :
    ∃ reportShadow lastShadow,
      cursorShadow.session connection environment.disturbed more sql launch fetches shadow =
        some (reportShadow, lastShadow) ∧
      (Calm connection.config.retryPolicy environment.step connection.config.database
        connection.config.catalog none
        (lastShadow.since shadow) →
        report.Alike environment.wallClock reportShadow ∧
          last.Shadows connection.config.database connection.config.catalog false
            lastShadow) := by
  unfold session at ran ⊢
  rcases launched : cursor.launch connection environment limit sql launch world with
    _ | ⟨result, opened, middle⟩
  · simp [launched] at ran
  · rcases launch_keeps launched with ⟨keeps, uses, refuses⟩
    simp only [launched, Option.map_eq_some_iff] at ran
    rcases ran with ⟨⟨deliveries, settled⟩, fetched, same⟩
    cases same
    have unfiredYet : middle.isFired (cursor.tokenFor world launch).1 = false := by
      cases result with
      | ok done =>
          rcases uses rfl with ⟨subject, database, catalog, usesOpened⟩
          exact (fetchEach_keeps usesOpened fetched).leads.unfired unfired
      | error fault =>
          rcases Option.ne_none_iff_exists'.mp (refuses fun wrong => by cases wrong) with
            ⟨misuse, refused⟩
          rw [fetchEach_of_misuse refused] at fetched
          cases fetched
          exact unfired
    rcases launch_transparent alike shadows timeless enough launched unfiredYet with
      ⟨⟨resultShadow, openedShadow, middleShadow⟩, launchedShadow, agrees⟩
    rcases launch_keeps launchedShadow with ⟨keepsShadow, -, refusesShadow⟩
    simp only [launchedShadow]
    cases resultShadow with
    | error fault =>
        rcases Option.ne_none_iff_exists'.mp (refusesShadow fun wrong => by cases wrong) with
          ⟨misuse, refused⟩
        rw [fetchEach_of_misuse refused]
        refine ⟨_, _, rfl, fun calm => ?_⟩
        rcases agrees calm with ⟨same, alikeOpened, shadowsMiddle⟩
        cases same
        rw [alikeOpened.state_eq] at refused
        rw [fetchEach_of_misuse refused] at fetched
        cases fetched
        exact ⟨⟨rfl, alikeOpened.view connection,
          told_alike connection (delivered_of_misuse alikeOpened _ fetches)⟩, shadowsMiddle⟩
    | ok done =>
        rcases agrees keepsShadow.kept.calm with ⟨same, alikeOpened, shadowsMiddle⟩
        cases same
        rcases uses rfl with ⟨subject, database, catalog, usesOpened⟩
        rw [← database, ← catalog] at shadowsMiddle
        rcases fetchEach_transparent (Nat.le_trans (Nat.le_add_right limit _) enough) usesOpened
          alikeOpened shadowsMiddle fetched unfired with
          ⟨deliveriesShadow, lastShadow, fetchedShadow, agreesLater⟩
        have leads := (fetchEach_keeps (alikeOpened.uses usesOpened) fetchedShadow).leads
        rw [fetchedShadow]
        refine ⟨_, _, rfl, fun calm => ?_⟩
        have calmLater := (keepsShadow.calm_split leads).mp calm
        rw [← database, ← catalog] at calmLater ⊢
        rcases agreesLater calmLater with ⟨delivered, shadowsLast⟩
        exact ⟨⟨rfl, alikeOpened.view connection, told_alike connection delivered⟩, shadowsLast⟩

/-- Failures in front of the answers that a session waits for do not matter if they can be made
good: where a session without a timeout comes to an end and its token is not fired, so does
the same session with such failures, and if each of them leaves room for another attempt, it
tells the same. In any surroundings, a session in which calls fail for now as often in a row as
the policy has attempts ends there, and its first fault tells the last of these failures. -/
theorem session_disturbed (connection : Connection) (environment : Environment σ) (limit : Nat)
    (sql : String) (launch : Launch) (fetches : List Fetch) (cursor : Cursor σ)
    (world : World σ) {report : Report} {last : World σ}
    (ran : cursor.session connection environment limit sql launch fetches world =
      some (report, last)) :
    (connection.config.queryTimeoutMillis = none →
      last.isFired (cursor.tokenFor world launch).1 = false →
      ∀ upcoming : List (List Lapse),
        (∀ block ∈ upcoming, ∀ lapse ∈ block, lapse.error.isRetryable
          connection.config.database connection.config.catalog = true) →
        ∀ more ≥ limit + (world.disturbed upcoming).outside.lapsesLeft,
          ∃ reportShadow lastShadow,
            cursor.disturbed.session connection environment.disturbed more sql launch fetches
                (world.disturbed upcoming) = some (reportShadow, lastShadow) ∧
              (Calm connection.config.retryPolicy environment.step connection.config.database
                  connection.config.catalog none (lastShadow.since (world.disturbed upcoming)) →
                report.Alike environment.wallClock reportShadow ∧
                  ((last.since world).map (·.call)).Sublist
                    ((lastShadow.since (world.disturbed upcoming)).map (·.call)))) ∧
    (∀ before block after, last.since world = before ++ block ++ after →
      (∀ sent ∈ block, (sent.setback? connection.config.database
        connection.config.catalog).isSome = true) →
      block.length = max 1 connection.config.retryMaxAttempts.toNat →
      after = [] ∧ ∃ final time error queryId, block.getLast? = some final ∧
        final.setback? connection.config.database connection.config.catalog =
          some (time, error) ∧
        report.fault? =
          some (.terminal (some queryId) (RetryPolicy.exhaustedMessage error.message))) := by
  have keeps := session_keeps ran
  refine ⟨fun timeless unfired upcoming retryable more enough => ?_,
    fun before block after parts setbacks long => ?_⟩
  · have sameTimeout : connection.config.poller.timeout = none := by
      rw [Config.poller, Config.queryTimeout, timeless]
      rfl
    rcases session_transparent cursor.alike_disturbed (World.shadows_disturbed world retryable)
      sameTimeout enough ran unfired with ⟨reportShadow, lastShadow, ranShadow, agrees⟩
    refine ⟨reportShadow, lastShadow, ranShadow, fun calm => ?_⟩
    rcases agrees calm with ⟨same, shadows⟩
    have calls := shadows.calls
    rw [keeps.leads.sent_eq, (session_keeps ranShadow).leads.sent_eq, List.map_append,
      List.map_append] at calls
    exact ⟨same, (List.append_sublist_append_left _).mp calls⟩
  · have kept := keeps.kept
    rw [parts] at kept
    exact kept.ends_of_block ⟨setbacks, long⟩

/-! ### A busy service -/

def impatient : Connection :=
  { config := { retryMaxAttempts := 2 }, sentinels := {} }

def scriptedCursor : Cursor Rehearsal.Script :=
  { token := ⟨0⟩, fetchSize := 1000 }

/-- The service is busy when the query is looked at, and again when its results are asked
for. -/
def busyNowAndThen : List (List Lapse) :=
  [[{ error := .operational "busy" }], [{ error := .operational "busy" }]]

def busyTwice : List (List Lapse) :=
  [[{ error := .operational "busy" }, { error := .operational "busy", delay := 5 }]]

theorem session_disturbed_busy :
    (∃ report last reportShadow lastShadow,
      scriptedCursor.session impatient (Rehearsal.environment false default) 4
        "SELECT c FROM t" .own [.many (some 3), .one] succeedsAtOnce = some (report, last) ∧
      scriptedCursor.disturbed.session impatient (Rehearsal.environment false default).disturbed 6
        "SELECT c FROM t" .own [.many (some 3), .one] (succeedsAtOnce.disturbed busyNowAndThen) =
          some (reportShadow, lastShadow) ∧
      report.Alike (Rehearsal.environment false default).wallClock reportShadow) ∧
    (∃ report last queryId,
      scriptedCursor.disturbed.session impatient (Rehearsal.environment false default).disturbed 4
        "SELECT c FROM t" .own [.all] (succeedsAtOnce.disturbed busyTwice) =
          some (report, last) ∧
      report.fault? =
        some (.terminal (some queryId) (RetryPolicy.exhaustedMessage "busy"))) := by
  constructor
  · have ends : (scriptedCursor.session impatient (Rehearsal.environment false default) 4
        "SELECT c FROM t" .own [.many (some 3), .one] succeedsAtOnce).any
          (fun ran => !ran.2.isFired ⟨0⟩) = true := by
      decide +kernel
    have calm : ∀ ran, scriptedCursor.disturbed.session impatient
        (Rehearsal.environment false default).disturbed 6 "SELECT c FROM t" .own
        [.many (some 3), .one] (succeedsAtOnce.disturbed busyNowAndThen) = some ran →
        Calm impatient.config.retryPolicy (Rehearsal.environment false default).step
          impatient.config.database impatient.config.catalog none
          (ran.2.since (succeedsAtOnce.disturbed busyNowAndThen)) := by
      decide +kernel
    rcases (Option.any_eq_true _ _).mp ends with ⟨⟨report, last⟩, ran, unfired⟩
    have unfired : last.isFired ⟨0⟩ = false := by simpa using unfired
    have disturbed := session_disturbed impatient (Rehearsal.environment false default) 4
      "SELECT c FROM t" .own [.many (some 3), .one] scriptedCursor succeedsAtOnce ran
    rcases disturbed.1 rfl unfired busyNowAndThen (by decide +kernel) 6 (by decide) with
      ⟨reportShadow, lastShadow, ranShadow, same⟩
    exact ⟨report, last, reportShadow, lastShadow, ran, ranShadow, (same (calm _ ranShadow)).1⟩
  · let calls (last : World (Disturbed Rehearsal.Script)) :=
      last.since (succeedsAtOnce.disturbed busyTwice)
    let setback? (sent : Sent) :=
      sent.setback? impatient.config.database impatient.config.catalog
    -- Behind the submission, there are two calls, which fail for now.
    have ends : (scriptedCursor.disturbed.session impatient
        (Rehearsal.environment false default).disturbed 4 "SELECT c FROM t" .own [.all]
        (succeedsAtOnce.disturbed busyTwice)).any (fun ran =>
          ((calls ran.2).drop 1).all (fun sent => (setback? sent).isSome) &&
          ((calls ran.2).drop 1).length == 2 &&
          (((calls ran.2).drop 1).getLast?.bind setback?).map (·.2.message) == some "busy") =
          true := by
      decide +kernel
    rcases (Option.any_eq_true _ _).mp ends with ⟨⟨report, last⟩, ran, facts⟩
    simp only [Bool.and_eq_true, List.all_eq_true, beq_iff_eq] at facts
    rcases facts with ⟨⟨setbacks, long⟩, message⟩
    have disturbed := session_disturbed impatient (Rehearsal.environment false default).disturbed
      4 "SELECT c FROM t" .own [.all] scriptedCursor.disturbed
      (succeedsAtOnce.disturbed busyTwice) ran
    rcases disturbed.2 ((calls last).take 1) ((calls last).drop 1) []
      (by rw [List.append_nil, List.take_append_drop]) setbacks long with
      ⟨-, final, time, error, queryId, isLast, setback, fault⟩
    have told : error.message = "busy" := by
      rw [isLast, Option.bind_some, show setback? final = _ from setback] at message
      exact Option.some.inj message
    exact ⟨report, last, queryId, ran, told ▸ fault⟩

end Cursor

end RemoteQuery
