import RemoteQuery.Proofs.Poller.Record

/-! # The budget of a session

Everything that a cursor does keeps to the policy of its connection: the query is followed
under it, and so are all calls by which its results are read. A session in which a call
uses up the budget therefore ends with that call.
-/

namespace RemoteQuery

open RetryPolicy (Calm Kept Keeps)

variable {σ : Type} {environment : Environment σ} {policy : RetryPolicy} {subject : Subject}
  {token : Token}

/-! ## Sources -/

namespace Source

def Uses (policy : RetryPolicy) (subject : Subject) (token : Token) : Source σ → Prop
  | .direct source => source.retry = policy ∧ source.subject = subject ∧ source.token = token
  | .bulk source => source.retry = policy ∧ source.subject = subject ∧ source.token = token

theorem fetch_uses (environment : Environment σ) {source : Source σ}
    (uses : source.Uses policy subject token)
    (pageToken : Option String) (world : World σ) :
    (source.fetch environment pageToken world).2.1.Uses policy subject token := by
  cases source with
  | direct source =>
      simp only [fetch, DirectSource.fetch]
      split <;> exact uses
  | bulk source =>
      have nextPage (stream : FileStream) :
          (Source.bulk (source.nextPage stream).2).Uses policy subject token := by
        unfold BulkSource.nextPage
        split <;> exact uses
      simp only [fetch, BulkSource.fetch]
      split
      · split
        · exact uses
        · exact nextPage _
      · split
        · split
          · exact nextPage _
          · exact uses
        · exact uses

end Source

theorem DirectSource.fetch_keeps (environment : Environment σ) {source : DirectSource}
    (uses : (Source.direct source : Source σ).Uses policy subject token)
    (pageToken : Option String) (world : World σ) :
    policy.Keeps environment.step subject.database subject.catalog world
      (source.fetch environment pageToken world).2.2
      (Fault.of? (source.fetch environment pageToken world).1) := by
  rcases uses with ⟨rfl, rfl, rfl⟩
  have asks := source.retry.run_keeps environment source.subject source.token
    (.results source.subject.queryId pageToken source.maxRows)
    (environment.results source.subject.queryId pageToken source.maxRows) rfl (by simp) world
  unfold fetch Environment.askResults
  split
  · rename_i fault reached ran
    rw [ran] at asks
    exact asks
  · rename_i part reached ran
    rw [ran] at asks
    exact asks

theorem BulkSource.download_keeps (environment : Environment σ) {source : BulkSource σ}
    (uses : (Source.bulk source).Uses policy subject token) (world : World σ) :
    policy.Keeps environment.step subject.database subject.catalog world
      (source.download environment world).2
      (Fault.of? (source.download environment world).1) := by
  rcases uses with ⟨rfl, rfl, rfl⟩
  have asks := source.retry.run_keeps environment source.subject source.token
    (.object source.location.uri) (source.object source.location.uri) rfl (by simp) world
  unfold download
  dsimp only
  rcases ran : source.retry.run environment source.subject.scope source.token
    (fun world : World σ => world.ask (.object source.location.uri)
      (source.object source.location.uri)) world with ⟨download, reached⟩
  rw [ran] at asks
  cases download <;> exact asks

theorem BulkSource.fetch_keeps (environment : Environment σ) {source : BulkSource σ}
    (uses : (Source.bulk source).Uses policy subject token)
    (pageToken : Option String) (world : World σ) :
    policy.Keeps environment.step subject.database subject.catalog world
      (source.fetch environment pageToken world).2.2
      (Fault.of? (source.fetch environment pageToken world).1) := by
  unfold fetch
  split
  · have downloads := download_keeps environment uses world
    split
    · rename_i fault reached downloaded
      rw [downloaded] at downloads
      exact downloads
    · rename_i stream reached downloaded
      rw [downloaded] at downloads
      exact downloads.ends _
  · split
    · split
      · exact (Keeps.refl world).ends _
      · exact .refl_failed world _
    · exact .refl_failed world _

theorem Source.fetch_keeps (environment : Environment σ) {source : Source σ}
    (uses : source.Uses policy subject token)
    (pageToken : Option String) (world : World σ) :
    policy.Keeps environment.step subject.database subject.catalog world
      (source.fetch environment pageToken world).2.2
      (Fault.of? (source.fetch environment pageToken world).1) := by
  cases source with
  | direct source => exact DirectSource.fetch_keeps environment uses pageToken world
  | bulk source => exact BulkSource.fetch_keeps environment uses pageToken world

theorem Pager.next_keeps (environment : Environment σ) {pager : Pager σ}
    (uses : pager.source.Uses policy subject token)
    (world : World σ) :
    policy.Keeps environment.step subject.database subject.catalog world
        (pager.next environment world).2.2 (Fault.of? (pager.next environment world).1) ∧
      (pager.next environment world).2.1.source.Uses policy subject token := by
  unfold next
  split
  · exact ⟨.refl world, uses⟩
  · have keeps := Source.fetch_keeps environment uses pager.pageToken world
    have usesStill := Source.fetch_uses environment uses pager.pageToken world
    split
    · rename_i page source reached fetched
      rw [fetched] at keeps usesStill
      exact ⟨keeps, usesStill⟩
    · rename_i fault source reached fetched
      rw [fetched] at keeps usesStill
      exact ⟨keeps, usesStill⟩

/-! ## Fetches -/

namespace Cursor

def Uses (policy : RetryPolicy) (subject : Subject) (token : Token) (cursor : Cursor σ) :
    Prop :=
  ∀ pager ∈ cursor.pager, pager.source.Uses policy subject token

/-- How an operation of a cursor goes: it keeps to the policy, the cursor still uses the same
source, and rows can be fetched behind it exactly if it succeeds. -/
structure Goes (policy : RetryPolicy) (step : Calendar.Duration) (subject : Subject)
    (token : Token) (world : World σ) (fault? : Option Fault) (after : Cursor σ)
    (reached : World σ) : Prop where
  keeps : policy.Keeps step subject.database subject.catalog world reached fault?
  uses : after.Uses policy subject token
  consumable : after.state = .consumable ↔ fault? = none

theorem Goes.after {fault? : Option Fault} {world middle reached : World σ}
    {cursor : Cursor σ}
    (goes : Goes policy environment.step subject token middle fault? cursor reached)
    (keeps : policy.Keeps environment.step subject.database subject.catalog world middle none) :
    Goes policy environment.step subject token world fault? cursor reached :=
  { goes with keeps := keeps.trans goes.keeps }

variable {connection : Connection} {cursor after : Cursor σ} {world reached : World σ}

theorem loadPage_goes (environment : Environment σ) (consumable : cursor.state = .consumable)
    (uses : cursor.Uses policy subject token) (world : World σ) :
    Goes policy environment.step subject token world
      (Fault.of? (cursor.loadPage environment world).1)
      (cursor.loadPage environment world).2.1 (cursor.loadPage environment world).2.2 := by
  unfold loadPage
  split
  · exact ⟨.refl world, uses, iff_of_true consumable rfl⟩
  · rename_i pager atPager
    rcases Pager.next_keeps environment (uses pager atPager) world with
      ⟨keeps, usesStill⟩
    split
    · rename_i page next reached stepped
      rw [stepped] at keeps usesStill
      refine ⟨keeps, ?_, iff_of_true ((takePage_state ..).trans consumable) rfl⟩
      intro given same
      cases same
      exact usesStill
    · rename_i next reached stepped
      rw [stepped] at keeps usesStill
      refine ⟨keeps, ?_, iff_of_true consumable rfl⟩
      intro given same
      cases same
      exact usesStill
    · rename_i fault next reached stepped
      rw [stepped] at keeps usesStill
      refine ⟨keeps, ?_, iff_of_false (fun wrong => by cases wrong) (fun wrong => by cases wrong)⟩
      intro given same
      cases same
      exact usesStill

private theorem castRow_goes (cursor : Cursor σ) (consumable : cursor.state = .consumable)
    (uses : cursor.Uses policy subject token) (row : RawRow) (world : World σ) :
    Goes policy environment.step subject token world
      (Fault.of? ((cursor.castRow connection row).1.map some))
      (cursor.castRow connection row).2 world := by
  unfold castRow
  split
  · exact ⟨.refl world, uses, iff_of_true consumable rfl⟩
  · exact ⟨.refl_failed world _, uses,
      iff_of_false (fun wrong => by cases wrong) (fun wrong => by cases wrong)⟩

theorem nextRow_goes {limit : Nat} {answer : Except Fault (Option Row)}
    (consumable : cursor.state = .consumable) (uses : cursor.Uses policy subject token)
    (found : cursor.nextRow connection environment limit world =
      some (answer, after, reached)) :
    Goes policy environment.step subject token world (Fault.of? answer) after reached := by
  induction limit generalizing cursor world with
  | zero =>
      cases buffered : cursor.buffer with
      | nil => simp [nextRow.eq_def, buffered] at found
      | cons row rest =>
          rw [nextRow_of_buffered buffered] at found
          cases found
          exact castRow_goes { cursor with buffer := rest } consumable uses row _
  | succ limit induction =>
      cases buffered : cursor.buffer with
      | nil =>
          rw [nextRow_of_empty buffered] at found
          have loads := loadPage_goes environment consumable uses world
          rcases loaded : cursor.loadPage environment world with ⟨more, next, middle⟩
          rw [loaded] at found loads
          cases more with
          | error fault =>
              cases found
              exact loads
          | ok more =>
              cases more with
              | false =>
                  cases found
                  exact loads
              | true =>
                  exact (induction (loads.consumable.mpr rfl) loads.uses found).after loads.keeps
      | cons row rest =>
          rw [nextRow_of_buffered buffered] at found
          cases found
          exact castRow_goes { cursor with buffer := rest } consumable uses row _

theorem drawThen_goes {limit : Nat} {answer : Delivery}
    {rest : Cursor σ → World σ → Option (Delivery × Cursor σ × World σ)}
    (goesLater : ∀ {next after : Cursor σ} {middle reached : World σ} {answer : Delivery},
      next.state = .consumable → next.Uses policy subject token →
        rest next middle = some (answer, after, reached) →
          Goes policy environment.step subject token middle (Fault.of? answer) after reached)
    (consumable : cursor.state = .consumable) (uses : cursor.Uses policy subject token)
    (found : cursor.drawThen connection environment limit rest world =
      some (answer, after, reached)) :
    Goes policy environment.step subject token world (Fault.of? answer) after reached := by
  unfold drawThen at found
  rcases drawn : cursor.nextRow connection environment limit world with
    _ | ⟨row?, next, middle⟩
  · simp [drawn] at found
  · have goes := nextRow_goes consumable uses drawn
    rw [drawn] at found
    cases row? with
    | error fault =>
        cases found
        exact goes
    | ok row? =>
        cases row? with
        | none =>
            cases found
            exact goes
        | some row =>
            simp only [Option.map_eq_some_iff] at found
            rcases found with ⟨⟨rows, last, settled⟩, later, same⟩
            cases same
            have goesOn := goesLater (goes.consumable.mpr rfl) goes.uses later
            cases rows <;> exact goesOn.after goes.keeps

theorem fetchUpTo_goes {limit size : Nat} {answer : Delivery}
    (consumable : cursor.state = .consumable) (uses : cursor.Uses policy subject token)
    (found : cursor.fetchUpTo connection environment limit size world =
      some (answer, after, reached)) :
    Goes policy environment.step subject token world (Fault.of? answer) after reached := by
  induction size generalizing cursor world answer after reached with
  | zero =>
      cases found
      exact ⟨.refl _, uses, iff_of_true consumable rfl⟩
  | succ size induction =>
      rw [fetchUpTo_succ consumable] at found
      exact drawThen_goes induction consumable uses found

theorem fetchRest_goes {limit bound : Nat} {answer : Delivery}
    (consumable : cursor.state = .consumable) (uses : cursor.Uses policy subject token)
    (found : cursor.fetchRest connection environment limit bound world =
      some (answer, after, reached)) :
    Goes policy environment.step subject token world (Fault.of? answer) after reached := by
  induction bound generalizing cursor world answer after reached with
  | zero => cases found
  | succ bound induction =>
      rw [fetchRest_succ consumable] at found
      exact drawThen_goes induction consumable uses found

theorem fetch_goes {limit : Nat} {fetch : Fetch} {answer : Delivery}
    (uses : cursor.Uses policy subject token)
    (found : cursor.fetch connection environment limit fetch world =
      some (answer, after, reached)) :
    Goes policy environment.step subject token world (Fault.of? answer) after reached := by
  cases allowed : misuse? cursor.state with
  | some misuse =>
      rw [fetch_of_misuse allowed] at found
      cases found
      refine ⟨.refl_failed world _, uses, iff_of_false (fun wrong => ?_)
        (fun wrong => by cases wrong)⟩
      rw [(misuse?_eq_none_iff _).mpr wrong] at allowed
      cases allowed
  | none =>
      have consumable := (misuse?_eq_none_iff _).mp allowed
      cases fetch with
      | one =>
          simp only [Cursor.fetch, fetchOne_of_consumable consumable, Option.map_eq_some_iff]
            at found
          rcases found with ⟨⟨row, last, settled⟩, first, same⟩
          cases same
          have goes := nextRow_goes consumable uses first
          cases row <;> exact goes
      | many size =>
          simp only [Cursor.fetch, fetchMany, allowed] at found
          exact fetchUpTo_goes consumable uses found
      | all =>
          simp only [Cursor.fetch, fetchAll, allowed] at found
          exact fetchRest_goes consumable uses found

theorem fetchEach_keeps {limit : Nat} {fetches : List Fetch}
    {deliveries : List (Delivery × Cursor σ)} (uses : cursor.Uses policy subject token)
    (found : cursor.fetchEach connection environment limit fetches world =
      some (deliveries, reached)) :
    policy.Keeps environment.step subject.database subject.catalog world reached
      (deliveries.findSome? fun delivery => Fault.of? delivery.1) := by
  induction fetches generalizing cursor world deliveries with
  | nil =>
      cases found
      exact .refl _
  | cons fetch rest induction =>
      unfold fetchEach at found
      rcases first : cursor.fetch connection environment limit fetch world with
        _ | ⟨answer, next, middle⟩
      · simp [first] at found
      · have goes := fetch_goes uses first
        rw [first] at found
        rcases later : next.fetchEach connection environment limit rest middle with
          _ | ⟨others, last⟩
        · simp [later] at found
        · simp only [later, Option.some.injEq, Prod.mk.injEq] at found
          rcases found with ⟨rfl, rfl⟩
          cases answer with
          | ok rows =>
              have keepsLater := induction goes.uses later
              exact goes.keeps.trans keepsLater
          | error fault =>
              have unable : next.state ≠ .consumable := fun able => by
                cases goes.consumable.mp able
              cases refused : misuse? next.state with
              | none => exact absurd ((misuse?_eq_none_iff _).mp refused) unable
              | some misuse =>
                  rw [fetchEach_of_misuse refused] at later
                  cases later
                  exact goes.keeps

end Cursor

/-! ## Launches -/

theorem BulkSource.askColumns_keeps (environment : Environment σ) (location : Location)
    (subject : Subject) (retry : RetryPolicy) (token : Token) (world : World σ) :
    retry.Keeps environment.step subject.database subject.catalog world
      (askColumns environment location subject retry token world).2
      (Fault.of? (askColumns environment location subject retry token world).1) := by
  unfold askColumns
  split
  · rename_i table named
    exact retry.run_keeps environment subject token (.schema table) (environment.schema table)
      rfl (by simp) world
  · have asks := retry.run_keeps environment subject token (.results subject.queryId none 1)
      (environment.results subject.queryId none 1) rfl (by simp) world
    rcases ran : retry.run environment subject.scope token
      (environment.askResults subject.queryId none 1) world with ⟨part, reached⟩
    rw [show retry.run environment subject.scope token
      (·.ask (.results subject.queryId none 1) (environment.results subject.queryId none 1))
      world = _ from ran] at asks
    cases part <;> exact asks

namespace Cursor

variable {connection : Connection} {limit : Nat} {sql : String} {world reached : World σ}

theorem selectSource_keeps (connection : Connection) (environment : Environment σ)
    (token : Token) (execution : Execution) (world : World σ) :
    connection.config.retryPolicy.Keeps environment.step execution.database execution.catalog world
        (selectSource connection environment token execution world).2
        (Fault.of? (selectSource connection environment token execution world).1) ∧
      ∀ source, (selectSource connection environment token execution world).1 = .ok source →
        source.Uses connection.config.retryPolicy execution.subject token := by
  unfold selectSource
  dsimp only
  split
  · rename_i location object format located stored
    have asks := BulkSource.askColumns_keeps environment location execution.subject
      connection.config.retryPolicy token world
    unfold BulkSource.prepare
    rcases asked : BulkSource.askColumns environment location execution.subject
      connection.config.retryPolicy token world with ⟨columns, settled⟩
    rw [asked] at asks
    cases columns with
    | error fault => exact ⟨asks, fun source wrong => by cases wrong⟩
    | ok columns =>
        refine ⟨asks, fun source same => ?_⟩
        cases same
        exact ⟨rfl, rfl, rfl⟩
  · refine ⟨.refl world, fun source same => ?_⟩
    cases same
    exact ⟨rfl, rfl, rfl⟩

theorem submit_keeps (policy : RetryPolicy) (environment : Environment σ) (config : Config)
    (sql : String) (world : World σ) :
    policy.Keeps environment.step config.database config.catalog world
      (submit environment config sql world).2
        (Fault.of? (submit environment config sql world).1) ∧
      ∀ execution, (submit environment config sql world).1 = .ok execution →
        execution.database = config.database ∧ execution.catalog = config.catalog ∧
          execution.isTerminal = false := by
  unfold submit
  rcases environment.random world.outside with ⟨bits, outside⟩
  dsimp only
  rcases asked : environment.askSubmit (config.submission sql (RequestToken.ofRandom bits))
    { world with outside } with ⟨outcome, reached⟩
  have leads := World.ask_leadsTo (.submit (config.submission sql (RequestToken.ofRandom bits)))
    (environment.submit (config.submission sql (RequestToken.ofRandom bits)))
    { world with outside }
  rw [show World.ask _ _ _ = _ from asked] at leads
  have calls := World.ask_since (show World.ask _ _ _ = _ from asked)
  have keeps : policy.Keeps environment.step config.database config.catalog world reached none := by
    refine ⟨⟨leads.clock, leads.fired, leads.nextToken, leads.sent⟩, ?_⟩
    rw [show reached.since world = _ from calls]
    have once : (⟨world.clock, .submit (config.submission sql (RequestToken.ofRandom bits)),
        some (reached.clock, outcome)⟩ : Sent).setback? config.database config.catalog =
          none :=
      Sent.setback?_of_not_retried rfl
    refine .through (RetryPolicy.calm_of_no_setback once) ?_
    rw [Stretch.trailing_singleton, Stretch.after_of_no_setback once]
  cases outcome with
  | error error => exact ⟨keeps.ends _, fun execution wrong => by cases wrong⟩
  | ok queryId =>
      refine ⟨keeps, fun execution same => ?_⟩
      cases same
      exact ⟨rfl, rfl, rfl⟩

theorem reachResults_keeps {token : Token} {result : Except Fault (Source σ)}
    {execution? : Option Execution}
    (reaches : reachResults connection environment limit sql token world =
      some (result, execution?, reached)) :
    connection.config.retryPolicy.Keeps environment.step connection.config.database
      connection.config.catalog
        world reached (Fault.of? result) ∧
      ∀ source, result = .ok source → ∃ subject : Subject,
        subject.database = connection.config.database ∧
          subject.catalog = connection.config.catalog ∧
          source.Uses connection.config.retryPolicy subject token := by
  unfold reachResults at reaches
  rcases submit_keeps connection.config.retryPolicy environment connection.config sql world with
    ⟨submits, submitted⟩
  rcases submission : submit environment connection.config sql world with ⟨started, middle⟩
  rw [submission] at reaches submits submitted
  cases started with
  | error fault =>
      cases reaches
      exact ⟨submits, fun source wrong => by cases wrong⟩
  | ok execution =>
      rcases submitted execution rfl with ⟨database, catalog, fresh⟩
      dsimp only at reaches
      rcases followed : connection.config.poller.pollUntilTerminal environment token limit
        execution middle with _ | ⟨outcome, last, settled⟩
      · simp [followed] at reaches
      · have follows := Poller.pollUntilTerminal_keeps followed
        have same := (Poller.pollUntilTerminal_accounted fresh followed).subject_eq
        have sameDatabase : last.database = connection.config.database :=
          (congrArg Subject.database same).trans database
        have sameCatalog : last.catalog = connection.config.catalog :=
          (congrArg Subject.catalog same).trans catalog
        rw [followed] at reaches
        rw [database, catalog] at follows
        cases outcome with
        | error fault =>
            cases reaches
            exact ⟨submits.trans follows, fun source wrong => by cases wrong⟩
        | ok =>
            cases reaches
            rcases selectSource_keeps connection environment token last settled with
              ⟨selects, uses⟩
            rw [sameDatabase, sameCatalog] at selects
            exact ⟨(submits.trans follows).trans selects, fun source selected =>
              ⟨last.subject, sameDatabase, sameCatalog, uses source selected⟩⟩

theorem openResults_keeps {source : Source σ} {cursor after : Cursor σ}
    {result : Except Fault Unit} (uses : source.Uses policy subject token)
    (opens : openResults environment source cursor world = (result, after, reached)) :
    policy.Keeps environment.step subject.database subject.catalog world reached
      (Fault.of? result) ∧
      (result = .ok () → after.Uses policy subject token) := by
  unfold openResults at opens
  rcases Pager.next_keeps environment (show Source.Uses policy subject token
    ({ source } : Pager σ).source from uses) world with ⟨keeps, usesStill⟩
  rcases stepped : ({ source } : Pager σ).next environment world with ⟨answer, pager, middle⟩
  rw [stepped] at keeps usesStill opens
  cases answer with
  | error fault =>
      cases opens
      exact ⟨keeps, fun wrong => by cases wrong⟩
  | ok page? =>
      cases page? with
      | none =>
          cases opens
          refine ⟨keeps, fun _ given same => ?_⟩
          cases same
          exact usesStill
      | some page =>
          cases opens
          refine ⟨keeps, fun _ given same => ?_⟩
          cases same
          exact usesStill

theorem run_keeps {token : Token} {cursor after : Cursor σ} {result : Except Fault Unit}
    (ran : run connection environment limit sql token cursor world =
      some (result, after, reached)) :
    connection.config.retryPolicy.Keeps environment.step connection.config.database
      connection.config.catalog
        world reached (Fault.of? result) ∧
      (result = .ok () → ∃ subject : Subject,
        subject.database = connection.config.database ∧
          subject.catalog = connection.config.catalog ∧
          after.Uses connection.config.retryPolicy subject token) := by
  unfold run at ran
  rcases reaches : reachResults connection environment limit sql token world with
    _ | ⟨found, execution, middle⟩
  · simp [reaches] at ran
  · rcases reachResults_keeps reaches with ⟨keeps, usesFound⟩
    rw [reaches] at ran
    cases found with
    | error fault =>
        cases ran
        exact ⟨keeps, fun wrong => by cases wrong⟩
    | ok source =>
        rcases usesFound source rfl with ⟨subject, database, catalog, uses⟩
        rcases openResults_keeps uses (Option.some.inj ran) with ⟨opens, usesStill⟩
        rw [database, catalog] at opens
        exact ⟨keeps.trans opens, fun succeeded =>
          ⟨subject, database, catalog, usesStill succeeded⟩⟩

theorem renewToken_leadsTo (cursor : Cursor σ) (world : World σ) :
    world.LeadsTo (cursor.renewToken world).2 := by
  unfold renewToken
  split
  · exact world.mint_leadsTo
  · exact .refl world

theorem renewToken_sent (cursor : Cursor σ) (world : World σ) :
    (cursor.renewToken world).2.sent = world.sent := by
  unfold renewToken
  split <;> rfl

theorem launch_keeps {launch : Launch} {cursor opened : Cursor σ}
    {result : Except Fault Unit}
    (launched : cursor.launch connection environment limit sql launch world =
      some (result, opened, reached)) :
    connection.config.retryPolicy.Keeps environment.step connection.config.database
      connection.config.catalog
        world reached (Fault.of? result) ∧
      (result = .ok () → ∃ subject : Subject,
        subject.database = connection.config.database ∧
          subject.catalog = connection.config.catalog ∧
          opened.Uses connection.config.retryPolicy subject
            (cursor.tokenFor world launch).1) ∧
      (result ≠ .ok () → misuse? opened.state ≠ none) := by
  rcases cursor.launch_eq connection environment limit sql launch world with
    ⟨ready, -, -, same⟩
  have begins : connection.config.retryPolicy.Keeps environment.step connection.config.database
      connection.config.catalog world (cursor.tokenFor world launch).2 none := by
    cases launch with
    | own =>
        exact (Keeps.refl world).quiet (renewToken_leadsTo cursor world)
          (renewToken_sent cursor world)
    | given token => exact .refl world
  rw [same] at launched
  unfold executeWith at launched
  split at launched
  · rename_i closed
    cases launched
    refine ⟨begins.trans (.refl_failed _ _), (fun wrong => by cases wrong), fun _ => ?_⟩
    rw [closed]
    exact Option.some_ne_none _
  · rcases ran : run connection environment limit sql (cursor.tokenFor world launch).1
      { ready.reset with state := .executing } (cursor.tokenFor world launch).2 with
      _ | ⟨outcome, after, middle⟩
    · simp [ran] at launched
    · rcases run_keeps ran with ⟨keeps, uses⟩
      rw [ran] at launched
      cases outcome with
      | ok =>
          cases launched
          exact ⟨begins.trans keeps, uses, fun wrong => absurd rfl wrong⟩
      | error fault =>
          simp only [Option.some.injEq, Prod.mk.injEq] at launched
          rcases launched with ⟨rfl, rfl, rfl⟩
          refine ⟨begins.trans ?_, (fun wrong => by cases wrong), fun _ => ?_⟩
          · exact keeps.quiet (renewToken_leadsTo _ middle) (renewToken_sent _ middle)
          · rw [renewToken_state]
            exact Option.some_ne_none _

theorem session_keeps {launch : Launch} {fetches : List Fetch} {cursor : Cursor σ}
    {report : Report} {last : World σ}
    (ran : cursor.session connection environment limit sql launch fetches world =
      some (report, last)) :
    connection.config.retryPolicy.Keeps environment.step connection.config.database
      connection.config.catalog
      world last report.fault? := by
  unfold session at ran
  rcases launched : cursor.launch connection environment limit sql launch world with
    _ | ⟨result, opened, middle⟩
  · simp [launched] at ran
  · rcases launch_keeps launched with ⟨keeps, uses, refuses⟩
    rw [launched] at ran
    simp only [Option.map_eq_some_iff] at ran
    rcases ran with ⟨⟨deliveries, final⟩, fetched, same⟩
    cases same
    cases result with
    | ok =>
        rcases uses rfl with ⟨subject, database, catalog, usesOpened⟩
        have later := fetchEach_keeps usesOpened fetched
        rw [database, catalog] at later
        rw [Report.fault?, List.findSome?_map]
        exact keeps.trans later
    | error fault =>
        cases refused : misuse? opened.state with
        | none => exact absurd refused (refuses fun wrong => by cases wrong)
        | some misuse =>
            rw [fetchEach_of_misuse refused] at fetched
            cases fetched
            exact keeps

end Cursor

end RemoteQuery
