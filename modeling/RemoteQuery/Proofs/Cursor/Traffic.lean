import RemoteQuery.Proofs.CancelOutcomes
import RemoteQuery.Proofs.Poller.Ending

/-! # What a launch asks for

A launch submits its query once and follows it by status checks. A request to end the query
can only come behind the last check, and results are only read when the query has succeeded.
-/

namespace RemoteQuery

open Calendar (Duration)

variable {σ : Type} {environment : Environment σ}

/-! ## Reading -/

def Call.isRead : Call → Bool
  | .results _ _ _ | .schema _ | .object _ => true
  | .submit _ | .status _ | .cancel _ => false

namespace World

structure Reads (earlier later : World σ) : Prop where
  leads : earlier.LeadsTo later
  calls : ∀ call ∈ later.calls earlier, call.isRead = true

namespace Reads

variable {first second third : World σ}

theorem refl (world : World σ) : world.Reads world :=
  ⟨.refl world, by simp⟩

theorem trans (left : first.Reads second) (right : second.Reads third) : first.Reads third := by
  refine ⟨left.leads.trans right.leads, fun call member => ?_⟩
  rw [left.leads.calls_eq_append right.leads] at member
  rcases List.mem_append.mp member with before | behind
  · exact left.calls call before
  · exact right.calls call behind

theorem quiet (reads : first.Reads second) (leads : second.LeadsTo third)
    (silent : third.sent = second.sent) : first.Reads third := by
  refine ⟨reads.leads.trans leads, ?_⟩
  rw [calls_of_sent_eq silent]
  exact reads.calls

theorem of_ask {call : Call} {answering : σ → Answer (Outcome call.Response) × σ}
    {outcome : Outcome call.Response} {reached : World σ} (isRead : call.isRead = true)
    (made : first.ask call answering = (outcome, reached)) : first.Reads reached := by
  have leads := first.ask_leadsTo call answering
  rw [made] at leads
  refine ⟨leads, fun given member => ?_⟩
  rw [World.calls, ask_since made] at member
  cases List.mem_singleton.mp member
  exact isRead

theorem wait {token : Token} {duration : Duration} {fired : Bool}
    (reads : first.Reads second)
    (waited : second.wait environment token duration = (fired, third)) : first.Reads third := by
  have leads := second.wait_leadsTo environment token duration
  have silent := wait_sent environment token duration second
  rw [waited] at leads silent
  exact reads.quiet leads silent

end Reads

end World

section

variable {policy : RetryPolicy} {scope : Scope} {token : Token} {call : Call}
  {answering : σ → Answer (Outcome call.Response) × σ}

theorem RetryPolicy.Attempted.reads {started : Duration} {failures : Nat}
    {world last : World σ} {result : Except Fault call.Response} (isRead : call.isRead = true)
    (attempted : Attempted environment policy scope token (·.ask call answering) started failures
      world result last) : world.Reads last := by
  -- Behind a failure, the clock is looked at before anything else.
  have asks : ∀ {world reached : World σ} {outcome : Outcome call.Response},
      world.ask call answering = (outcome, reached) → world.Reads (reached.now environment).2 :=
    fun made => (World.Reads.of_ask isRead made).quiet (World.now_leadsTo _ _) rfl
  induction attempted with
  | succeeded made => exact World.Reads.of_ask isRead made
  | refused made final => exact asks made
  | exhausted made retryable spent => exact asks made
  | interrupted made retryable allowed waited => exact (asks made).wait waited
  | again made retryable allowed waited rest induction =>
      exact ((asks made).wait waited).trans induction

theorem RetryPolicy.run_reads (policy : RetryPolicy) (environment : Environment σ)
    (scope : Scope) (token : Token) (call : Call)
    (answering : σ → Answer (Outcome call.Response) × σ) (isRead : call.isRead = true)
    (world : World σ) :
    world.Reads (policy.run environment scope token (·.ask call answering) world).2 := by
  have begins : world.Reads (world.now environment).2 :=
    (World.Reads.refl world).quiet (world.now_leadsTo environment) rfl
  exact begins.trans
    ((run_attempted environment policy scope token (·.ask call answering) world).reads isRead)

end

theorem DirectSource.fetch_reads (environment : Environment σ) (source : DirectSource)
    (pageToken : Option String) (world : World σ) :
    world.Reads (source.fetch environment pageToken world).2.2 := by
  have asks := source.retry.run_reads environment source.subject.scope source.token
    (.results source.subject.queryId pageToken source.maxRows)
    (environment.results source.subject.queryId pageToken source.maxRows) rfl world
  unfold fetch Environment.askResults
  split
  · rename_i fault reached ran
    rw [ran] at asks
    exact asks
  · rename_i part reached ran
    rw [ran] at asks
    exact asks

namespace BulkSource

theorem askColumns_reads (environment : Environment σ) (location : Location) (subject : Subject)
    (retry : RetryPolicy) (token : Token) (world : World σ) :
    world.Reads (askColumns environment location subject retry token world).2 := by
  unfold askColumns
  split
  · rename_i table named
    exact retry.run_reads environment subject.scope token (.schema table)
      (environment.schema table) rfl world
  · exact retry.run_reads environment subject.scope token (.results subject.queryId none 1)
      (environment.results subject.queryId none 1) rfl world

theorem download_reads (environment : Environment σ) (source : BulkSource σ) (world : World σ) :
    world.Reads (source.download environment world).2 :=
  source.retry.run_reads environment source.subject.scope source.token
    (.object source.location.uri) (source.object source.location.uri) rfl world

theorem fetch_reads (environment : Environment σ) (source : BulkSource σ)
    (pageToken : Option String) (world : World σ) :
    world.Reads (source.fetch environment pageToken world).2.2 := by
  unfold fetch
  split
  · have downloads := download_reads environment source world
    split
    · rename_i fault reached downloaded
      rw [downloaded] at downloads
      exact downloads
    · rename_i stream reached downloaded
      rw [downloaded] at downloads
      exact downloads
  · split
    · split
      · exact .refl world
      · exact .refl world
    · exact .refl world

end BulkSource

theorem Pager.next_reads (environment : Environment σ) (pager : Pager σ) (world : World σ) :
    world.Reads (pager.next environment world).2.2 := by
  have fetches : world.Reads (pager.source.fetch environment pager.pageToken world).2.2 := by
    cases pager.source with
    | direct source => exact DirectSource.fetch_reads environment source _ world
    | bulk source => exact BulkSource.fetch_reads environment source _ world
  unfold next
  split
  · exact .refl world
  · split
    · rename_i page source reached fetched
      rw [fetched] at fetches
      exact fetches
    · rename_i fault source reached fetched
      rw [fetched] at fetches
      exact fetches

namespace Cursor

variable {connection : Connection} {limit : Nat} {sql : String} {token : Token}
  {cursor after : Cursor σ} {world reached : World σ}

theorem openResults_reads (environment : Environment σ) (source : Source σ) (cursor : Cursor σ)
    (world : World σ) : world.Reads (openResults environment source cursor world).2.2 := by
  have steps := Pager.next_reads environment ({ source } : Pager σ) world
  unfold openResults
  rcases stepped : ({ source } : Pager σ).next environment world with ⟨answer, pager, middle⟩
  rw [stepped] at steps
  rcases answer with fault | _ | page <;> exact steps

theorem selectSource_reads (connection : Connection) (environment : Environment σ)
    (token : Token) (execution : Execution) (world : World σ) :
    world.Reads (selectSource connection environment token execution world).2 := by
  unfold selectSource
  dsimp only
  split
  · exact BulkSource.askColumns_reads environment _ execution.subject _ token world
  · exact .refl world

/-! ## Launches -/

theorem pollUntilTerminal_unread {poller : Poller} {execution : Execution}
    {conclusion : Poller.Conclusion σ}
    (followed : poller.pollUntilTerminal environment token limit execution world =
      some conclusion) :
    ∀ call ∈ conclusion.world.calls world, call.isRead = false := by
  rcases Poller.exists_endsBy followed with ⟨looks, last, ends⟩
  rcases ends.stopsFor with ⟨cause, stopsFor⟩
  rcases ends.calls cause stopsFor with ⟨checks, calls⟩
  intro call member
  rw [calls] at member
  rcases List.mem_append.mp member with check | request
  · cases List.eq_of_mem_replicate check
    rfl
  · unfold Poller.Cause.requests at request
    split at request
    · cases List.mem_singleton.mp request
      rfl
    · cases request

theorem submit_calls (environment : Environment σ) (config : Config) (sql : String)
    (world : World σ) :
    world.LeadsTo (submit environment config sql world).2 ∧
      ∃ requestToken, (submit environment config sql world).2.calls world =
        [.submit (config.submission sql requestToken)] := by
  unfold submit
  rcases environment.random world.outside with ⟨bits, outside⟩
  dsimp only
  rcases asked : environment.askSubmit (config.submission sql (RequestToken.ofRandom bits))
    { world with outside } with ⟨outcome, reached⟩
  have leads := World.ask_leadsTo (.submit (config.submission sql (RequestToken.ofRandom bits)))
    (environment.submit (config.submission sql (RequestToken.ofRandom bits)))
    { world with outside }
  rw [show World.ask _ _ _ = _ from asked] at leads
  have calls : reached.calls world =
      [.submit (config.submission sql (RequestToken.ofRandom bits))] :=
    congrArg (List.map Sent.call) (World.ask_since (show World.ask _ _ _ = _ from asked))
  cases outcome with
  | error error => exact ⟨⟨leads.clock, leads.fired, leads.nextToken, leads.sent⟩, _, calls⟩
  | ok queryId => exact ⟨⟨leads.clock, leads.fired, leads.nextToken, leads.sent⟩, _, calls⟩

section

variable (connection : Connection) (environment : Environment σ) (sql : String) (token : Token)
  (start : World σ)

/-- The calls of a launch, in order, by what became of it. -/
inductive Traffic : List Call → Prop
  | rejected {fault : Fault} {submitted : World σ} {requestToken : String}
      (rejected : submit environment connection.config sql start = (.error fault, submitted)) :
      Traffic [.submit (connection.config.submission sql requestToken)]
  | followed {execution : Execution} {submitted : World σ} {conclusion : Poller.Conclusion σ}
      {limit looks : Nat} {last : Poller.Progress σ} {requestToken : String} {calls : List Call}
      (accepted : submit environment connection.config sql start = (.ok execution, submitted))
      (followed : connection.config.poller.pollUntilTerminal environment token limit execution
        submitted = some conclusion)
      (reaches : connection.config.poller.after environment token (submitted.now environment).1
        looks { execution, world := (submitted.now environment).2 } = some last)
      (stopsFor : ∃ cause, connection.config.poller.StopsFor environment token
        (submitted.now environment).1
        last cause)
      (asked : ∀ cause, connection.config.poller.StopsFor environment token
        (submitted.now environment).1 last
        cause → ∃ checks reads, calls =
          .submit (connection.config.submission sql requestToken) ::
            (List.replicate checks (.status execution.queryId) ++
              cause.requests connection.config.killOnInterrupt execution.queryId ++ reads) ∧
        (∀ call ∈ reads, call.isRead = true) ∧
        (conclusion.outcome ≠ .ok () → reads = []) ∧
        (conclusion.outcome = .ok () ↔ cause = .report (.ok ()))) :
      Traffic calls

end

private theorem traffic_of_ends {start submitted reached : World σ} {execution : Execution}
    {conclusion : Poller.Conclusion σ}
    (accepted : submit environment connection.config sql start = (.ok execution, submitted))
    (followed : connection.config.poller.pollUntilTerminal environment token limit execution
      submitted = some conclusion)
    (reads : conclusion.world.Reads reached)
    (unread : conclusion.outcome ≠ .ok () → reached = conclusion.world) :
    Traffic connection environment sql token start (reached.calls start) := by
  rcases submit_calls environment connection.config sql start with ⟨begins, requestToken, first⟩
  rw [accepted] at begins first
  rcases Poller.exists_endsBy followed with ⟨looks, last, ends⟩
  have follows := Poller.pollUntilTerminal_leadsTo followed
  refine @Traffic.followed _ _ _ _ _ _ _ _ _ _ _ _ requestToken _ accepted followed ends.reaches
    ends.stopsFor ?_
  intro cause stopsFor
  rcases ends.calls cause stopsFor with ⟨checks, polled⟩
  refine ⟨checks, reached.calls conclusion.world, ?_, reads.calls, ?_,
    ends.outcome cause stopsFor⟩
  · rw [(begins.trans follows).calls_eq_append reads.leads, begins.calls_eq_append follows, first,
      polled, List.singleton_append, List.cons_append]
    rfl
  · intro failed
    rw [unread failed, World.calls_self]

private theorem traffic_of_reaches {start middle reached : World σ}
    {source : Except Fault (Source σ)} {execution? : Option Execution}
    (reaches : Reaches connection environment limit sql token start source execution? middle)
    (reads : middle.Reads reached) (unread : ∀ fault, source = .error fault → reached = middle) :
    Traffic connection environment sql token start (reached.calls start) := by
  cases reaches with
  | rejected rejected =>
      rcases submit_calls environment connection.config sql start with ⟨-, requestToken, first⟩
      rw [rejected] at first
      rw [unread _ rfl, first]
      exact .rejected rejected
  | stopped accepted followed =>
      exact traffic_of_ends accepted followed reads fun _ => unread _ rfl
  | @succeeded execution last submitted settled middle source accepted followed selected =>
      have selects := selectSource_reads connection environment token last settled
      rw [selected] at selects
      exact traffic_of_ends accepted followed (selects.trans reads) fun wrong => absurd rfl wrong

theorem run_traffic {start : World σ} {result : Except Fault Unit}
    (ran : run connection environment limit sql token cursor start =
      some (result, after, reached)) :
    Traffic connection environment sql token start (reached.calls start) := by
  unfold run at ran
  split at ran
  · cases ran
  · rename_i reaches
    cases ran
    exact traffic_of_reaches (reaches_of_reachResults reaches) (.refl _) fun _ _ => rfl
  · rename_i source execution? middle reaches
    have reads := openResults_reads environment source
      { cursor with execution := execution? } middle
    rw [Option.some.inj ran] at reads
    exact traffic_of_reaches (reaches_of_reachResults reaches) reads
      fun fault wrong => by cases wrong

private theorem launch_calls {launch : Launch} {result : Except Fault Unit}
    (launched : cursor.launch connection environment limit sql launch world =
      some (result, after, reached)) :
    cursor.state = .closed ∧ reached.calls world = [] ∨
      Traffic connection environment sql (cursor.tokenFor world launch).1
        (cursor.tokenFor world launch).2 (reached.calls world) := by
  have silent := ready_sent cursor world launch
  rw [tokenFor_world]
  cases launches_of_launch launched with
  | refused closed =>
      refine .inl ⟨closed, ?_⟩
      rw [World.calls_of_sent_eq silent, World.calls_self]
  | succeeded unclosed ran =>
      rw [← World.calls_from_sent_eq silent]
      exact .inr (run_traffic ran)
  | failed unclosed ran =>
      rw [← World.calls_from_sent_eq silent, World.calls_of_sent_eq (renewToken_sent _ _)]
      exact .inr (run_traffic ran)

private theorem underway_calls {launch : Launch} {execution : Execution} {submitted : World σ}
    {looks : Nat} {next : Poller.Progress σ}
    (accepted : submit environment connection.config sql (cursor.tokenFor world launch).2 =
      (.ok execution, submitted))
    (reaches : connection.config.poller.after environment (cursor.tokenFor world launch).1
      (submitted.now environment).1 looks { execution, world := (submitted.now environment).2 } =
        some next) :
    ∃ requestToken, next.world.calls world =
      .submit (connection.config.submission sql requestToken) ::
        List.replicate looks (.status execution.queryId) := by
  rcases submit_calls environment connection.config sql (cursor.tokenFor world launch).2 with
    ⟨begins, requestToken, first⟩
  rw [accepted] at begins first
  have leads : submitted.LeadsTo next.world :=
    (submitted.now_leadsTo environment).trans (Poller.after_calls reaches).1
  have checks : next.world.calls submitted =
      List.replicate looks (.status execution.queryId) := (Poller.after_calls reaches).2
  have silent := ready_sent cursor world launch
  rw [← tokenFor_world] at silent
  refine ⟨requestToken, ?_⟩
  rw [← World.calls_from_sent_eq silent, begins.calls_eq_append leads, first, checks,
    List.singleton_append]

structure Accounts (connection : Connection) (environment : Environment σ) (sql : String)
    (launch : Launch) (cursor : Cursor σ) (world : World σ) : Prop where
  /-- Behind a launch, its calls are known by what became of it. -/
  ended : ∀ {limit : Nat} {result : Except Fault Unit} {after : Cursor σ} {reached : World σ},
    cursor.launch connection environment limit sql launch world =
        some (result, after, reached) →
      cursor.state = .closed ∧ reached.calls world = [] ∨
        Traffic connection environment sql (cursor.tokenFor world launch).1
          (cursor.tokenFor world launch).2 (reached.calls world)
  /-- As long as the query is followed, there is nothing but status checks. -/
  underway : ∀ {execution : Execution} {submitted : World σ} {looks : Nat}
    {next : Poller.Progress σ},
    submit environment connection.config sql (cursor.tokenFor world launch).2 =
        (.ok execution, submitted) →
      connection.config.poller.after environment (cursor.tokenFor world launch).1
          (submitted.now environment).1 looks { execution, world := (submitted.now environment).2 }
            = some next →
        ∃ requestToken, next.world.calls world =
          .submit (connection.config.submission sql requestToken) ::
            List.replicate looks (.status execution.queryId)
  /-- What comes of a request to end the query makes no difference. -/
  heedless : ∀ {limit : Nat} {result : Except Fault Unit} {after : Cursor σ}
    {reached : World σ} (outcomes : String → σ → Outcome Unit),
    cursor.launch connection environment limit sql launch world =
        some (result, after, reached) →
      ∃ other, cursor.launch connection (environment.withCancels outcomes) limit sql launch
          world = some (result, after, other) ∧ reached.SameButOutcomes other

theorem launch_accounts (connection : Connection) (environment : Environment σ) (sql : String)
    (launch : Launch) (cursor : Cursor σ) (world : World σ) :
    Accounts connection environment sql launch cursor world where
  ended := launch_calls
  underway := underway_calls
  heedless := launch_withCancels

/-! ### A request that fails -/

/-- A query that is running when the first token is fired, and that cannot be ended. -/
def refusesToEnd : World Rehearsal.Script :=
  { outside :=
      { current := some ⟨0⟩
        submissions := [{ outcome := .ok "q1" }]
        statuses :=
          [{ outcome := .ok { state := .running } },
            { outcome := .ok { state := .running }, fires := true }]
        cancellations := [{ outcome := .error (.operational "busy") }] }
    nextToken := 1 }

theorem launch_accounts_refusesToEnd :
    ∃ (after : Cursor Rehearsal.Script) (reached other : World Rehearsal.Script),
      launch { config := {}, sentinels := {} } (Rehearsal.environment false default) 2
          "SELECT 1" .own { token := ⟨0⟩, fetchSize := 1000 } refusesToEnd =
        some (.error (.cancelled "q1"), after, reached) ∧
      (reached.calls refusesToEnd).count (.cancel "q1") = 1 ∧
      launch { config := {}, sentinels := {} }
          ((Rehearsal.environment false default).withCancels fun _ _ => .ok ()) 2 "SELECT 1" .own
          { token := ⟨0⟩, fetchSize := 1000 } refusesToEnd =
        some (.error (.cancelled "q1"), after, other) := by
  have launched : launch { config := {}, sentinels := {} } (Rehearsal.environment false default)
      2 "SELECT 1" .own { token := ⟨0⟩, fetchSize := 1000 } refusesToEnd =
    some (.error (.cancelled "q1"), _, _) := rfl
  have accounts := launch_accounts { config := {}, sentinels := {} }
    (Rehearsal.environment false default) "SELECT 1" .own { token := ⟨0⟩, fetchSize := 1000 }
    refusesToEnd
  rcases accounts.heedless (fun _ _ => .ok ()) launched with ⟨other, relaunched, -⟩
  exact ⟨_, _, other, launched, rfl, relaunched⟩

end Cursor

end RemoteQuery
