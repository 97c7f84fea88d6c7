import RemoteQuery.Proofs.Cursor.Operations

/-! # Requests to end a query may fail

Whether the service can end a query is not waited for, so it makes no difference to the
engine what comes of the request. Two runs in surroundings that differ in nothing else end
alike, and only the outcomes on record differ.
-/

namespace RemoteQuery

open Calendar (Duration)

variable {σ α : Type}

/-- The same surroundings, but for the outcomes of requests to end a query. -/
def Environment.withCancels (outcomes : String → σ → Outcome Unit)
    (environment : Environment σ) : Environment σ :=
  { environment with
    cancel := fun queryId outside =>
      ({ (environment.cancel queryId outside).1 with outcome := outcomes queryId outside },
        (environment.cancel queryId outside).2) }

structure World.SameButOutcomes (left right : World σ) : Prop where
  outside : right.outside = left.outside
  clock : right.clock = left.clock
  fired : right.fired = left.fired
  nextToken : right.nextToken = left.nextToken
  calls : right.sent.map (·.call) = left.sent.map (·.call)

theorem World.SameButOutcomes.refl (world : World σ) : world.SameButOutcomes world :=
  ⟨rfl, rfl, rfl, rfl, rfl⟩

section

variable {environment : Environment σ} {outcomes : String → σ → Outcome Unit}

/-! ## Retried calls -/

namespace RetryPolicy

variable {policy : RetryPolicy} {scope : Scope} {token : Token}
  {attempt : World σ → Outcome α × World σ}

theorem Attempted.withCancels {started : Duration} {failures : Nat} {world last : World σ}
    {result : Except Fault α} (outcomes : String → σ → Outcome Unit)
    (attempted : Attempted environment policy scope token attempt started failures world result
      last) :
    Attempted (environment.withCancels outcomes) policy scope token attempt started failures
      world result last := by
  induction attempted with
  | succeeded made => exact .succeeded made
  | refused made final => exact .refused made final
  | exhausted made retryable spent => exact .exhausted made retryable spent
  | interrupted made retryable allowed waited =>
      exact .interrupted made retryable allowed waited
  | again made retryable allowed waited rest induction =>
      exact .again made retryable allowed waited induction

theorem run_withCancels (outcomes : String → σ → Outcome Unit) (world : World σ) :
    policy.run (environment.withCancels outcomes) scope token attempt world =
      policy.run environment scope token attempt world :=
  run_eq ((run_attempted environment policy scope token attempt world).withCancels outcomes)

end RetryPolicy

/-! ## Following a query -/

namespace Poller

variable {poller : Poller} {token : Token} {started : Duration} {progress : Progress σ}

structure Conclusion.SameButOutcomes (left right : Conclusion σ) : Prop where
  outcome : right.outcome = left.outcome
  execution : right.execution = left.execution
  world : left.world.SameButOutcomes right.world
  /-- Nothing is asked behind a success. -/
  succeeded : left.outcome = .ok () → right.world = left.world

inductive Step.SameButOutcomes : Step σ → Step σ → Prop
  | concluded {left right : Conclusion σ} (same : left.SameButOutcomes right) :
      SameButOutcomes (.concluded left) (.concluded right)
  | continued (progress : Progress σ) : SameButOutcomes (.continued progress) (.continued progress)
  | stuck : SameButOutcomes .stuck .stuck

private theorem requestCancel_sent (environment : Environment σ) (queryId : String)
    (world : World σ) : ∃ answered, (requestCancel environment queryId world).sent =
      world.sent ++ [⟨world.clock, .cancel queryId, answered⟩] :=
  ⟨_, rfl⟩

private theorem requestCancel_withCancels (queryId : String) (world : World σ) :
    (requestCancel environment queryId world).SameButOutcomes
      (requestCancel (environment.withCancels outcomes) queryId world) := by
  refine ⟨rfl, rfl, rfl, rfl, ?_⟩
  rcases requestCancel_sent environment queryId world with ⟨answered, sent⟩
  rcases requestCancel_sent (environment.withCancels outcomes) queryId world with
    ⟨otherwise, otherSent⟩
  rw [sent, otherSent, List.map_append, List.map_append]
  rfl

private theorem abort_withCancels (execution : Execution) (world : World σ) :
    (poller.abort environment execution world).SameButOutcomes
      (poller.abort (environment.withCancels outcomes) execution world) := by
  refine ⟨rfl, rfl, ?_, fun wrong => by cases wrong⟩
  unfold abort
  dsimp only
  split
  · exact requestCancel_withCancels execution.queryId world
  · exact .refl world

private theorem expire_withCancels (timeout : Duration) (execution : Execution)
    (world : World σ) :
    (expire environment timeout execution world).SameButOutcomes
      (expire (environment.withCancels outcomes) timeout execution world) :=
  ⟨rfl, rfl, requestCancel_withCancels execution.queryId world, fun wrong => by cases wrong⟩

private theorem Conclusion.SameButOutcomes.refl (conclusion : Conclusion σ) :
    conclusion.SameButOutcomes conclusion :=
  ⟨rfl, rfl, .refl _, fun _ => rfl⟩

private theorem Awaits.withCancels {resting : Progress σ} (outcomes : String → σ → Outcome Unit)
    (awaits : Awaits poller environment token started progress resting) :
    Awaits poller (environment.withCancels outcomes) token started progress resting := by
  cases awaits with
  | status checks answered unfired undecided =>
      exact .status checks answered unfired undecided
  | failure checks answered retryable allowed =>
      exact .failure checks answered retryable allowed

theorem Look.withCancels {result : Step σ} (outcomes : String → σ → Outcome Unit)
    (look : Look poller environment token started progress result) :
    ∃ other, Look poller (environment.withCancels outcomes) token started progress other ∧
      result.SameButOutcomes other := by
  cases look with
  | firedBefore fired =>
      exact ⟨_, .firedBefore fired, .concluded (abort_withCancels _ _)⟩
  | expired unfired overdue =>
      exact ⟨_, .expired unfired overdue, .concluded (expire_withCancels _ _ _)⟩
  | stuck checks unanswered => exact ⟨_, .stuck checks unanswered, .stuck⟩
  | firedMeanwhile checks unanswered =>
      exact ⟨_, .firedMeanwhile checks unanswered, .concluded (abort_withCancels _ _)⟩
  | firedWithStatus checks answered fired =>
      exact ⟨_, .firedWithStatus checks answered fired, .concluded (abort_withCancels _ _)⟩
  | decided checks answered unfired verdict =>
      exact ⟨_, .decided checks answered unfired verdict, .concluded (.refl _)⟩
  | refused checks answered final =>
      exact ⟨_, .refused checks answered final, .concluded (.refl _)⟩
  | exhausted checks answered retryable spent =>
      exact ⟨_, .exhausted checks answered retryable spent, .concluded (.refl _)⟩
  | firedAtRest awaits waited =>
      exact ⟨_, .firedAtRest (awaits.withCancels outcomes) waited,
        .concluded (abort_withCancels _ _)⟩
  | continued awaits waited =>
      exact ⟨_, .continued (awaits.withCancels outcomes) waited, .continued _⟩

theorem follow_withCancels {limit : Nat} {conclusion : Conclusion σ}
    (outcomes : String → σ → Outcome Unit)
    (ends : poller.follow environment token started limit progress = some conclusion) :
    ∃ other, poller.follow (environment.withCancels outcomes) token started limit progress =
        some other ∧ conclusion.SameButOutcomes other := by
  induction limit generalizing progress with
  | zero => cases ends
  | succ limit induction =>
      rcases follow_cases ends with look | ⟨next, look, rest⟩
      · rcases look.withCancels outcomes with ⟨result, otherLook, same⟩
        rw [follow, otherLook.step_eq]
        cases same with
        | concluded same => exact ⟨_, rfl, same⟩
      · rcases look.withCancels outcomes with ⟨result, otherLook, same⟩
        rw [follow, otherLook.step_eq]
        cases same with
        | continued next => exact induction rest

theorem pollUntilTerminal_withCancels {limit : Nat} {execution : Execution} {world : World σ}
    {conclusion : Conclusion σ} (outcomes : String → σ → Outcome Unit)
    (ends : poller.pollUntilTerminal environment token limit execution world =
      some conclusion) :
    ∃ other, poller.pollUntilTerminal (environment.withCancels outcomes) token limit execution
        world = some other ∧ conclusion.SameButOutcomes other :=
  follow_withCancels outcomes ends

end Poller

/-! ## Reading results -/

theorem DirectSource.fetch_withCancels (outcomes : String → σ → Outcome Unit)
    (source : DirectSource) (pageToken : Option String) (world : World σ) :
    source.fetch (environment.withCancels outcomes) pageToken world =
      source.fetch environment pageToken world := by
  unfold fetch
  rw [RetryPolicy.run_withCancels]
  rfl

namespace BulkSource

theorem askColumns_withCancels (outcomes : String → σ → Outcome Unit) (location : Location)
    (subject : Subject) (retry : RetryPolicy) (token : Token) (world : World σ) :
    askColumns (environment.withCancels outcomes) location subject retry token world =
      askColumns environment location subject retry token world := by
  unfold askColumns
  simp only [RetryPolicy.run_withCancels]
  rfl

theorem download_withCancels (outcomes : String → σ → Outcome Unit) (source : BulkSource σ)
    (world : World σ) :
    source.download (environment.withCancels outcomes) world =
      source.download environment world := by
  unfold download
  rw [RetryPolicy.run_withCancels]

theorem fetch_withCancels (outcomes : String → σ → Outcome Unit) (source : BulkSource σ)
    (pageToken : Option String) (world : World σ) :
    source.fetch (environment.withCancels outcomes) pageToken world =
      source.fetch environment pageToken world := by
  unfold fetch
  rw [download_withCancels]

end BulkSource

theorem Pager.next_withCancels (outcomes : String → σ → Outcome Unit) (pager : Pager σ)
    (world : World σ) :
    pager.next (environment.withCancels outcomes) world = pager.next environment world := by
  have fetches : pager.source.fetch (environment.withCancels outcomes) pager.pageToken world =
      pager.source.fetch environment pager.pageToken world := by
    unfold Source.fetch
    cases pager.source with
    | direct source =>
        dsimp only
        rw [DirectSource.fetch_withCancels]
    | bulk source =>
        dsimp only
        rw [BulkSource.fetch_withCancels]
  unfold next
  rw [fetches]

namespace Cursor

variable {connection : Connection} {limit : Nat} {sql : String} {token : Token}
  {cursor after : Cursor σ} {world reached : World σ}

theorem openResults_withCancels (outcomes : String → σ → Outcome Unit) (source : Source σ)
    (cursor : Cursor σ) (world : World σ) :
    openResults (environment.withCancels outcomes) source cursor world =
      openResults environment source cursor world := by
  unfold openResults
  rw [Pager.next_withCancels]

theorem selectSource_withCancels (outcomes : String → σ → Outcome Unit)
    (connection : Connection) (token : Token) (execution : Execution) (world : World σ) :
    selectSource connection (environment.withCancels outcomes) token execution world =
      selectSource connection environment token execution world := by
  unfold selectSource BulkSource.prepare
  simp only [BulkSource.askColumns_withCancels]
  rfl

/-! ## Launches -/

theorem reachResults_withCancels {result : Except Fault (Source σ)}
    {execution? : Option Execution} (outcomes : String → σ → Outcome Unit)
    (reaches : reachResults connection environment limit sql token world =
      some (result, execution?, reached)) :
    ∃ other, reachResults connection (environment.withCancels outcomes) limit sql token world =
        some (result, execution?, other) ∧ reached.SameButOutcomes other ∧
      ∀ source, result = .ok source → other = reached := by
  cases reaches_of_reachResults reaches with
  | rejected rejected =>
      exact ⟨_, Reaches.eq (.rejected rejected), .refl _, fun source wrong => by cases wrong⟩
  | stopped accepted followed =>
      rcases Poller.pollUntilTerminal_withCancels outcomes followed with
        ⟨⟨outcome, last, other⟩, ends, same⟩
      obtain rfl : outcome = .error _ := same.outcome
      obtain rfl : last = _ := same.execution
      exact ⟨_, Reaches.eq (.stopped accepted ends), same.world,
        fun source wrong => by cases wrong⟩
  | succeeded accepted followed selected =>
      rcases Poller.pollUntilTerminal_withCancels outcomes followed with
        ⟨⟨outcome, last, other⟩, ends, same⟩
      obtain rfl : outcome = .ok () := same.outcome
      obtain rfl : last = _ := same.execution
      -- A query that has succeeded was not ended, so the rest begins in the same world.
      obtain rfl : other = _ := same.succeeded rfl
      have selects := (selectSource_withCancels outcomes ..).trans selected
      exact ⟨_, Reaches.eq (.succeeded accepted ends selects), .refl _, fun _ _ => rfl⟩

theorem run_withCancels {result : Except Fault Unit} (outcomes : String → σ → Outcome Unit)
    (ran : run connection environment limit sql token cursor world =
      some (result, after, reached)) :
    ∃ other, run connection (environment.withCancels outcomes) limit sql token cursor world =
        some (result, after, other) ∧ reached.SameButOutcomes other := by
  unfold run at ran ⊢
  cases reaches : reachResults connection environment limit sql token world with
  | none => simp [reaches] at ran
  | some found =>
      rcases found with ⟨source, execution, middle⟩
      rcases reachResults_withCancels outcomes reaches with ⟨other, otherReaches, same, sourced⟩
      rw [reaches] at ran
      rw [otherReaches]
      cases source with
      | error fault =>
          cases ran
          exact ⟨_, rfl, same⟩
      | ok source =>
          dsimp only at ran ⊢
          rw [sourced source rfl, openResults_withCancels]
          exact ⟨_, ran, .refl _⟩

private theorem renewToken_sameButOutcomes {left right : World σ}
    (same : left.SameButOutcomes right) (cursor : Cursor σ) :
    (cursor.renewToken right).1 = (cursor.renewToken left).1 ∧
      (cursor.renewToken left).2.SameButOutcomes (cursor.renewToken right).2 := by
  rcases same with ⟨outside, clock, fired, nextToken, calls⟩
  unfold renewToken World.isFired
  rw [fired]
  split
  · have sameCursor := congrArg (fun number => { cursor with token := ⟨number⟩ }) nextToken
    exact ⟨sameCursor, outside, clock, fired, congrArg (· + 1) nextToken, calls⟩
  · exact ⟨rfl, outside, clock, fired, nextToken, calls⟩

theorem launch_withCancels {launch : Launch} {result : Except Fault Unit}
    (outcomes : String → σ → Outcome Unit)
    (launched : cursor.launch connection environment limit sql launch world =
      some (result, after, reached)) :
    ∃ other, cursor.launch connection (environment.withCancels outcomes) limit sql launch world =
        some (result, after, other) ∧ reached.SameButOutcomes other := by
  rw [launch_eq_executeWith, executeWith, ready_state] at launched ⊢
  split at launched
  · rename_i closed
    cases launched
    rw [if_pos closed]
    exact ⟨_, rfl, .refl _⟩
  · rename_i unclosed
    rw [if_neg unclosed]
    cases ran : run connection environment limit sql (cursor.tokenFor world launch).1
      { (cursor.ready world launch).1.reset with state := .executing }
      (cursor.ready world launch).2 with
    | none => simp [ran] at launched
    | some ending =>
        rcases ending with ⟨outcome, settled, middle⟩
        rcases run_withCancels outcomes ran with ⟨other, otherRan, same⟩
        rw [ran] at launched
        rw [otherRan]
        cases outcome with
        | ok =>
            cases launched
            exact ⟨_, rfl, same⟩
        | error fault =>
            rcases renewToken_sameButOutcomes same { settled with state := .failed } with
              ⟨sameCursor, sameWorld⟩
            cases launched
            exact ⟨_, congrArg (fun next => some (_, next, _)) sameCursor, sameWorld⟩

end Cursor

end

end RemoteQuery
