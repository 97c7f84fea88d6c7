import RemoteQuery.Proofs.Results.Resumption
import RemoteQuery.Proofs.Results.Table
import RemoteQuery.Proofs.Twins.Results

/-! # Failures that leave everything where it is

A request that is given up leaves a walk and its source as they were. So a walk in surroundings
where calls fail brings the same pages as one in surroundings where none of these failures
happens, but for the requests that were given up.
-/

namespace RemoteQuery

variable {σ τ α : Type}

/-- A call has failed for good, or it has come to an end that depends on the time. -/
def Fault.givesUp : Fault → Bool
  | .terminal _ _ => true
  | fault => fault.isUntimely

/-! ## Surroundings without their failures -/

/-- What comes of a call that may fail, and of the same call where its failures do not happen:
a failure, of which nothing is known there, or the same value. -/
inductive Spared (related : σ → τ → Prop) (other : τ) :
    Answer (Outcome α) × σ → Answer (Outcome α) × τ → Prop
  | failure {answer : Answer (Outcome α)} {outside : σ} {made : Answer (Outcome α) × τ}
      {error : ServiceError} (fails : answer.outcome = .error error)
      (still : related outside other) : Spared related other (answer, outside) made
  | value {answer answerOther : Answer (Outcome α)} {outside : σ} {after : τ} {value : α}
      (brings : answer.outcome = .ok value) (same : answerOther.outcome = .ok value)
      (further : related outside after) :
      Spared related other (answer, outside) (answerOther, after)

def Spares (related : σ → τ → Prop) (next : σ → Answer (Outcome α) × σ)
    (spared : τ → Answer (Outcome α) × τ) : Prop :=
  ∀ outside other, related outside other → Spared related other (next outside) (spared other)

/-- Surroundings in which nothing fails that is asked for in place of others in which it may.
A wait is only for a call that has failed, so nothing corresponds to it. -/
structure Environment.Spares (related : σ → τ → Prop) (environment : Environment σ)
    (calm : Environment τ) : Prop where
  results : ∀ queryId token maxRows, RemoteQuery.Spares related
    (environment.results queryId token maxRows) (calm.results queryId token maxRows)
  pause : ∀ duration outside other, related outside other →
    related (environment.pause duration outside).2 other

section

variable {related : σ → τ → Prop} {environment : Environment σ} {calm : Environment τ}
  {world last : World σ} {other : World τ}

theorem World.wait_related (behave : environment.Spares related calm)
    (worlds : related world.outside other.outside) (token : Token)
    (duration : Calendar.Duration) :
    related (world.wait environment token duration).2.outside other.outside := by
  unfold wait
  split
  · exact worlds
  · exact behave.pause duration world.outside other.outside worlds

theorem World.ask_spared {call : Call} {next : σ → Answer (Outcome call.Response) × σ}
    {spared : τ → Answer (Outcome call.Response) × τ} (spares : Spares related next spared)
    (worlds : related world.outside other.outside) {outcome : Outcome call.Response}
    (made : world.ask call next = (outcome, last)) :
    (∃ error, outcome = .error error ∧ related last.outside other.outside) ∨
    ∃ value, outcome = .ok value ∧ (other.ask call spared).1 = .ok value ∧
      related last.outside (other.ask call spared).2.outside := by
  have comes := spares world.outside other.outside worlds
  rcases answered : next world.outside with ⟨answer, outside⟩
  rw [ask, answered] at made
  cases made
  rw [answered] at comes
  generalize otherwise : spared other.outside = brought at comes
  cases comes with
  | failure fails still => exact .inl ⟨_, fails, still⟩
  | value brings same further =>
      refine .inr ⟨_, brings, ?_⟩
      simp only [ask, otherwise]
      exact ⟨same, further⟩

theorem RetryPolicy.Attempted.spared {policy : RetryPolicy} {scope : Scope} {token : Token}
    {call : Call} {next : σ → Answer (Outcome call.Response) × σ}
    {spared : τ → Answer (Outcome call.Response) × τ} {started : Calendar.Duration}
    {failures : Nat} {result : Except Fault call.Response}
    (attempted : Attempted environment policy scope token (·.ask call next) started failures world
      result last)
    (behave : environment.Spares related calm) (spares : Spares related next spared)
    (worlds : related world.outside other.outside) :
    (∃ fault, result = .error fault ∧ fault.givesUp = true ∧
      related last.outside other.outside) ∨
    ∃ value, result = .ok value ∧ (other.ask call spared).1 = .ok value ∧
      related last.outside (other.ask call spared).2.outside := by
  -- A failed attempt, and the look at the clock behind it.
  have failed {world reached : World σ} {error : ServiceError}
      (worlds : related world.outside other.outside)
      (made : world.ask call next = (.error error, reached)) :
      related (reached.now environment).2.outside other.outside := by
    rcases World.ask_spared spares worlds made with ⟨_, -, still⟩ | ⟨_, brings, -⟩
    · exact still
    · cases brings
  induction attempted with
  | succeeded made =>
      rcases World.ask_spared spares worlds made with ⟨_, fails, -⟩ | ⟨_, brings, same⟩
      · cases fails
      · cases brings
        exact .inr ⟨_, rfl, same⟩
  | refused made final => exact .inl ⟨_, rfl, rfl, failed worlds made⟩
  | exhausted made retryable spent =>
      refine .inl ⟨_, rfl, ?_, failed worlds made⟩
      rw [surrender]
      split <;> rfl
  | interrupted made retryable allowed waited =>
      have rests := World.wait_related behave (failed worlds made) token policy.interval
      rw [waited] at rests
      exact .inl ⟨_, rfl, rfl, rests⟩
  | again made retryable allowed waited rest induction =>
      have rests := World.wait_related behave (failed worlds made) token policy.interval
      rw [waited] at rests
      exact induction rests

theorem RetryPolicy.run_spared (policy : RetryPolicy) (scope : Scope) (token : Token)
    (call : Call) {next : σ → Answer (Outcome call.Response) × σ}
    {spared : τ → Answer (Outcome call.Response) × τ}
    (behave : environment.Spares related calm) (spares : Spares related next spared)
    (worlds : related world.outside other.outside) {result : Except Fault call.Response}
    (ran : policy.run environment scope token (·.ask call next) world = (result, last)) :
    (∃ fault, result = .error fault ∧ fault.givesUp = true ∧
      related last.outside other.outside) ∨
    ∃ value reached, result = .ok value ∧
      policy.run calm scope token (·.ask call spared) other = (.ok value, reached) ∧
      related last.outside reached.outside := by
  have attempted := run_attempted environment policy scope token (·.ask call next) world
  rw [ran] at attempted
  have begun : related (world.now environment).2.outside (other.now calm).2.outside := worlds
  rcases attempted.spared behave spares begun with gaveUp | ⟨value, isValue, made, further⟩
  · exact .inl gaveUp
  · exact .inr ⟨value, _, isValue, run_eq (.succeeded (Prod.ext made rfl)), further⟩

end

/-! ## Sources -/

/-- What comes of a request, and of the same request where nothing fails that is asked for. A
request that is given up changes nothing, and it need not be made there. -/
inductive KeepsPace {γ δ : Type} (related : σ → τ → Prop) (change : γ → δ) (before : γ)
    (other : World τ) : Except Fault α × γ × World σ → Except Fault α × δ × World τ → Prop
  | givenUp {fault : Fault} {reached : World σ} {made : Except Fault α × δ × World τ}
      (gaveUp : fault.givesUp = true) (still : related reached.outside other.outside) :
      KeepsPace related change before other (.error fault, before, reached) made
  | further {answer : Except Fault α} {after : γ} {reached : World σ} {settled : World τ}
      (counts : ∀ fault, answer = .error fault → fault.givesUp = false)
      (further : related reached.outside settled.outside) :
      KeepsPace related change before other (answer, after, reached)
        (answer, change after, settled)

theorem KeepsPace.ok {γ δ : Type} {related : σ → τ → Prop} {change : γ → δ} {before after : γ}
    {other settled : World τ} {reached : World σ} {value : α}
    (further : related reached.outside settled.outside) :
    KeepsPace related change before other (.ok value, after, reached)
      (.ok value, change after, settled) := by
  apply KeepsPace.further _ further
  intro fault same
  cases same

namespace BulkSource

variable {environment : Environment σ} {source after : BulkSource σ} {world reached : World σ}
  {token : Option String} {fault : Fault}

theorem nextPage_fault {stream : FileStream} (proper : ResultFile.Proper stream.toCome)
    (turned : source.nextPage stream = (.error fault, after)) :
    ∃ message, fault = .resultFile message := by
  generalize coming : stream.toCome = batches at proper
  cases proper with
  | nothing =>
      rw [nextPage_of_nothing source coming] at turned
      cases turned
  | rows something behind =>
      rw [nextPage_of_rows source coming] at turned
      cases turned
  | broken message =>
      rw [nextPage_of_error source coming] at turned
      cases turned
      exact ⟨message, rfl⟩

/-- Only a failure of its file moves a source on. -/
theorem fetch_of_fault (proper : source.FileProper)
    (fetched : source.fetch environment token world = (.error fault, after, reached))
    (other : ∀ message, fault ≠ .resultFile message) : after = source := by
  rcases fetch_cases fetched with ⟨_, -, same, -⟩ | ⟨stream, turned, which⟩
  · exact same
  · rcases nextPage_fault (proper_of_which proper which) turned with ⟨message, rfl⟩
    exact absurd rfl (other message)

def Request.counts (request : Request) : Bool :=
  match request.answer with
  | .error (.usage _) => false
  | .error fault => !fault.givesUp
  | .ok _ => true

theorem Request.other_of_not_counts {token : Option String} {fault : Fault}
    (idle : Request.counts ⟨token, .error fault⟩ = false) (message : String) :
    fault ≠ .resultFile message := by
  rintro rfl
  cases idle

/-- Requests that were given up or turned down might as well not have been made. -/
theorem Requests.filter {fresh : BulkSource σ} {made : List Request}
    (closed : fresh.stream = none) (requests : Requests environment fresh made source) :
    Requests environment fresh (made.filter Request.counts) source := by
  induction requests with
  | nothing => exact .nothing
  | @next made source after world reached token answer earlier fetched induction =>
      rw [List.filter_append]
      cases counts : Request.counts ⟨token, answer⟩ with
      | true =>
          rw [List.filter_cons_of_pos counts]
          exact induction.next fetched
      | false =>
          rw [List.filter_cons_of_neg (by simp [counts]), List.filter_nil, List.append_nil]
          cases answer with
          | ok page => cases counts
          | error fault =>
              rw [fetch_of_fault (earlier.standing closed).1 fetched
                (Request.other_of_not_counts counts)]
              exact induction

end BulkSource

namespace Source

def spared (object : String → τ → Answer (Outcome Download) × τ) : Source σ → Source τ
  | .direct source => .direct source
  | .bulk source => .bulk (source.moved object source.token)

def Spares (related : σ → τ → Prop) (object : String → τ → Answer (Outcome Download) × τ) :
    Source σ → Prop
  | .direct _ => True
  | .bulk source => ∀ uri, RemoteQuery.Spares related (source.object uri) (object uri)

inductive Used (environment : Environment σ) : Source σ → Prop
  | direct (source : DirectSource) : Used environment (.direct source)
  | bulk {fresh source : BulkSource σ} {made : List BulkSource.Request}
      (closed : fresh.stream = none)
      (requests : BulkSource.Requests environment fresh made source) :
      Used environment (.bulk source)

section

variable {related : σ → τ → Prop} {environment : Environment σ} {calm : Environment τ}
  {object : String → τ → Answer (Outcome Download) × τ} {source after : Source σ}
  {world reached : World σ} {other : World τ} {token : Option String}
  {answer : Except Fault Page}

theorem fetch_used (used : source.Used environment)
    (fetched : source.fetch environment token world = (answer, after, reached)) :
    after.Used environment := by
  cases used with
  | direct source =>
      cases fetched
      exact .direct _
  | bulk closed requests =>
      cases fetched
      exact .bulk closed (requests.next rfl)

theorem fetch_spares (spares : source.Spares related object)
    (fetched : source.fetch environment token world = (answer, after, reached)) :
    after.Spares related object := by
  cases source with
  | direct source =>
      cases fetched
      exact trivial
  | bulk source =>
      cases fetched
      intro uri
      rw [(BulkSource.fetch_sameFile rfl).congr BulkSource.object fun _ => rfl]
      exact spares uri

end

/-! ### A request in both surroundings -/

section

variable {related : σ → τ → Prop} {environment : Environment σ} {calm : Environment τ}
  {object : String → τ → Answer (Outcome Download) × τ} {world : World σ} {other : World τ}

private theorem fetch_direct (behave : environment.Spares related calm) (source : DirectSource)
    (token : Option String) (worlds : related world.outside other.outside) :
    KeepsPace related (spared object) (.direct source) other
      ((Source.direct source).fetch environment token world)
      ((Source.direct source).fetch calm token other) := by
  rcases asked : source.retry.run environment source.subject.scope source.token
    (·.ask (.results source.subject.queryId token source.maxRows)
      (environment.results source.subject.queryId token source.maxRows)) world with
    ⟨result, reached⟩
  rcases source.retry.run_spared source.subject.scope source.token
    (.results source.subject.queryId token source.maxRows) behave
    (behave.results source.subject.queryId token source.maxRows) worlds asked with
    ⟨fault, rfl, gaveUp, still⟩ | ⟨part, settled, rfl, askedToo, further⟩
  · rw [DirectSource.fetch_of_fault asked]
    exact .givenUp gaveUp still
  · rw [DirectSource.fetch_of_part asked, DirectSource.fetch_of_part askedToo]
    exact .ok further

private theorem nextPage_keepsPace {source : BulkSource σ} {stream : FileStream}
    (proper : ResultFile.Proper stream.toCome) {reached : World σ} {settled : World τ}
    (further : related reached.outside settled.outside) :
    KeepsPace related (spared object) (.bulk source) other
      ((source.nextPage stream).1, .bulk (source.nextPage stream).2, reached)
      (((source.moved object source.token).nextPage stream).1,
        .bulk ((source.moved object source.token).nextPage stream).2, settled) := by
  rw [BulkSource.nextPage_moved]
  have sameToken : (source.nextPage stream).2.token = source.token :=
    (source.nextPage_sameFile stream).congr BulkSource.token fun _ => rfl
  rw [← sameToken]
  refine .further ?_ further
  intro fault fails
  rcases BulkSource.nextPage_fault proper (Prod.ext fails rfl) with ⟨message, rfl⟩
  rfl

private theorem fetch_bulk (behave : environment.Spares related calm) {source : BulkSource σ}
    (proper : source.FileProper)
    (spares : ∀ uri, RemoteQuery.Spares related (source.object uri) (object uri))
    (token : Option String) (worlds : related world.outside other.outside) :
    KeepsPace related (spared object) (.bulk source) other
      ((Source.bulk source).fetch environment token world)
      (((Source.bulk source).spared object).fetch calm token other) := by
  simp only [spared, fetch]
  cases token with
  | none =>
      rcases asked : source.askFile environment world with ⟨result, reached⟩
      rcases source.retry.run_spared source.subject.scope source.token
        (.object source.location.uri) behave (spares source.location.uri) worlds asked with
        ⟨fault, rfl, gaveUp, still⟩ | ⟨download, settled, rfl, ranToo, further⟩
      · rw [BulkSource.fetch_none_of_error asked]
        exact .givenUp gaveUp still
      · have askedToo : (source.moved object source.token).askFile calm other =
            (.ok download, settled) := ranToo
        rw [BulkSource.fetch_none asked, BulkSource.fetch_none askedToo]
        have properToo : ResultFile.Proper (source.opened download).toCome :=
          ResultFile.proper_batches _ _ _
        exact nextPage_keepsPace properToo further
  | some token =>
      by_cases latest : source.stream.map (·.pageToken) = some token
      · rcases Option.map_eq_some_iff.mp latest with ⟨stream, isOpen, rfl⟩
        have openToo : (source.moved object source.token).stream = some stream := isOpen
        rw [BulkSource.fetch_latest isOpen, BulkSource.fetch_latest openToo]
        exact nextPage_keepsPace (proper stream isOpen) worlds
      · have staleToo : (source.moved object source.token).stream.map (·.pageToken) ≠
            some token := latest
        rw [BulkSource.fetch_stale latest, BulkSource.fetch_stale staleToo]
        exact .further (fun fault fails => by cases fails; rfl) worlds

theorem fetch_keepsPace (behave : environment.Spares related calm) {source : Source σ}
    (spares : source.Spares related object) (used : source.Used environment)
    (token : Option String) (worlds : related world.outside other.outside) :
    KeepsPace related (spared object) source other (source.fetch environment token world)
      ((source.spared object).fetch calm token other) := by
  cases used with
  | direct source => exact fetch_direct behave source token worlds
  | bulk closed requests =>
      exact fetch_bulk behave (requests.standing closed).1 spares token worlds

end

end Source

/-! ## Walks -/

namespace Pager

def spared (object : String → τ → Answer (Outcome Download) × τ) (pager : Pager σ) : Pager τ :=
  { source := pager.source.spared object
    nextToken := pager.nextToken
    started := pager.started
    exhausted := pager.exhausted
    columns := pager.columns }

section

variable (object : String → τ → Answer (Outcome Download) × τ) (pager : Pager σ)

@[simp] theorem source_spared : (pager.spared object).source = pager.source.spared object := rfl

@[simp] theorem exhausted_spared : (pager.spared object).exhausted = pager.exhausted := rfl

@[simp] theorem pageToken_spared : (pager.spared object).pageToken = pager.pageToken := rfl

end

inductive Step
  | asked (answer : Except Fault (Option Page))
  | restarted

def Step.happens : Step → Bool
  | .asked (.error fault) => !fault.givesUp
  | .asked (.ok _) | .restarted => true

inductive Journey (environment : Environment σ) :
    Pager σ → World σ → List Step → Pager σ → World σ → Prop
  | nothing {pager : Pager σ} {world : World σ} : Journey environment pager world [] pager world
  | asked {pager middle last : Pager σ} {world between reached : World σ}
      {answer : Except Fault (Option Page)} {later : List Step}
      (asked : pager.next environment world = (answer, middle, between))
      (rest : Journey environment middle between later last reached) :
      Journey environment pager world (.asked answer :: later) last reached
  | restarted {pager last : Pager σ} {world reached : World σ} {later : List Step}
      (rest : Journey environment pager.restart world later last reached) :
      Journey environment pager world (.restarted :: later) last reached

theorem Journey.next {environment : Environment σ} {pager last : Pager σ}
    {world reached : World σ} {later : List Step}
    (rest : Journey environment (pager.next environment world).2.1
      (pager.next environment world).2.2 later last reached) :
    Journey environment pager world (.asked (pager.next environment world).1 :: later) last
      reached :=
  .asked rfl rest

section

variable {related : σ → τ → Prop} {environment : Environment σ} {calm : Environment τ}
  {object : String → τ → Answer (Outcome Download) × τ} {pager after last : Pager σ}
  {world reached : World σ} {other : World τ} {answer : Except Fault (Option Page)}
  {steps : List Step}

theorem next_keepsPace (behave : environment.Spares related calm)
    (spares : pager.source.Spares related object) (used : pager.source.Used environment)
    (worlds : related world.outside other.outside) :
    KeepsPace related (spared object) pager other (pager.next environment world)
      ((pager.spared object).next calm other) := by
  have keepsPace := Source.fetch_keepsPace behave spares used pager.pageToken worlds
  by_cases ended : pager.exhausted = true
  · rw [next, next, exhausted_spared, if_pos ended, if_pos ended]
    exact .ok worlds
  · rw [next, next, exhausted_spared, if_neg ended, if_neg ended, source_spared,
      pageToken_spared]
    generalize pager.source.fetch environment pager.pageToken world = made at keepsPace ⊢
    generalize (pager.source.spared object).fetch calm pager.pageToken other = madeToo
      at keepsPace ⊢
    cases keepsPace with
    | givenUp gaveUp still => exact .givenUp gaveUp still
    | @further answer _ _ _ counts further =>
        cases answer with
        | error fault =>
            apply KeepsPace.further _ further
            intro fault same
            cases same
            exact counts fault rfl
        | ok page => exact .ok further

theorem next_usable (spares : pager.source.Spares related object)
    (used : pager.source.Used environment)
    (asked : pager.next environment world = (answer, after, reached)) :
    after.source.Spares related object ∧ after.source.Used environment := by
  rcases exists_fetch asked with rfl | ⟨result, fetched, -⟩
  · exact ⟨spares, used⟩
  · exact ⟨Source.fetch_spares spares fetched, Source.fetch_used used fetched⟩

theorem Journey.keepsPace (behave : environment.Spares related calm)
    (journey : Journey environment pager world steps last reached)
    (spares : pager.source.Spares related object) (used : pager.source.Used environment)
    (worlds : related world.outside other.outside) :
    (last.source.Spares related object ∧ last.source.Used environment) ∧
    ∃ settled, Journey calm (pager.spared object) other (steps.filter Step.happens)
        (last.spared object) settled ∧
      related reached.outside settled.outside := by
  induction journey generalizing other with
  | nothing => exact ⟨⟨spares, used⟩, other, .nothing, worlds⟩
  | @asked pager middle last world between reached answer later asked rest induction =>
      rcases next_usable spares used asked with ⟨sparesToo, usedToo⟩
      have keepsPace := next_keepsPace behave spares used worlds
      rw [asked] at keepsPace
      generalize askedToo : (pager.spared object).next calm other = made at keepsPace
      cases keepsPace with
      | @givenUp fault _ _ gaveUp still =>
          have idle : ¬Step.happens (.asked (.error fault)) := by simp [Step.happens, gaveUp]
          rw [List.filter_cons_of_neg idle]
          exact induction sparesToo usedToo still
      | @further _ _ _ settled counts further =>
          have happens : Step.happens (.asked answer) = true := by
            cases answer with
            | ok page => rfl
            | error fault => simp [Step.happens, counts fault rfl]
          rw [List.filter_cons_of_pos happens]
          rcases induction sparesToo usedToo further with ⟨usable, behind, journeyToo, same⟩
          exact ⟨usable, behind, .asked askedToo journeyToo, same⟩
  | restarted rest induction =>
      rw [List.filter_cons_of_pos rfl]
      rcases induction spares used worlds with ⟨usable, behind, journeyToo, same⟩
      exact ⟨usable, behind, .restarted journeyToo, same⟩

/-- A request for a page that is given up leaves a walk and its source as they are. The other
steps of a journey, in their order, are a journey in surroundings where none of the failures
happens, with the same answers and the same end. A request to a file that cannot be begun, or
that is turned down, might as well not have been made. -/
theorem Journey.standsStill (behave : environment.Spares related calm)
    (spares : pager.source.Spares related object) (used : pager.source.Used environment)
    (worlds : related world.outside other.outside)
    (journey : Journey environment pager world steps last reached) :
    (∀ fault after behind, last.next environment reached = (.error fault, after, behind) →
      fault.givesUp = true → after = last) ∧
    (∃ settled, Journey calm (pager.spared object) other (steps.filter Step.happens)
      (last.spared object) settled) ∧
    ∀ fresh source made, fresh.stream = none →
      BulkSource.Requests environment fresh made source →
      (∀ fault world behind, source.download environment world = (.error fault, behind) →
        source.fetch environment none world = (.error fault, source, behind)) ∧
      BulkSource.Requests environment fresh (made.filter BulkSource.Request.counts) source := by
  rcases journey.keepsPace behave spares used worlds with
    ⟨⟨sparesToo, usedToo⟩, settled, journeyToo, same⟩
  refine ⟨?_, ⟨settled, journeyToo⟩, ?_⟩
  · intro fault after behind failed gaveUp
    have keepsPace := next_keepsPace behave sparesToo usedToo same
    rw [failed] at keepsPace
    generalize (last.spared object).next calm settled = made at keepsPace
    cases keepsPace with
    | givenUp => rfl
    | further counts => cases (counts fault rfl).symm.trans gaveUp
  · intro fresh source made closed requests
    refine ⟨?_, requests.filter closed⟩
    intro fault world behind failed
    rw [BulkSource.fetch, failed]

end

/-! ### A store that is refused twice -/

def Calmed (script calm : Rehearsal.Script) : Prop :=
  calm = { script with resultCalls := [], objectCalls := [] }

private theorem spared_step (current : Option Token) (step : Rehearsal.Step Unit)
    (outcome : Outcome α) {script calm : Rehearsal.Script} (worlds : Calmed script calm) :
    Spared Calmed calm ((step.andThen fun _ => outcome).toAnswer current, script)
      ((Rehearsal.succeeds.andThen fun _ => outcome).toAnswer current, calm) := by
  rcases step with ⟨_ | ⟨⟩, fires, delay, silent⟩
  · exact .failure rfl worlds
  · cases outcome with
    | error error => exact .failure rfl worlds
    | ok value => exact .value rfl rfl worlds

private theorem environment_spares :
    Environment.Spares Calmed (Rehearsal.environment true default)
      (Rehearsal.environment true default) where
  results := by
    rintro queryId token maxRows script calm rfl
    exact spared_step _ _ _ rfl
  pause := fun _ _ _ worlds => worlds

private theorem object_spares (uri : String) :
    Spares Calmed (Rehearsal.object uri) (Rehearsal.object uri) := by
  rintro script calm rfl
  exact spared_step _ _ _ rfl

/-- A store with a file of two rows, which cannot be had at the first time and at the third. -/
def refusedTwice : World Rehearsal.Script :=
  { outside :=
      { objects := [("s3://results/q1.tsv", { pieces := [[97, 10, 98, 10]] })]
        objectCalls :=
          [{ outcome := .error (.programming "denied") }, Rehearsal.succeeds,
            { outcome := .error (.programming "denied") }, Rehearsal.succeeds] } }

/-- A walk that fails at its beginning, comes to its first page, begins again, fails again and
comes to its end has the pages of one in a store that is never refused. -/
theorem standsStill_refusedTwice :
    ∃ steps last reached,
      Journey (Rehearsal.environment true default) { source := .bulk (fileSource 1) }
        refusedTwice steps last reached ∧
      steps.length = 6 ∧ (steps.filter Step.happens).length = 4 ∧
      ∃ settled, Journey (Rehearsal.environment true default) { source := .bulk (fileSource 1) }
        BulkSource.twoRows (steps.filter Step.happens) (last.spared Rehearsal.object) settled := by
  have journey : Journey (Rehearsal.environment true default)
      { source := .bulk (fileSource 1) } refusedTwice _ _ _ :=
    .next (.next (.restarted (.next (.next (.next .nothing)))))
  have spares : (Source.bulk (fileSource 1)).Spares Calmed Rehearsal.object := object_spares
  have worlds : Calmed refusedTwice.outside BulkSource.twoRows.outside := rfl
  exact ⟨_, _, _, journey, rfl, by decide +kernel,
    (journey.standsStill environment_spares spares (.bulk rfl .nothing) worlds).2.1⟩

end Pager

end RemoteQuery
