import Mathlib.Data.List.Forall2
import RemoteQuery.Proofs.History

/-! # Twin worlds

Two worlds are twins if the same happens in both from some time on: calls are answered
alike, and answers and waits take as long. What was before does not matter, and neither do
the numbers of tokens and the random bits with which queries are submitted.
-/

namespace RemoteQuery

open Calendar (Duration)

variable {σ τ α β : Type}

/-- A submission without what makes it unlike any other. -/
def Submission.masked (submission : Submission) : Submission :=
  { submission with requestToken := "" }

def Call.masked : Call → Call
  | .submit submission => .submit submission.masked
  | call => call

/-- As much time goes by from one time to another as from a time to another of a clock that
was set differently. -/
def SameSpan (start time startTwin timeTwin : Nat) : Prop :=
  time + startTwin = timeTwin + start

namespace SameSpan

variable {start time startTwin timeTwin later laterTwin : Nat}

theorem refl (start startTwin : Nat) : SameSpan start start startTwin startTwin :=
  Nat.add_comm _ _

theorem add (span : SameSpan start time startTwin timeTwin) (more : Nat) :
    SameSpan start (time + more) startTwin (timeTwin + more) := by
  unfold SameSpan at *
  omega

theorem sub_eq (span : SameSpan start time startTwin timeTwin)
    (longer : SameSpan start later startTwin laterTwin) :
    laterTwin - timeTwin = later - time := by
  unfold SameSpan at *
  omega

end SameSpan

/-- The same call but for a request token, made as long after a time as after another one. -/
structure Sent.Alike (start startTwin : Nat) (sent sentTwin : Sent) : Prop where
  call : sentTwin.call.masked = sent.call.masked
  time : SameSpan start sent.time startTwin sentTwin.time

inductive Fault.Shared (related : α → β → Prop) : Except Fault α → Except Fault β → Prop
  | error (fault : Fault) : Shared related (.error fault) (.error fault)
  | ok {value : α} {valueTwin : β} (holds : related value valueTwin) :
      Shared related (.ok value) (.ok valueTwin)

/-- Two worlds at some time, and what stands for what in them from then on. -/
structure Twins (σ τ : Type) where
  start : World σ
  startTwin : World τ
  outside : σ → τ → Prop
  token : Token → Token → Prop
  /-- Tokens that are made from now on stand for each other. -/
  making : Prop

namespace Twins

variable (twins : Twins σ τ)

def Fires (fired firedTwin : List Token) : Prop :=
  ∀ token tokenTwin, twins.token token tokenTwin →
    firedTwin.contains tokenTwin = fired.contains token

structure Answers (answer answerTwin : Answer α) : Prop where
  outcome : answerTwin.outcome = answer.outcome
  delay : answerTwin.delay = answer.delay
  early : twins.Fires answer.early answerTwin.early
  late : twins.Fires answer.late answerTwin.late

inductive Replies : Reply α → Reply α → Prop
  | answer {answer answerTwin : Answer α} (answers : twins.Answers answer answerTwin) :
      Replies (.answer answer) (.answer answerTwin)
  | silence {fired firedTwin : List Token} (fires : twins.Fires fired firedTwin) :
      Replies (.silence fired) (.silence firedTwin)

/-- Where the surroundings stand for each other, the same comes of them, and they still do. -/
def Alike (related : α → β → Prop) (next : σ → α × σ) (nextTwin : τ → β × τ) : Prop :=
  ∀ outside outsideTwin, twins.outside outside outsideTwin →
    related (next outside).1 (nextTwin outsideTwin).1 ∧
      twins.outside (next outside).2 (nextTwin outsideTwin).2

/-- Surroundings that behave alike, whatever random bits they have. -/
structure Environments (environment : Environment σ) (environmentTwin : Environment τ) :
    Prop where
  submit : ∀ submission submissionTwin : Submission, submissionTwin.masked = submission.masked →
    twins.Alike twins.Answers (environment.submit submission)
      (environmentTwin.submit submissionTwin)
  status : ∀ queryId,
    twins.Alike twins.Replies (environment.status queryId) (environmentTwin.status queryId)
  results : ∀ queryId pageToken maxRows,
    twins.Alike twins.Answers (environment.results queryId pageToken maxRows)
      (environmentTwin.results queryId pageToken maxRows)
  cancel : ∀ queryId,
    twins.Alike twins.Answers (environment.cancel queryId) (environmentTwin.cancel queryId)
  schema : ∀ table,
    twins.Alike twins.Answers (environment.schema table) (environmentTwin.schema table)
  object : Option.Rel (fun object objectTwin =>
      ∀ uri, twins.Alike twins.Answers (object uri) (objectTwin uri))
    environment.object environmentTwin.object
  pause : ∀ duration,
    twins.Alike twins.Fires (environment.pause duration) (environmentTwin.pause duration)
  random : twins.Alike (fun _ _ => True) environment.random environmentTwin.random
  step : environmentTwin.step = environment.step
  wallClock : environmentTwin.wallClock = environment.wallClock

structure Worlds (world : World σ) (worldTwin : World τ) : Prop where
  outside : twins.outside world.outside worldTwin.outside
  clock : SameSpan twins.start.clock world.clock twins.startTwin.clock worldTwin.clock
  fired : twins.Fires world.fired worldTwin.fired
  made : twins.making → ∀ ahead,
    twins.token ⟨world.nextToken + ahead⟩ ⟨worldTwin.nextToken + ahead⟩
  calls : ∃ calls callsTwin, world.sent = twins.start.sent ++ calls ∧
    worldTwin.sent = twins.startTwin.sent ++ callsTwin ∧
    List.Forall₂ (Sent.Alike twins.start.clock twins.startTwin.clock) calls callsTwin

structure Ends (made : α × World σ) (madeTwin : α × World τ) : Prop where
  answer : madeTwin.1 = made.1
  world : twins.Worlds made.2 madeTwin.2

def InStep (act : World σ → α × World σ) (actTwin : World τ → α × World τ) : Prop :=
  ∀ world worldTwin, twins.Worlds world worldTwin → twins.Ends (act world) (actTwin worldTwin)

variable {twins} {world : World σ} {worldTwin : World τ} {token tokenTwin : Token}
  {environment : Environment σ} {environmentTwin : Environment τ}

theorem Ends.exists {made : α × World σ} {madeTwin : α × World τ}
    (ends : twins.Ends made madeTwin) :
    ∃ answer reached reachedTwin, made = (answer, reached) ∧ madeTwin = (answer, reachedTwin) ∧
      twins.Worlds reached reachedTwin :=
  ⟨made.1, made.2, madeTwin.2, rfl, Prod.ext ends.answer rfl, ends.world⟩

theorem Ends.follows {made : α × World σ} {madeTwin : α × World τ} {answer : α}
    {reached : World σ} (ends : twins.Ends made madeTwin) (known : made = (answer, reached)) :
    ∃ reachedTwin, madeTwin = (answer, reachedTwin) ∧ twins.Worlds reached reachedTwin := by
  subst known
  exact ⟨madeTwin.2, Prod.ext ends.answer rfl, ends.world⟩

theorem Fires.append {fired firedTwin more moreTwin : List Token}
    (fires : twins.Fires fired firedTwin) (further : twins.Fires more moreTwin) :
    twins.Fires (fired ++ more) (firedTwin ++ moreTwin) := by
  intro token tokenTwin paired
  rw [List.contains_append, List.contains_append, fires token tokenTwin paired,
    further token tokenTwin paired]

namespace Worlds

theorem isFired_eq (worlds : twins.Worlds world worldTwin)
    (paired : twins.token token tokenTwin) :
    worldTwin.isFired tokenTwin = world.isFired token :=
  worlds.fired token tokenTwin paired

theorem now (worlds : twins.Worlds world worldTwin)
    (behave : twins.Environments environment environmentTwin) :
    twins.Worlds (world.now environment).2 (worldTwin.now environmentTwin).2 :=
  { worlds with
    clock := by
      simp only [World.now, behave.step]
      exact worlds.clock.add environment.step }

theorem now_sub_eq (worlds : twins.Worlds world worldTwin)
    (behave : twins.Environments environment environmentTwin) {time timeTwin : Duration}
    (span : SameSpan twins.start.clock time twins.startTwin.clock timeTwin) :
    (worldTwin.now environmentTwin).1 - timeTwin = (world.now environment).1 - time :=
  span.sub_eq (worlds.now behave).clock

private theorem noted (worlds : twins.Worlds world worldTwin) {outside : σ} {outsideTwin : τ}
    {fired firedTwin : List Token} {sent : Sent} {sentTwin : Sent}
    (outsides : twins.outside outside outsideTwin) (delay : Duration)
    (fires : twins.Fires fired firedTwin) (call : sentTwin.call.masked = sent.call.masked)
    (time : sent.time = world.clock) (timeTwin : sentTwin.time = worldTwin.clock) :
    twins.Worlds
      (({ world with outside, clock := world.clock + delay }.fire fired).note sent)
      (({ worldTwin with outside := outsideTwin, clock := worldTwin.clock + delay }.fire
        firedTwin).note sentTwin) := by
  rcases worlds.calls with ⟨calls, callsTwin, sents, sentsTwin, same⟩
  refine ⟨outsides, worlds.clock.add delay, worlds.fired.append fires, worlds.made,
    calls ++ [sent], callsTwin ++ [sentTwin], ?_, ?_, ?_⟩
  · simp only [World.note, World.fire, sents, List.append_assoc]
  · simp only [World.note, World.fire, sentsTwin, List.append_assoc]
  · exact List.rel_append same (.cons ⟨call, time ▸ timeTwin ▸ worlds.clock⟩ .nil)

theorem ask (worlds : twins.Worlds world worldTwin) (call : Call)
    {next : σ → Answer (Outcome call.Response) × σ}
    {nextTwin : τ → Answer (Outcome call.Response) × τ}
    (alike : twins.Alike twins.Answers next nextTwin) :
    twins.Ends (world.ask call next) (worldTwin.ask call nextTwin) := by
  rcases alike _ _ worlds.outside with ⟨⟨outcome, delay, early, late⟩, outsides⟩
  refine ⟨outcome, ?_⟩
  simp only [World.ask, delay]
  exact worlds.noted outsides _ (early.append late) rfl rfl rfl

theorem askSubmit (worlds : twins.Worlds world worldTwin)
    (behave : twins.Environments environment environmentTwin)
    {submission submissionTwin : Submission}
    (same : submissionTwin.masked = submission.masked) :
    twins.Ends (environment.askSubmit submission world)
      (environmentTwin.askSubmit submissionTwin worldTwin) := by
  rcases behave.submit submission submissionTwin same _ _ worlds.outside with
    ⟨⟨outcome, delay, early, late⟩, outsides⟩
  refine ⟨outcome, ?_⟩
  simp only [Environment.askSubmit, World.ask, delay]
  exact worlds.noted outsides _ (early.append late) (congrArg Call.submit same) rfl rfl

theorem race (worlds : twins.Worlds world worldTwin) (paired : twins.token token tokenTwin)
    (call : Call) {next : σ → Reply (Outcome call.Response) × σ}
    {nextTwin : τ → Reply (Outcome call.Response) × τ}
    (alike : twins.Alike twins.Replies next nextTwin) :
    twins.Ends (world.race token call next) (worldTwin.race tokenTwin call nextTwin) := by
  have answered := alike _ _ worlds.outside
  unfold World.race
  rcases replied : next world.outside with ⟨reply, outside⟩
  rcases repliedTwin : nextTwin worldTwin.outside with ⟨replyTwin, outsideTwin⟩
  rw [replied, repliedTwin] at answered
  rcases answered with ⟨replies, outsides⟩
  cases replies with
  | silence fires =>
      dsimp only
      rw [fires token tokenTwin paired]
      exact ⟨rfl, worlds.noted outsides 0 fires rfl rfl rfl⟩
  | answer answers =>
      rcases answers with ⟨outcome, delay, early, late⟩
      dsimp only
      rw [early token tokenTwin paired, outcome, delay]
      split
      · exact ⟨rfl, worlds.noted outsides _ early rfl rfl rfl⟩
      · exact ⟨rfl, worlds.noted outsides _ (early.append late) rfl rfl rfl⟩

theorem wait (worlds : twins.Worlds world worldTwin)
    (behave : twins.Environments environment environmentTwin)
    (paired : twins.token token tokenTwin) (duration : Duration) :
    twins.Ends (world.wait environment token duration)
      (worldTwin.wait environmentTwin tokenTwin duration) := by
  unfold World.wait
  rw [worlds.isFired_eq paired]
  split
  · exact ⟨rfl, worlds⟩
  · rcases behave.pause duration _ _ worlds.outside with ⟨fires, outsides⟩
    exact ⟨fires token tokenTwin paired, outsides, worlds.clock.add duration,
      worlds.fired.append fires, worlds.made, worlds.calls⟩

end Worlds

/-! ## Retried calls -/

theorem askSchema_inStep (behave : twins.Environments environment environmentTwin)
    (table : Table) :
    twins.InStep (environment.askSchema table) (environmentTwin.askSchema table) :=
  fun _ _ worlds => worlds.ask (.schema table) (behave.schema table)

theorem askResults_inStep (behave : twins.Environments environment environmentTwin)
    (queryId : String) (pageToken : Option String) (maxRows : Nat) :
    twins.InStep (environment.askResults queryId pageToken maxRows)
      (environmentTwin.askResults queryId pageToken maxRows) :=
  fun _ _ worlds => worlds.ask (.results queryId pageToken maxRows)
    (behave.results queryId pageToken maxRows)

section

open RetryPolicy (Attempted)

variable {policy : RetryPolicy} {scope : Scope} {attempt : World σ → Outcome α × World σ}
  {attemptTwin : World τ → Outcome α × World τ}

theorem attempted_twin {started startedTwin : Duration} {failures : Nat} {last : World σ}
    {result : Except Fault α} (behave : twins.Environments environment environmentTwin)
    (paired : twins.token token tokenTwin) (attempts : twins.InStep attempt attemptTwin)
    (span : SameSpan twins.start.clock started twins.startTwin.clock startedTwin)
    (worlds : twins.Worlds world worldTwin)
    (attempted : Attempted environment policy scope token attempt started failures world result
      last) :
    ∃ lastTwin, Attempted environmentTwin policy scope tokenTwin attemptTwin startedTwin failures
      worldTwin result lastTwin ∧ twins.Worlds last lastTwin := by
  induction attempted generalizing worldTwin with
  | succeeded made =>
      rcases (attempts _ _ worlds).follows made with ⟨reachedTwin, madeTwin, reaches⟩
      exact ⟨_, .succeeded madeTwin, reaches⟩
  | refused made final =>
      rcases (attempts _ _ worlds).follows made with ⟨reachedTwin, madeTwin, reaches⟩
      exact ⟨_, .refused madeTwin final, reaches.now behave⟩
  | exhausted made retryable spent =>
      rcases (attempts _ _ worlds).follows made with ⟨reachedTwin, madeTwin, reaches⟩
      rw [← reaches.now_sub_eq behave span] at spent ⊢
      exact ⟨_, .exhausted madeTwin retryable spent, reaches.now behave⟩
  | interrupted made retryable allowed waited =>
      rcases (attempts _ _ worlds).follows made with ⟨reachedTwin, madeTwin, reaches⟩
      rcases ((reaches.now behave).wait behave paired _).follows waited with
        ⟨restedTwin, waitedTwin, rests⟩
      rw [← reaches.now_sub_eq behave span] at allowed
      exact ⟨_, .interrupted madeTwin retryable allowed waitedTwin, rests⟩
  | again made retryable allowed waited rest induction =>
      rcases (attempts _ _ worlds).follows made with ⟨reachedTwin, madeTwin, reaches⟩
      rcases ((reaches.now behave).wait behave paired _).follows waited with
        ⟨restedTwin, waitedTwin, rests⟩
      rcases induction rests with ⟨lastTwin, restTwin, ends⟩
      rw [← reaches.now_sub_eq behave span] at allowed
      exact ⟨lastTwin, .again madeTwin retryable allowed waitedTwin restTwin, ends⟩

theorem run_inStep (behave : twins.Environments environment environmentTwin)
    (paired : twins.token token tokenTwin) (policy : RetryPolicy) (scope : Scope)
    (attempts : twins.InStep attempt attemptTwin) :
    twins.InStep (policy.run environment scope token attempt)
      (policy.run environmentTwin scope tokenTwin attemptTwin) := by
  intro world worldTwin worlds
  rcases attempted_twin behave paired attempts (worlds.now behave).clock (worlds.now behave)
    (RetryPolicy.run_attempted environment policy scope token attempt world) with
    ⟨lastTwin, attemptedTwin, ends⟩
  rw [RetryPolicy.run_eq attemptedTwin]
  exact ⟨rfl, ends⟩

end

end Twins

end RemoteQuery
