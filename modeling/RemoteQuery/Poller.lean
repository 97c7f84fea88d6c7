import RemoteQuery.Config.Basic
import RemoteQuery.Execution
import RemoteQuery.Retry.Policy
import RemoteQuery.Service.RequestToken

namespace RemoteQuery

open Calendar (Duration)

/-! A query is looked at again and again until it has ended. Every look and every wait
between two looks races the caller's token. -/

structure Poller where
  interval : Duration
  retry : RetryPolicy
  /-- A query that the caller gives up is also ended at the service. -/
  killOnInterrupt : Bool
  timeout : Option Duration
deriving Repr, DecidableEq

def Config.retryPolicy (config : Config) : RetryPolicy :=
  { interval := config.pollInterval
    maxAttempts := config.retryMaxAttempts
    maxDuration := config.retryMaxDuration }

def Config.poller (config : Config) : Poller :=
  { interval := config.pollInterval
    retry := config.retryPolicy
    killOnInterrupt := config.killOnInterrupt
    timeout := config.queryTimeout }

/-! ## Submission -/

def Config.submission (config : Config) (sql requestToken : String) : Submission :=
  { sql, requestToken
    database := config.database
    catalog := config.catalog
    workGroup := config.workGroup
    outputLocation := config.outputLocation }

/-- Submit a query. A rejection is final. -/
def submit {σ : Type} (environment : Environment σ) (config : Config) (sql : String)
    (world : World σ) : Except Fault Execution × World σ :=
  let (bits, outside) := environment.random world.outside
  match environment.askSubmit (config.submission sql (RequestToken.ofRandom bits))
      { world with outside } with
  | (.error error, world) => (.error (.submission error.toString), world)
  | (.ok queryId, world) =>
      (.ok { queryId, sql
             database := config.database
             catalog := config.catalog
             submittedAt := environment.wallClock world.clock }, world)

namespace Poller

variable {σ : Type}

/-- A run of failing looks: how many there were, and when the first of them failed. -/
structure Failing where
  count : Nat
  since : Duration
deriving Repr, DecidableEq

def Failing.another (now : Duration) : Option Failing → Failing
  | none => { count := 1, since := now }
  | some failing => { failing with count := failing.count + 1 }

structure Progress (σ : Type) where
  execution : Execution
  failing : Option Failing := none
  world : World σ

structure Conclusion (σ : Type) where
  outcome : Except Fault Unit
  execution : Execution
  world : World σ

inductive Step (σ : Type) where
  | concluded (conclusion : Conclusion σ)
  | continued (progress : Progress σ)
  /-- The look never ends. -/
  | stuck

/-! ## Giving up -/

/-- Ask the service to end a query. Whether it does is not waited for. -/
def requestCancel (environment : Environment σ) (queryId : String) (world : World σ) : World σ :=
  (environment.askCancel queryId world).2

def abort (poller : Poller) (environment : Environment σ) (execution : Execution)
    (world : World σ) : Conclusion σ :=
  { outcome := .error (.cancelled execution.queryId)
    execution
    world :=
      if poller.killOnInterrupt then requestCancel environment execution.queryId world
      else world }

def giveUp (environment : Environment σ) (message : String) (execution : Execution)
    (world : World σ) : Conclusion σ :=
  { outcome := .error (.terminal (some execution.queryId) message)
    execution := execution.markFailed message (environment.wallClock world.clock)
    world }

def timeoutMessage (timeout : Duration) : String :=
  "query timed out after " ++ timeout.toString

/-- The time for the query is over. The query is ended at the service, too. -/
def expire (environment : Environment σ) (timeout : Duration) (execution : Execution)
    (world : World σ) : Conclusion σ :=
  giveUp environment (timeoutMessage timeout) execution
    (requestCancel environment execution.queryId world)

/-- The timeout, if there is one and its time has come. -/
def overdue? (poller : Poller) (environment : Environment σ) (started : Duration)
    (world : World σ) : Option Duration × World σ :=
  match poller.timeout with
  | none => (none, world)
  | some timeout =>
      let (now, world) := world.now environment
      (if timeout ≤ now - started then some timeout else none, world)

/-! ## Looking -/

def verdict? (execution : Execution) : Option (Except Fault Unit) :=
  match execution.state with
  | .succeeded => some (.ok ())
  | .failed =>
      some (.error (.terminal (some execution.queryId)
        (execution.errorMessage.getD "query failed without a reason")))
  | .cancelled => some (.error (.cancelled execution.queryId))
  | .queued | .running => none

def rest (poller : Poller) (environment : Environment σ) (token : Token)
    (progress : Progress σ) : Step σ :=
  match progress.world.wait environment token poller.interval with
  | (true, world) => .concluded (poller.abort environment progress.execution world)
  | (false, world) => .continued { progress with world }

/-- Go on after a status. A token that has been fired by now comes before anything that
the status says. -/
def afterStatus (poller : Poller) (environment : Environment σ) (token : Token)
    (execution : Execution) (status : Status) (world : World σ) : Step σ :=
  let execution := execution.applyStatus status (environment.wallClock world.clock)
  if world.isFired token then .concluded (poller.abort environment execution world)
  else
    match verdict? execution with
    | some outcome => .concluded { outcome, execution, world }
    | none => poller.rest environment token { execution, world }

/-- Go on after a look that failed, unless it failed for good or too often. -/
def afterError (poller : Poller) (environment : Environment σ) (token : Token)
    (progress : Progress σ) (error : ServiceError) : Step σ :=
  let execution := progress.execution
  let (now, world) := progress.world.now environment
  let failing := Failing.another now progress.failing
  if !error.isRetryable execution.database execution.catalog then
    .concluded (giveUp environment error.message execution world)
  else
    let (later, world) := world.now environment
    -- The times of settings are short: the sum that the policy asks for is a duration.
    if poller.retry.allows failing.count (later - failing.since) then
      poller.rest environment token { execution, failing := some failing, world }
    else
      .concluded
        (giveUp environment (RetryPolicy.exhaustedMessage error.message) execution world)

def step (poller : Poller) (environment : Environment σ) (token : Token) (started : Duration)
    (progress : Progress σ) : Step σ :=
  let execution := progress.execution
  if progress.world.isFired token then
    .concluded (poller.abort environment execution progress.world)
  else
    match poller.overdue? environment started progress.world with
    | (some timeout, world) => .concluded (expire environment timeout execution world)
    | (none, world) =>
        match world.race token (.status execution.queryId)
            (environment.status execution.queryId) with
        | (.stuck, _) => .stuck
        | (.interrupted, world) => .concluded (poller.abort environment execution world)
        | (.answered (.ok status), world) =>
            poller.afterStatus environment token execution status world
        | (.answered (.error error), world) =>
            poller.afterError environment token { progress with world } error

/-- At most `limit` looks, until the query has ended or is given up. Without an end,
there is no conclusion. -/
def follow (poller : Poller) (environment : Environment σ) (token : Token) (started : Duration) :
    (limit : Nat) → Progress σ → Option (Conclusion σ)
  | 0, _ => none
  | limit + 1, progress =>
      match poller.step environment token started progress with
      | .concluded conclusion => some conclusion
      | .continued progress => follow poller environment token started limit progress
      | .stuck => none

def pollUntilTerminal (poller : Poller) (environment : Environment σ) (token : Token)
    (limit : Nat) (execution : Execution) (world : World σ) : Option (Conclusion σ) :=
  let (started, world) := world.now environment
  poller.follow environment token started limit { execution, world }

end Poller

end RemoteQuery
