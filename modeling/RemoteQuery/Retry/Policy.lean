import RemoteQuery.Fault
import RemoteQuery.Retry.MissingObject
import RemoteQuery.World

namespace RemoteQuery

open Calendar (Duration)

/-- How often, how long and at what distance a failing call is made again. -/
structure RetryPolicy where
  interval : Duration := 10 ^ 9
  maxAttempts : UInt32 := 10
  maxDuration : Duration := 300 * 10 ^ 9
deriving Repr, DecidableEq, Inhabited

structure Scope where
  queryId : Option String
  database : String
  catalog : String
deriving Repr, DecidableEq, Inhabited

namespace RetryPolicy

variable {σ α : Type}

/-- There may be another attempt after a number of failures and a time since the first
attempt began. -/
def allows (policy : RetryPolicy) (failures : Nat) (elapsed : Duration) : Bool :=
  failures < policy.maxAttempts.toNat ∧ elapsed + policy.interval ≤ policy.maxDuration

/-- There is an attempt left, but the time at which it would begin is not a duration. -/
def overflows (policy : RetryPolicy) (failures : Nat) (elapsed : Duration) : Bool :=
  failures < policy.maxAttempts.toNat ∧ Duration.limit ≤ elapsed + policy.interval

def exhaustedMessage (message : String) : String :=
  "retry budget exhausted: " ++ message

/-- What a call is given up with that may not be made again. -/
def surrender (policy : RetryPolicy) (scope : Scope) (failures : Nat) (elapsed : Duration)
    (message : String) : Fault :=
  if policy.overflows failures elapsed then .overflow
  else .terminal scope.queryId (exhaustedMessage message)

/-- Attempts from one on, after a number of failures. `left` bounds their number.

The token is looked at first when a wait ends in the step in which the token is fired. Such a
tie may as well go the other way, and then another attempt is made. -/
def attempts (environment : Environment σ) (policy : RetryPolicy) (scope : Scope) (token : Token)
    (attempt : World σ → Outcome α × World σ) (started : Duration) :
    (left failures : Nat) → World σ → Except Fault α × World σ
  | left, failures, world =>
      match attempt world with
      | (.ok value, world) => (.ok value, world)
      | (.error error, world) =>
          let (now, world) := world.now environment
          if !error.isRetryable scope.database scope.catalog then
            (.error (.terminal scope.queryId error.message), world)
          else
            let elapsed := now - started
            match left, policy.allows (failures + 1) elapsed with
            | left + 1, true =>
                match world.wait environment token policy.interval with
                | (true, world) => (.error (.cancelled (scope.queryId.getD "")), world)
                | (false, world) =>
                    attempts environment policy scope token attempt started left (failures + 1)
                      world
            | _, _ =>
                (.error (policy.surrender scope (failures + 1) elapsed error.message), world)

/-- Make a call again until it succeeds, fails for good, uses up what the policy allows,
or the token is fired while the next attempt is waited for. A token that is fired
already does not prevent the first attempt. -/
def run (environment : Environment σ) (policy : RetryPolicy) (scope : Scope) (token : Token)
    (attempt : World σ → Outcome α × World σ) (world : World σ) :
    Except Fault α × World σ :=
  let (started, world) := world.now environment
  attempts environment policy scope token attempt started policy.maxAttempts.toNat 0 world

end RetryPolicy

end RemoteQuery
