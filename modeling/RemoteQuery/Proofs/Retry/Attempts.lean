import RemoteQuery.Retry.Policy

/-! # What becomes of a retried call

`Attempted` says how a retried call goes on after a number of failures, without a bound
on the attempts: the policy itself bounds them. `RetryPolicy.run` is this relation.
-/

namespace RemoteQuery.RetryPolicy

open Calendar (Duration)

variable {σ α : Type}

section

variable (environment : Environment σ) (policy : RetryPolicy) (scope : Scope) (token : Token)
  (attempt : World σ → Outcome α × World σ) (started : Duration)

/-- What becomes of a call that was first made at a time and has failed a number of times. -/
inductive Attempted : (failures : Nat) → World σ → Except Fault α → World σ → Prop
  | succeeded {failures : Nat} {world reached : World σ} {value : α}
      (made : attempt world = (.ok value, reached)) :
      Attempted failures world (.ok value) reached
  | refused {failures : Nat} {world reached : World σ} {error : ServiceError}
      (made : attempt world = (.error error, reached))
      (final : error.isRetryable scope.database scope.catalog = false) :
      Attempted failures world (.error (.terminal scope.queryId error.message))
        (reached.now environment).2
  | exhausted {failures : Nat} {world reached : World σ} {error : ServiceError}
      (made : attempt world = (.error error, reached))
      (retryable : error.isRetryable scope.database scope.catalog = true)
      (spent : policy.allows (failures + 1) ((reached.now environment).1 - started) = false) :
      Attempted failures world
        (.error (policy.surrender scope (failures + 1) ((reached.now environment).1 - started)
          error.message))
        (reached.now environment).2
  | interrupted {failures : Nat} {world reached rested : World σ} {error : ServiceError}
      (made : attempt world = (.error error, reached))
      (retryable : error.isRetryable scope.database scope.catalog = true)
      (allowed : policy.allows (failures + 1) ((reached.now environment).1 - started) = true)
      (waited : (reached.now environment).2.wait environment token policy.interval =
        (true, rested)) :
      Attempted failures world (.error (.cancelled (scope.queryId.getD ""))) rested
  | again {failures : Nat} {world reached rested last : World σ} {error : ServiceError}
      {result : Except Fault α}
      (made : attempt world = (.error error, reached))
      (retryable : error.isRetryable scope.database scope.catalog = true)
      (allowed : policy.allows (failures + 1) ((reached.now environment).1 - started) = true)
      (waited : (reached.now environment).2.wait environment token policy.interval =
        (false, rested))
      (rest : Attempted (failures + 1) rested result last) :
      Attempted failures world result last

end

variable {environment : Environment σ} {policy : RetryPolicy} {scope : Scope} {token : Token}
  {attempt : World σ → Outcome α × World σ} {started : Duration}

theorem lt_maxAttempts_of_allows {failures : Nat} {elapsed : Duration}
    (allowed : policy.allows failures elapsed = true) :
    failures < policy.maxAttempts.toNat := by
  simp only [allows, decide_eq_true_eq] at allowed
  exact allowed.1

theorem lt_maxAttempts_of_overflows {failures : Nat} {elapsed : Duration}
    (long : policy.overflows failures elapsed = true) :
    failures < policy.maxAttempts.toNat := by
  simp only [overflows, decide_eq_true_eq] at long
  exact long.1

theorem allows_of_le {failures more : Nat} {elapsed longer : Duration}
    (allowed : policy.allows more longer = true) (fewer : failures ≤ more)
    (shorter : elapsed ≤ longer) : policy.allows failures elapsed = true := by
  simp only [allows, decide_eq_true_eq] at allowed ⊢
  exact ⟨Nat.lt_of_le_of_lt fewer allowed.1,
    Nat.le_trans (Nat.add_le_add_right shorter _) allowed.2⟩

theorem surrender_of_not_overflows {failures : Nat} {elapsed : Duration} (message : String)
    (fits : policy.overflows failures elapsed = false) :
    policy.surrender scope failures elapsed message =
      .terminal scope.queryId (exhaustedMessage message) := by
  rw [surrender, fits, if_neg Bool.false_ne_true]

theorem surrender_of_overflows {failures : Nat} {elapsed : Duration} (message : String)
    (long : policy.overflows failures elapsed = true) :
    policy.surrender scope failures elapsed message = .overflow := by
  rw [surrender, long, if_pos rfl]

/-- The bound on the attempts does not matter if the policy's own bound is reached before. -/
theorem attempts_attempted {left failures : Nat}
    (room : policy.maxAttempts.toNat ≤ left + failures) (world : World σ) :
    Attempted environment policy scope token attempt started failures world
      (policy.attempts environment scope token attempt started left failures world).1
      (policy.attempts environment scope token attempt started left failures world).2 := by
  induction left generalizing failures world with
  | zero =>
      unfold attempts
      cases made : attempt world with
      | mk outcome reached =>
          cases outcome with
          | ok value => exact .succeeded made
          | error error =>
              dsimp only
              split
              · rename_i final
                exact .refused made (by simpa using final)
              · rename_i retryable
                refine .exhausted made (by simpa using retryable) ?_
                cases allowed :
                    policy.allows (failures + 1) ((reached.now environment).1 - started) with
                | false => rfl
                | true =>
                    have := lt_maxAttempts_of_allows allowed
                    omega
  | succ left induction =>
      unfold attempts
      cases made : attempt world with
      | mk outcome reached =>
          cases outcome with
          | ok value => exact .succeeded made
          | error error =>
              dsimp only
              split
              · rename_i final
                exact .refused made (by simpa using final)
              · rename_i retryable
                have retryable := by simpa using retryable
                cases allowed :
                    policy.allows (failures + 1) ((reached.now environment).1 - started) with
                | false => exact .exhausted made retryable allowed
                | true =>
                    dsimp only
                    cases waited :
                        (reached.now environment).2.wait environment token policy.interval with
                    | mk fired rested =>
                        cases fired with
                        | true => exact .interrupted made retryable allowed waited
                        | false =>
                            exact .again made retryable allowed waited
                              (induction (by omega) rested)

theorem run_attempted (environment : Environment σ) (policy : RetryPolicy) (scope : Scope)
    (token : Token) (attempt : World σ → Outcome α × World σ) (world : World σ) :
    Attempted environment policy scope token attempt (world.now environment).1 0
      (world.now environment).2
      (policy.run environment scope token attempt world).1
      (policy.run environment scope token attempt world).2 :=
  attempts_attempted (Nat.le_refl _) (world.now environment).2

theorem Attempted.unique {failures : Nat} {world left right : World σ}
    {leftResult rightResult : Except Fault α}
    (leftAttempted : Attempted environment policy scope token attempt started failures world
      leftResult left)
    (rightAttempted : Attempted environment policy scope token attempt started failures world
      rightResult right) :
    leftResult = rightResult ∧ left = right := by
  induction leftAttempted with
  | succeeded made => cases rightAttempted <;> simp_all
  | refused made final => cases rightAttempted <;> simp_all
  | exhausted made retryable spent => cases rightAttempted <;> simp_all
  | interrupted made retryable allowed waited => cases rightAttempted <;> simp_all
  | again made retryable allowed waited rest induction =>
      cases rightAttempted with
      | again madeAgain retryableAgain allowedAgain waitedAgain restAgain =>
          simp_all
      | _ => simp_all

theorem run_eq {world last : World σ} {result : Except Fault α}
    (attempted : Attempted environment policy scope token attempt (world.now environment).1 0
      (world.now environment).2 result last) :
    policy.run environment scope token attempt world = (result, last) := by
  have same := (run_attempted environment policy scope token attempt world).unique attempted
  exact Prod.ext same.1 same.2

end RemoteQuery.RetryPolicy
