import RemoteQuery.Proofs.Disturbance.Basic
import RemoteQuery.Proofs.Retry.Budget

/-! # Retried calls in disturbed surroundings

A retried call that meets extra failures, but stays calm, comes to the same end as the call
that does not meet them.
-/

namespace RemoteQuery.RetryPolicy

open Calendar (Duration)

variable {σ : Type} {environment : Environment σ} {policy : RetryPolicy} {scope : Scope}
  {token : Token} {call : Call} {next : σ → Answer (Outcome call.Response) × σ}

/-- A failure that both worlds meet leaves room for another attempt if it does in the
disturbed one, and the wait for it is the same. -/
private theorem again_shadows {started startedShadow : Duration}
    {failures failuresShadow : Nat} {reached : World σ}
    {reachedShadow restedShadow : World (Disturbed σ)} {fired : Bool}
    (shadows : reached.Shadows scope.database scope.catalog false reachedShadow)
    (fewer : failures ≤ failuresShadow)
    (paced : Paced started reached.clock startedShadow reachedShadow.clock)
    (allowed : policy.allows (failuresShadow + 1)
      ((reachedShadow.now environment.disturbed).1 - startedShadow) = true)
    (waitedShadow : (reachedShadow.now environment.disturbed).2.wait environment.disturbed token
      policy.interval =
      (fired, restedShadow)) :
    policy.allows (failures + 1) ((reached.now environment).1 - started) = true ∧
      ∃ rested, (reached.now environment).2.wait environment token policy.interval =
        (fired, rested) ∧
        rested.Shadows scope.database scope.catalog false restedShadow ∧
        Paced started rested.clock startedShadow restedShadow.clock := by
  have waits := World.wait_shadows (shadows.now environment) environment token policy.interval
  rcases waited : (reached.now environment).2.wait environment token policy.interval with
    ⟨firedBase, rested⟩
  rw [waited, waitedShadow] at waits
  rcases waits with ⟨same, shadowsRested, -, pacedRested⟩
  cases same
  have pacedNow := paced.now environment.step
  exact ⟨allows_of_le allowed (Nat.succ_le_succ fewer) pacedNow.elapsed, rested, rfl,
    shadowsRested, pacedNow.trans pacedRested⟩

/-- Two attempts at the same time of their calls, the second of which has met at least as
many failures, and has taken at least as much time. -/
theorem Attempted.shadows {stretch : Option Stretch} {started startedShadow : Duration}
    {failures failuresShadow : Nat} {world last : World σ}
    {shadow lastShadow : World (Disturbed σ)}
    {result resultShadow : Except Fault call.Response}
    (attemptedShadow : Attempted environment.disturbed policy scope token
      (·.ask call (Disturbed.answering next)) startedShadow failuresShadow shadow resultShadow
      lastShadow)
    (attempted : Attempted environment policy scope token (·.ask call next) started failures
      world result last)
    (shadows : world.Shadows scope.database scope.catalog false shadow)
    (fewer : failures ≤ failuresShadow)
    (paced : Paced started world.clock startedShadow shadow.clock)
    (retried : call.isRetried = true)
    (row : ∀ answered time, Stretch.grown stretch ⟨shadow.clock, call, answered⟩ time =
      ⟨failuresShadow + 1, startedShadow⟩)
    (calm : Calm policy environment.step scope.database scope.catalog stretch
      (lastShadow.since shadow))
    (unfired : last.isFired token = false) :
    resultShadow = result ∧ last.Shadows scope.database scope.catalog false lastShadow := by
  have unfiredYet : world.isFired token = false :=
    (attempted.leadsTo (World.ask_leadsTo call next)).unfired unfired
  -- The attempts of the disturbed world are followed, since one that fails there only leaves
  -- those of the other world as they are.
  induction attemptedShadow generalizing stretch failures world with
  | @succeeded failuresShadow shadow reachedShadow value madeShadow =>
      have echoes := World.ask_echoes shadows call next
      rcases made : world.ask call next with ⟨outcome, reached⟩
      rw [made, madeShadow] at echoes
      cases echoes with
      | answer shadows fewer paced =>
          rcases attempted.unique (.succeeded made) with ⟨rfl, rfl⟩
          exact ⟨rfl, shadows⟩
  | @refused failuresShadow shadow reachedShadow error madeShadow final =>
      have echoes := World.ask_echoes shadows call next
      rcases made : world.ask call next with ⟨outcome, reached⟩
      rw [made, madeShadow] at echoes
      cases echoes with
      | lapse retryable shadows fewer later =>
          rw [retryable] at final
          cases final
      | answer shadows fewer paced =>
          rcases attempted.unique (.refused made final) with ⟨rfl, rfl⟩
          exact ⟨rfl, shadows.now environment⟩
  | @exhausted failuresShadow shadow reachedShadow error madeShadow retryable spent =>
      have calls := World.ask_since madeShadow
      have setback := @Sent.setback?_of_failure scope.database scope.catalog shadow.clock
        reachedShadow.clock call error retried retryable
      refine absurd (show Calm policy environment.step scope.database scope.catalog stretch
        ([] ++ [_]) from calls ▸ calm) (not_calm_of_spent setback fun fits => ?_)
      rw [Stretch.trailing_nil, row, ← Stretch.allows_iff_fits] at fits
      exact Bool.eq_false_iff.mp spent fits
  | @interrupted failuresShadow shadow reachedShadow restedShadow error madeShadow retryable
      allowed waitedShadow =>
      have echoes := World.ask_echoes shadows call next
      rcases made : world.ask call next with ⟨outcome, reached⟩
      rw [made, madeShadow] at echoes
      cases echoes with
      | lapse retryable shadows fewer later =>
          rcases World.extra_wait (shadows.looks environment) environment policy.interval
            unfiredYet with ⟨rested, waited, -⟩
          rw [waited] at waitedShadow
          cases waitedShadow
      | answer shadows fewerLapses pacedReached =>
          rcases again_shadows shadows fewer (paced.trans pacedReached) allowed waitedShadow with
            ⟨allowedBase, rested, waited, -⟩
          rcases attempted.unique (.interrupted made retryable allowedBase waited) with
            ⟨rfl, rfl⟩
          rw [World.wait_isFired waited] at unfired
          cases unfired
  | @again failuresShadow shadow reachedShadow restedShadow lastShadow error resultShadow
      madeShadow retryable allowed waitedShadow rest induction =>
      have calls := since_rested madeShadow waitedShadow
        (rest.leadsTo (World.ask_leadsTo call (Disturbed.answering next)))
      have setback := @Sent.setback?_of_failure scope.database scope.catalog shadow.clock
        reachedShadow.clock call error retried retryable
      rw [calls, ← List.singleton_append, calm_append, Stretch.trailing_singleton,
        Stretch.after_of_setback setback, row] at calm
      have echoes := World.ask_echoes shadows call next
      rcases made : world.ask call next with ⟨outcome, reached⟩
      rw [made, madeShadow] at echoes
      cases echoes with
      | lapse retryable shadows fewerLapses later =>
          rcases World.extra_wait (shadows.looks environment) environment policy.interval
            unfiredYet with ⟨rested, waited, shadowsRested, -, laterRested⟩
          rw [waited] at waitedShadow
          cases waitedShadow
          exact induction attempted shadowsRested (Nat.le_succ_of_le fewer)
            (paced.later (Nat.le_trans later (Nat.le_trans (Nat.le_add_right _ _) laterRested)))
              (fun _ _ => rfl)
            calm.2 unfiredYet
      | answer shadows fewerLapses pacedReached =>
          rcases again_shadows shadows fewer (paced.trans pacedReached) allowed waitedShadow with
            ⟨allowedBase, rested, waited, shadowsRested, pacedAgain⟩
          cases attempted with
          | again madeAgain retryableAgain allowedAgain waitedAgain restAgain =>
              rw [made] at madeAgain
              cases madeAgain
              rw [waited] at waitedAgain
              cases waitedAgain
              have unfiredRested :=
                (restAgain.leadsTo (World.ask_leadsTo call next)).unfired unfired
              exact induction restAgain shadowsRested (Nat.succ_le_succ fewer) pacedAgain
                (fun _ _ => rfl) calm.2 unfiredRested
          | _ => simp_all

theorem run_shadows {subject : Subject} {world last : World σ}
    {shadow lastShadow : World (Disturbed σ)} (call : Call)
    {next : σ → Answer (Outcome call.Response) × σ}
    {result resultShadow : Except Fault call.Response} (retried : call.isRetried = true)
    (unwatched : ∀ queryId, call ≠ .status queryId)
    (shadows : world.Shadows subject.database subject.catalog false shadow)
    (ran : policy.run environment subject.scope token (·.ask call next) world = (result, last))
    (ranShadow : policy.run environment.disturbed subject.scope token
      (·.ask call (Disturbed.answering next)) shadow = (resultShadow, lastShadow))
    (calm : Calm policy environment.step subject.database subject.catalog none
      (lastShadow.since shadow))
    (unfired : last.isFired token = false) :
    resultShadow = result ∧
      last.Shadows subject.database subject.catalog false lastShadow := by
  have attempted :=
    run_attempted environment policy subject.scope token (·.ask call next) world
  have attemptedShadow := run_attempted environment.disturbed policy subject.scope token
    (·.ask call (Disturbed.answering next)) shadow
  rw [ran] at attempted
  rw [ranShadow] at attemptedShadow
  refine attemptedShadow.shadows attempted (shadows.now environment) (Nat.le_refl 0) (.refl _ _)
    retried ?_
    calm unfired
  intro answered time
  cases call with
  | status queryId => exact absurd rfl (unwatched queryId)
  | _ => rfl

end RemoteQuery.RetryPolicy
