import Mathlib.Logic.ExistsUnique
import RemoteQuery.Proofs.History
import RemoteQuery.Rehearsal

/-! # The course of a retried call

Attempts follow one another until one of them is the last. Which one that is can be told from
the attempts alone: a success, an error that will not go away, a policy that has no room for
another attempt, and a token that is fired before the next one, in this order.
-/

namespace RemoteQuery.RetryPolicy

open Calendar (Duration)

variable {σ α : Type}

/-- A policy has no room for another attempt behind a number of failures. -/
def Spent (policy : RetryPolicy) (failures : Nat) (elapsed : Duration) : Prop :=
  policy.maxAttempts.toNat ≤ failures ∨ policy.maxDuration < elapsed + policy.interval

theorem allows_eq_false_iff {policy : RetryPolicy} {failures : Nat} {elapsed : Duration} :
    policy.allows failures elapsed = false ↔ policy.Spent failures elapsed := by
  rw [allows, decide_eq_false_iff_not, Decidable.not_and_iff_not_or_not, Nat.not_lt, Nat.not_le,
    Spent]

theorem allows_eq_true_iff {policy : RetryPolicy} {failures : Nat} {elapsed : Duration} :
    policy.allows failures elapsed = true ↔ ¬ policy.Spent failures elapsed := by
  rw [← allows_eq_false_iff, Bool.not_eq_false]

section

variable (environment : Environment σ) (policy : RetryPolicy) (scope : Scope) (token : Token)
  (attempt : World σ → Outcome α × World σ) (world : World σ)

/-- The time since the first attempt began, as it is seen behind a failure. -/
def elapsed (reached : World σ) : Duration :=
  (reached.now environment).1 - (world.now environment).1

def began : (failures : Nat) → World σ
  | 0 => (world.now environment).2
  | failures + 1 =>
      (((attempt (began failures)).2.now environment).2.wait environment token policy.interval).2

/-- What comes of a call if the attempt behind a number of failures is the last one. -/
inductive Ending (failures : Nat) : Except Fault α → World σ → Prop
  | success {reached : World σ} {value : α}
      (made : attempt (began environment policy token attempt world failures) =
        (.ok value, reached)) :
      Ending failures (.ok value) reached
  | refusal {reached : World σ} {error : ServiceError}
      (made : attempt (began environment policy token attempt world failures) =
        (.error error, reached))
      (final : error.isRetryable scope.database scope.catalog = false) :
      Ending failures (.error (.terminal scope.queryId error.message)) (reached.now environment).2
  | exhaustion {reached : World σ} {error : ServiceError}
      (made : attempt (began environment policy token attempt world failures) =
        (.error error, reached))
      (retryable : error.isRetryable scope.database scope.catalog = true)
      (spent : policy.Spent (failures + 1) (elapsed environment world reached))
      (told : policy.overflows (failures + 1) (elapsed environment world reached) = false) :
      Ending failures (.error (.terminal scope.queryId (exhaustedMessage error.message)))
        (reached.now environment).2
  | overflow {reached : World σ} {error : ServiceError}
      (made : attempt (began environment policy token attempt world failures) =
        (.error error, reached))
      (retryable : error.isRetryable scope.database scope.catalog = true)
      (spent : policy.Spent (failures + 1) (elapsed environment world reached))
      (untold : policy.overflows (failures + 1) (elapsed environment world reached) = true) :
      Ending failures (.error .overflow) (reached.now environment).2
  | cancellation {reached rested : World σ} {error : ServiceError}
      (made : attempt (began environment policy token attempt world failures) =
        (.error error, reached))
      (retryable : error.isRetryable scope.database scope.catalog = true)
      (unspent : ¬ policy.Spent (failures + 1) (elapsed environment world reached))
      (waited : (reached.now environment).2.wait environment token policy.interval =
        (true, rested)) :
      Ending failures (.error (.cancelled (scope.queryId.getD ""))) rested

inductive GoesOn (failures : Nat) : Prop
  | retries {reached rested : World σ} {error : ServiceError}
      (made : attempt (began environment policy token attempt world failures) =
        (.error error, reached))
      (retryable : error.isRetryable scope.database scope.catalog = true)
      (unspent : ¬ policy.Spent (failures + 1) (elapsed environment world reached))
      (waited : (reached.now environment).2.wait environment token policy.interval =
        (false, rested))

end

variable {environment : Environment σ} {policy : RetryPolicy} {scope : Scope} {token : Token}
  {attempt : World σ → Outcome α × World σ} {world last : World σ} {failures : Nat}
  {result : Except Fault α}

theorem GoesOn.not_ending
    (goesOn : GoesOn environment policy scope token attempt world failures) :
    ¬ Ending environment policy scope token attempt world failures result last := by
  obtain ⟨made, retryable, unspent, waited⟩ := goesOn
  intro ending
  cases ending with
  | success again => cases made.symm.trans again
  | refusal again final =>
      cases made.symm.trans again
      rw [retryable] at final
      contradiction
  | exhaustion again _ spent | overflow again _ spent =>
      cases made.symm.trans again
      exact unspent spent
  | cancellation again _ _ waitedAgain =>
      cases made.symm.trans again
      cases waited.symm.trans waitedAgain

theorem Attempted.exists_ending {start : World σ}
    (begins : began environment policy token attempt world failures = start)
    (attempted : Attempted environment policy scope token attempt (world.now environment).1
      failures start result last) :
    ∃ final, Ending environment policy scope token attempt world final result last ∧
      ∀ earlier, failures ≤ earlier → earlier < final →
        GoesOn environment policy scope token attempt world earlier := by
  -- For a last attempt there is nothing between it and itself.
  have none : ∀ {failures earlier : Nat}, failures ≤ earlier → earlier < failures →
      GoesOn environment policy scope token attempt world earlier :=
    fun behind before => absurd before (Nat.not_lt.mpr behind)
  induction attempted with
  | succeeded made =>
      subst begins
      exact ⟨_, .success made, fun _ => none⟩
  | refused made final =>
      subst begins
      exact ⟨_, .refusal made final, fun _ => none⟩
  | @exhausted failures start reached error made retryable spent =>
      subst begins
      have spent := allows_eq_false_iff.mp spent
      cases told : policy.overflows (failures + 1) (elapsed environment world reached) with
      | false =>
          rw [elapsed] at told
          rw [surrender_of_not_overflows _ told]
          exact ⟨_, .exhaustion made retryable spent told, fun _ => none⟩
      | true =>
          rw [elapsed] at told
          rw [surrender_of_overflows _ told]
          exact ⟨_, .overflow made retryable spent told, fun _ => none⟩
  | interrupted made retryable allowed waited =>
      subst begins
      have unspent := allows_eq_true_iff.mp allowed
      exact ⟨_, .cancellation made retryable unspent waited, fun _ => none⟩
  | @again failures start reached rested last error result made retryable allowed waited rest
      induction =>
      subst begins
      have unspent := allows_eq_true_iff.mp allowed
      have next : began environment policy token attempt world (failures + 1) = rested := by
        rw [began, made]
        exact congrArg Prod.snd waited
      obtain ⟨final, ending, goesOn⟩ := induction next
      refine ⟨final, ending, fun earlier behind before => ?_⟩
      rcases Nat.eq_or_lt_of_le behind with rfl | behind
      · exact .retries made retryable unspent waited
      · exact goesOn earlier behind before

/-! ## What goes on behind a failure -/

namespace GoesOn

variable (goesOn : GoesOn environment policy scope token attempt world failures)

include goesOn

theorem lt_maxAttempts : failures + 1 < policy.maxAttempts.toNat := by
  obtain ⟨made, retryable, unspent, waited⟩ := goesOn
  exact Nat.lt_of_not_le fun spent => unspent (.inl spent)

theorem began_clock_le :
    (began environment policy token attempt world (failures + 1)).clock ≤
      (world.now environment).1 + policy.maxDuration := by
  obtain ⟨made, retryable, unspent, waited⟩ := goesOn
  rename_i reached rested error
  have fits : elapsed environment world reached + policy.interval ≤ policy.maxDuration :=
    Nat.le_of_not_lt fun spent => unspent (.inr spent)
  have clock : rested.clock = (reached.now environment).1 + policy.interval :=
    World.wait_clock waited
  have since : (reached.now environment).1 ≤
      (world.now environment).1 + elapsed environment world reached :=
    Nat.sub_le_iff_le_add'.mp (Nat.le_refl _)
  calc (began environment policy token attempt world (failures + 1)).clock
      = (reached.now environment).1 + policy.interval := by rw [began, made, waited, clock]
    _ ≤ (world.now environment).1 + elapsed environment world reached + policy.interval :=
        Nat.add_le_add_right since _
    _ ≤ (world.now environment).1 + policy.maxDuration := by
        rw [Nat.add_assoc]
        exact Nat.add_le_add_left fits _

theorem unfired (stays : ∀ world : World σ, world.isFired token = true →
      (attempt world).2.isFired token = true) :
    (began environment policy token attempt world failures).isFired token = false := by
  obtain ⟨made, retryable, unspent, waited⟩ := goesOn
  rw [← Bool.not_eq_true]
  intro fired
  have stillFired := stays _ fired
  rw [made] at stillFired
  cases waited.symm.trans (World.wait_of_isFired stillFired)

end GoesOn

/-! ## The number of attempts -/

section Counts

variable (counts : ∀ world : World σ,
  (attempt world).2.sent.length = world.sent.length + 1)

include counts

theorem length_sent_began (failures : Nat) :
    (began environment policy token attempt world failures).sent.length =
      world.sent.length + failures := by
  induction failures with
  | zero => rfl
  | succ failures induction =>
      rw [began, World.wait_sent]
      change (attempt _).2.sent.length = _
      rw [counts, induction]
      rfl

theorem Ending.length_sent
    (ending : Ending environment policy scope token attempt world failures result last) :
    last.sent.length = world.sent.length + (failures + 1) := by
  have reaches : ∀ {outcome : Outcome α} {reached : World σ},
      attempt (began environment policy token attempt world failures) = (outcome, reached) →
      (reached.now environment).2.sent.length = world.sent.length + (failures + 1) := by
    intro outcome reached made
    have more := counts (began environment policy token attempt world failures)
    rwa [made, length_sent_began counts] at more
  cases ending with
  | success made => exact reaches made
  | refusal made final => exact reaches made
  | exhaustion made | overflow made => exact reaches made
  | @cancellation reached rested error made retryable unspent waited =>
      have quiet := World.wait_sent environment token policy.interval (reached.now environment).2
      rw [waited] at quiet
      rw [quiet]
      exact reaches made

end Counts

/-! ## The whole course -/

section

variable (environment : Environment σ) (policy : RetryPolicy) (scope : Scope) (token : Token)
  (attempt : World σ → Outcome α × World σ) (world : World σ)

/-- The course of a retried call of which the attempt behind a number of failures is the last.
That the token stays fired, or that an attempt is one call on record, holds of some attempts
only, and is asked for where it matters. -/
structure Course (failures : Nat) : Prop where
  ends : Ending environment policy scope token attempt world failures
    (policy.run environment scope token attempt world).1
    (policy.run environment scope token attempt world).2
  first : ∀ earlier < failures, ∀ result last,
    ¬ Ending environment policy scope token attempt world earlier result last
  goesOn : ∀ earlier < failures,
    GoesOn environment policy scope token attempt world earlier
  few : failures + 1 ≤ max 1 policy.maxAttempts.toNat
  countable : failures + 1 < UInt32.size
  inTime : ∀ earlier < failures,
    (began environment policy token attempt world (earlier + 1)).clock ≤
      (world.now environment).1 + policy.maxDuration
  keepsSuccess : ∀ value,
    (attempt (began environment policy token attempt world failures)).1 = .ok value →
      (policy.run environment scope token attempt world).1 = .ok value
  once : world.isFired token = true →
    (∀ world : World σ, world.isFired token = true →
      (attempt world).2.isFired token = true) → failures = 0
  counted : (∀ world : World σ, (attempt world).2.sent.length = world.sent.length + 1) →
    (policy.run environment scope token attempt world).2.sent.length =
      world.sent.length + (failures + 1)

end

theorem Ending.eq_ok {value : α}
    (ending : Ending environment policy scope token attempt world failures result last)
    (succeeds : (attempt (began environment policy token attempt world failures)).1 =
      .ok value) : result = .ok value := by
  cases ending with
  | success made =>
      rw [made] at succeeds
      cases succeeds
      rfl
  | refusal made | exhaustion made | overflow made | cancellation made =>
      rw [made] at succeeds
      contradiction

theorem course_of_ending
    (ending : Ending environment policy scope token attempt world failures
      (policy.run environment scope token attempt world).1
      (policy.run environment scope token attempt world).2)
    (goesOn : ∀ earlier < failures,
      GoesOn environment policy scope token attempt world earlier) :
    Course environment policy scope token attempt world failures where
  ends := ending
  first earlier before _ _ := (goesOn earlier before).not_ending
  goesOn := goesOn
  few := by
    cases failures with
    | zero => exact Nat.le_max_left _ _
    | succ failures =>
        exact Nat.le_trans (goesOn failures (Nat.lt_succ_self _)).lt_maxAttempts
          (Nat.le_max_right _ _)
  countable := by
    cases failures with
    | zero => decide
    | succ failures =>
        exact Nat.lt_of_le_of_lt (goesOn failures (Nat.lt_succ_self _)).lt_maxAttempts
          policy.maxAttempts.toNat_lt_size
  inTime earlier before := (goesOn earlier before).began_clock_le
  keepsSuccess _ := ending.eq_ok
  once fired stays := by
    cases failures with
    | zero => rfl
    | succ failures =>
        have unfired := (goesOn 0 (Nat.succ_pos _)).unfired stays
        cases fired.symm.trans unfired
  counted counts := ending.length_sent counts

/-- A retried call makes one attempt after the other and ends with the first of them that there
is a reason to end with. It ends with the fault for a policy that has been used up, unless the
time at which the next attempt would begin is not a duration. -/
theorem run_course (environment : Environment σ) (policy : RetryPolicy) (scope : Scope)
    (token : Token) (attempt : World σ → Outcome α × World σ) (world : World σ) :
    ∃! failures, Course environment policy scope token attempt world failures := by
  have attempted := run_attempted environment policy scope token attempt world
  obtain ⟨failures, ending, goesOn⟩ := attempted.exists_ending rfl
  have course := course_of_ending ending fun earlier before =>
    goesOn earlier (Nat.zero_le _) before
  refine ⟨failures, course, fun others other => ?_⟩
  rcases Nat.lt_trichotomy others failures with fewer | same | more
  · exact absurd other.ends (course.first others fewer _ _)
  · exact same
  · exact absurd course.ends (other.first failures more _ _)

theorem spent_of_overflows {elapsed : Duration} (bounded : policy.maxDuration < Duration.limit)
    (untold : policy.overflows failures elapsed = true) : policy.Spent failures elapsed := by
  simp only [overflows, decide_eq_true_eq] at untold
  exact .inr (Nat.lt_of_lt_of_le bounded untold.2)

/-- A call that the service is too busy for whenever it is made. -/
def throttled (world : World Unit) : Outcome Status × World Unit :=
  world.ask (.status "q1") fun outside =>
    ({ outcome := .error (.operational "Rate exceeded") }, outside)

/-- With a token that is fired already, such a call is made once. -/
theorem run_course_throttled :
    (run (Rehearsal.deserted default) {} ⟨some "q1", "sales", "main"⟩ ⟨0⟩ throttled
      { outside := (), fired := [⟨0⟩] }).2.sent.length = 1 := by
  obtain ⟨failures, course, -⟩ := run_course (Rehearsal.deserted default) {}
    ⟨some "q1", "sales", "main"⟩ ⟨0⟩ throttled { outside := (), fired := [⟨0⟩] }
  have stays : ∀ world : World Unit, world.isFired ⟨0⟩ = true →
      (throttled world).2.isFired ⟨0⟩ = true :=
    fun world => (World.ask_leadsTo _ _ world).isFired
  have counts : ∀ world : World Unit,
      (throttled world).2.sent.length = world.sent.length + 1 :=
    fun _ => List.length_append
  obtain rfl := course.once rfl stays
  exact course.counted counts

/-- As long a time between two attempts as there is. -/
def unhurried : RetryPolicy :=
  { interval := Duration.limit - 1 }

/-- Such a policy is used up by a failure, but the call breaks off instead of telling so. -/
theorem run_unhurried :
    unhurried.Spent 1 1 ∧
      (run (Rehearsal.deserted default) unhurried ⟨some "q1", "sales", "main"⟩ ⟨0⟩ throttled
        { outside := () }).1 = .error .overflow := by
  have spent : unhurried.allows 1 1 = false := by decide
  have untold : unhurried.overflows 1 1 = true := by decide
  have ended := @run_eq _ _ (Rehearsal.deserted default) unhurried ⟨some "q1", "sales", "main"⟩ ⟨0⟩
    throttled { outside := () } _ _ (.exhausted rfl (by decide +kernel) spent)
  refine ⟨allows_eq_false_iff.mp spent, ?_⟩
  rw [ended]
  exact congrArg Except.error (surrender_of_overflows _ untold)

end RemoteQuery.RetryPolicy
