import Mathlib.Data.List.Induction
import RemoteQuery.Retry.Policy

/-! # Failures in a row

The calls of a world tell how often a call has failed in a row and since when. This is
what the engine's budgets are about, told without the engine.
-/

namespace RemoteQuery

open Calendar (Duration)

def Call.isRetried : Call → Bool
  | .status _ | .results _ _ _ | .schema _ | .object _ => true
  | .submit _ | .cancel _ => false

namespace Sent

def failure? (sent : Sent) : Option (Duration × ServiceError) :=
  match sent.answered with
  | some (time, .error error) => some (time, error)
  | _ => none

def setback? (database catalog : String) (sent : Sent) : Option (Duration × ServiceError) :=
  sent.failure?.filter fun failure =>
    sent.call.isRetried && failure.2.isRetryable database catalog

theorem setback?_eq_some_iff {database catalog : String} {sent : Sent} {time : Duration}
    {error : ServiceError} :
    sent.setback? database catalog = some (time, error) ↔
      sent.failure? = some (time, error) ∧ sent.call.isRetried = true ∧
        error.isRetryable database catalog = true := by
  simp [setback?, Option.filter_eq_some_iff]

theorem setback?_of_failure {database catalog : String} {time latest : Duration} {call : Call}
    {error : ServiceError} (retried : call.isRetried = true)
    (retryable : error.isRetryable database catalog = true) :
    (⟨time, call, some (latest, .error error)⟩ : Sent).setback? database catalog =
      some (latest, error) :=
  setback?_eq_some_iff.mpr ⟨rfl, retried, retryable⟩

theorem setback?_of_not_retried {database catalog : String} {sent : Sent}
    (once : sent.call.isRetried = false) : sent.setback? database catalog = none := by
  rw [Option.eq_none_iff_forall_ne_some]
  rintro ⟨time, error⟩ setback
  rw [(setback?_eq_some_iff.mp setback).2.1] at once
  cases once

end Sent

/-- Failures in a row: how many there are, and since when. -/
structure Stretch where
  count : Nat
  since : Duration
deriving Repr, DecidableEq

namespace Stretch

/-- Failures in a row with another one behind them. Looks at a query are timed from the
answer to the first of them, all other calls from when they were first made. -/
def grown (stretch : Option Stretch) (sent : Sent) (answered : Duration) : Stretch :=
  match stretch, sent.call with
  | some stretch, _ => { stretch with count := stretch.count + 1 }
  | none, .status _ => { count := 1, since := answered }
  | none, _ => { count := 1, since := sent.time }

def after (database catalog : String) (stretch : Option Stretch) (sent : Sent) :
    Option Stretch :=
  (sent.setback? database catalog).map fun failure => grown stretch sent failure.1

def trailing (database catalog : String) (stretch : Option Stretch) (calls : List Sent) :
    Option Stretch :=
  calls.foldl (after database catalog) stretch

/-- There is room for another attempt after the latest of the failures: neither their number
nor the time since the first of them, as the next look at the clock shows it, uses up what
the policy allows. -/
def Fits (policy : RetryPolicy) (step latest : Duration) (stretch : Stretch) : Prop :=
  stretch.count < policy.maxAttempts.toNat ∧
    latest + step - stretch.since + policy.interval ≤ policy.maxDuration

theorem allows_iff_fits {policy : RetryPolicy} {step latest : Duration} {stretch : Stretch} :
    policy.allows stretch.count (latest + step - stretch.since) = true ↔
      stretch.Fits policy step latest :=
  decide_eq_true_iff

/-- There is an attempt left, but the time at which it would begin is not a duration. -/
def Overflows (policy : RetryPolicy) (step latest : Duration) (stretch : Stretch) : Prop :=
  policy.overflows stretch.count (latest + step - stretch.since) = true

/-- A property of all failures of some calls, each with its time and with the failures in
a row of which it is the latest. -/
def Along (database catalog : String) (property : Duration → Stretch → Prop) :
    Option Stretch → List Sent → Prop
  | _, [] => True
  | stretch, sent :: rest =>
      (∀ failure ∈ sent.setback? database catalog,
        property failure.1 (grown stretch sent failure.1)) ∧
      Along database catalog property (after database catalog stretch sent) rest

instance (policy : RetryPolicy) (step latest : Duration) (stretch : Stretch) :
    Decidable (stretch.Fits policy step latest) :=
  inferInstanceAs (Decidable (_ ∧ _))

instance decidableAlong (database catalog : String) (property : Duration → Stretch → Prop)
    [∀ time stretch, Decidable (property time stretch)] :
    (stretch : Option Stretch) → (calls : List Sent) →
      Decidable (Along database catalog property stretch calls)
  | _, [] => .isTrue trivial
  | stretch, sent :: rest =>
      have := decidableAlong database catalog property (after database catalog stretch sent) rest
      inferInstanceAs (Decidable (_ ∧ _))

variable {database catalog : String} {property : Duration → Stretch → Prop}
  {stretch : Option Stretch}

@[simp] theorem trailing_nil : trailing database catalog stretch [] = stretch := rfl

@[simp] theorem trailing_append (left right : List Sent) :
    trailing database catalog stretch (left ++ right) =
      trailing database catalog (trailing database catalog stretch left) right := by
  simp [trailing]

@[simp] theorem trailing_singleton (sent : Sent) :
    trailing database catalog stretch [sent] = after database catalog stretch sent := rfl

theorem after_of_no_setback {sent : Sent} (fine : sent.setback? database catalog = none) :
    after database catalog stretch sent = none := by
  simp [after, fine]

theorem after_of_setback {sent : Sent} {time : Duration} {error : ServiceError}
    (setback : sent.setback? database catalog = some (time, error)) :
    after database catalog stretch sent = some (grown stretch sent time) := by
  simp [after, setback]

theorem along_append (left right : List Sent) :
    Along database catalog property stretch (left ++ right) ↔
      Along database catalog property stretch left ∧
        Along database catalog property (trailing database catalog stretch left) right := by
  induction left generalizing stretch with
  | nil => simp [Along]
  | cons sent rest induction =>
      simp only [List.cons_append, Along, induction, and_assoc]
      rfl

theorem grown_count (sent : Sent) (answered : Duration) :
    (grown stretch sent answered).count = (stretch.map (·.count)).getD 0 + 1 := by
  unfold grown
  split <;> rfl

theorem length_le_count {block : List Sent}
    (setbacks : ∀ sent ∈ block, (sent.setback? database catalog).isSome = true) :
    block.length ≤ ((trailing database catalog stretch block).map (·.count)).getD 0 := by
  induction block using List.reverseRecOn with
  | nil => exact Nat.zero_le _
  | append_singleton block last induction =>
      have earlier := induction fun sent member => setbacks sent (List.mem_append_left _ member)
      rcases Option.isSome_iff_exists.mp (setbacks last (by simp)) with ⟨⟨time, error⟩, setback⟩
      rw [trailing_append, trailing_singleton, after_of_setback setback, Option.map_some,
        Option.getD_some, grown_count, List.length_append]
      exact Nat.add_le_add_right earlier 1

end Stretch

end RemoteQuery
