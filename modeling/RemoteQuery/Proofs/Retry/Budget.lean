import RemoteQuery.Proofs.Cursor.Session
import RemoteQuery.Proofs.History
import RemoteQuery.Proofs.Retry.Stretch

/-! # Keeping to the budget of retries

An operation keeps to a policy if each of its failures leaves room for another attempt,
but for the very last one if the operation ends with it. `Keeps` says so of the calls
between two worlds, and operations one after the other keep to a policy if each does.
-/

namespace RemoteQuery

open Calendar (Duration)

variable {σ : Type}

namespace RetryPolicy

section

variable (policy : RetryPolicy) (step : Duration) (database catalog : String)

def Calm (stretch : Option Stretch) (calls : List Sent) : Prop :=
  Stretch.Along database catalog (Stretch.Fits policy step) stretch calls

instance (stretch : Option Stretch) (calls : List Sent) :
    Decidable (Calm policy step database catalog stretch calls) :=
  Stretch.decidableAlong ..

/-- The calls of an operation that begins behind some failures in a row. If it succeeds,
all failures have been made good. If it uses up the budget, it ends there, and its fault
is that of its last call. -/
inductive Kept (stretch : Option Stretch) : (calls : List Sent) → Option Fault → Prop
  | through {calls : List Sent}
      (calm : Calm policy step database catalog stretch calls)
      (settled : Stretch.trailing database catalog stretch calls = none) :
      Kept stretch calls none
  | failed {calls : List Sent} {fault : Fault}
      (calm : Calm policy step database catalog stretch calls) :
      Kept stretch calls (some fault)
  | exhausted {before : List Sent} {last : Sent} {time : Duration} {error : ServiceError}
      {queryId : String}
      (calm : Calm policy step database catalog stretch before)
      (setback : last.setback? database catalog = some (time, error))
      (spent : ¬(Stretch.grown (Stretch.trailing database catalog stretch before) last
        time).Fits policy step time) :
      Kept stretch (before ++ [last])
        (some (.terminal (some queryId) (exhaustedMessage error.message)))
  | overflowed {before : List Sent} {last : Sent} {time : Duration} {error : ServiceError}
      (calm : Calm policy step database catalog stretch before)
      (setback : last.setback? database catalog = some (time, error))
      (long : (Stretch.grown (Stretch.trailing database catalog stretch before) last
        time).Overflows policy step time) :
      Kept stretch (before ++ [last]) (some .overflow)

structure Keeps (earlier later : World σ) (fault? : Option Fault) : Prop where
  leads : earlier.LeadsTo later
  kept : Kept policy step database catalog none (later.since earlier) fault?

end

variable {policy : RetryPolicy} {step : Duration} {database catalog : String}
  {stretch : Option Stretch} {sent : Sent} {calls left right : List Sent} {fault : Fault}
  {fault? : Option Fault}

/-! ## Calm calls -/

@[simp] theorem calm_nil : Calm policy step database catalog stretch [] := trivial

theorem calm_append :
    Calm policy step database catalog stretch (left ++ right) ↔
      Calm policy step database catalog stretch left ∧
        Calm policy step database catalog (Stretch.trailing database catalog stretch left) right :=
  Stretch.along_append left right

theorem calm_singleton :
    Calm policy step database catalog stretch [sent] ↔
      ∀ failure ∈ sent.setback? database catalog,
        (Stretch.grown stretch sent failure.1).Fits policy step failure.1 := by
  simp [Calm, Stretch.Along]

theorem calm_of_no_setback (fine : sent.setback? database catalog = none) :
    Calm policy step database catalog stretch [sent] := by
  simp [calm_singleton, fine]

theorem calm_of_setback {time : Duration} {error : ServiceError}
    (setback : sent.setback? database catalog = some (time, error)) :
    Calm policy step database catalog stretch [sent] ↔
      (Stretch.grown stretch sent time).Fits policy step time := by
  simp [calm_singleton, setback]

theorem not_calm_of_spent {time : Duration} {error : ServiceError}
    (setback : sent.setback? database catalog = some (time, error))
    (spent : ¬(Stretch.grown (Stretch.trailing database catalog stretch left) sent
      time).Fits policy step time) :
    ¬Calm policy step database catalog stretch (left ++ [sent]) := by
  rw [calm_append, calm_of_setback setback]
  exact fun calm => spent calm.2

/-! ## One operation after the other -/

namespace Kept

theorem calm (kept : Kept policy step database catalog stretch calls none) :
    Calm policy step database catalog stretch calls := by
  cases kept with
  | through calm settled => exact calm

theorem settled (kept : Kept policy step database catalog stretch calls none) :
    Stretch.trailing database catalog stretch calls = none := by
  cases kept with
  | through calm settled => exact settled

theorem append (calm : Calm policy step database catalog stretch left)
    (kept : Kept policy step database catalog (Stretch.trailing database catalog stretch left)
      right fault?) :
    Kept policy step database catalog stretch (left ++ right) fault? := by
  cases kept with
  | through calmAfter settled =>
      exact .through (calm_append.mpr ⟨calm, calmAfter⟩) (by rw [Stretch.trailing_append, settled])
  | failed calmAfter => exact .failed (calm_append.mpr ⟨calm, calmAfter⟩)
  | exhausted calmAfter setback spent =>
      rw [← List.append_assoc]
      refine .exhausted (calm_append.mpr ⟨calm, calmAfter⟩) setback ?_
      rwa [Stretch.trailing_append]
  | overflowed calmAfter setback long =>
      rw [← List.append_assoc]
      refine .overflowed (calm_append.mpr ⟨calm, calmAfter⟩) setback ?_
      rwa [Stretch.trailing_append]

end Kept

/-- Failures in a row are as many as the policy has attempts, or one if it has none. -/
structure Block (policy : RetryPolicy) (database catalog : String) (block : List Sent) : Prop where
  setbacks : ∀ sent ∈ block, (sent.setback? database catalog).isSome = true
  long : block.length = max 1 policy.maxAttempts.toNat

namespace Block

variable {before block after : List Sent}

theorem exists_last (isBlock : Block policy database catalog block) :
    ∃ init last time error, block = init ++ [last] ∧
      last.setback? database catalog = some (time, error) ∧
      ∀ (stretch : Option Stretch) (before : List Sent),
        policy.maxAttempts.toNat ≤
          (Stretch.grown (Stretch.trailing database catalog stretch (before ++ init)) last
            time).count := by
  rcases List.eq_nil_or_concat block with rfl | ⟨init, last, rfl⟩
  · have long := isBlock.long
    simp at long
    omega
  · rw [List.concat_eq_append] at *
    rcases Option.isSome_iff_exists.mp (isBlock.setbacks last (by simp)) with
      ⟨⟨time, error⟩, setback⟩
    refine ⟨init, last, time, error, rfl, setback, fun stretch before => ?_⟩
    have earlier : ∀ sent ∈ init, (sent.setback? database catalog).isSome = true :=
      fun sent member => isBlock.setbacks sent (by simp [member])
    have many := @Stretch.length_le_count database catalog
      (Stretch.trailing database catalog stretch before) init earlier
    have long := isBlock.long
    rw [Stretch.grown_count, Stretch.trailing_append]
    simp only [List.length_append, List.length_singleton] at long
    omega

theorem not_calm (isBlock : Block policy database catalog block) :
    ¬Calm policy step database catalog stretch (before ++ block) := by
  obtain ⟨init, last, time, error, rfl, setback, many⟩ := isBlock.exists_last
  rw [← List.append_assoc]
  exact not_calm_of_spent setback fun fits => Nat.not_le.mpr fits.1 (many stretch before)

theorem ends (isBlock : Block policy database catalog block) {earlier : List Sent} {last : Sent}
    (whole : before ++ block ++ after = earlier ++ [last])
    (calm : Calm policy step database catalog stretch earlier) :
    after = [] ∧ before ++ block = earlier ++ [last] := by
  rcases List.eq_nil_or_concat after with rfl | ⟨init, final, rfl⟩
  · exact ⟨rfl, by rwa [List.append_nil] at whole⟩
  · rw [List.concat_eq_append, ← List.append_assoc] at whole
    have same := (List.append_inj' whole rfl).1
    exact absurd (calm_append.mp (same ▸ calm)).1 isBlock.not_calm

end Block

/-- An operation in which a call fails for now as often in a row as the policy has attempts
ends with that call, and its fault tells the last failure. -/
theorem Kept.ends_of_block {before block after : List Sent}
    (kept : Kept policy step database catalog stretch (before ++ block ++ after) fault?)
    (isBlock : Block policy database catalog block) :
    after = [] ∧ ∃ last time error queryId,
      block.getLast? = some last ∧
        last.setback? database catalog = some (time, error) ∧
        fault? = some (.terminal (some queryId) (exhaustedMessage error.message)) := by
  generalize whole : before ++ block ++ after = calls at kept
  obtain ⟨init, final, time, error, isLast, isSetback, many⟩ := isBlock.exists_last
  cases kept with
  | through calm settled => exact absurd (calm_append.mp (whole ▸ calm)).1 isBlock.not_calm
  | failed calm => exact absurd (calm_append.mp (whole ▸ calm)).1 isBlock.not_calm
  | exhausted calm setback spent =>
      obtain ⟨nothing, same⟩ := isBlock.ends whole calm
      rw [isLast, ← List.append_assoc] at same
      cases (List.append_inj' same rfl).2
      exact ⟨nothing, _, _, _, _, by rw [isLast, List.getLast?_concat], setback, rfl⟩
  | overflowed calm setback long =>
      -- An overflow is the end of a call that has an attempt left.
      obtain ⟨nothing, same⟩ := isBlock.ends whole calm
      rw [isLast, ← List.append_assoc] at same
      obtain ⟨rfl, last⟩ := List.append_inj' same rfl
      cases last
      cases isSetback.symm.trans setback
      exact absurd (many stretch before) (Nat.not_le.mpr (lt_maxAttempts_of_overflows long))

namespace Keeps

variable {first second third : World σ}

theorem refl (world : World σ) : Keeps policy step database catalog world world none :=
  ⟨.refl world, by rw [World.since_self]; exact .through calm_nil rfl⟩

theorem refl_failed (world : World σ) (fault : Fault) :
    Keeps policy step database catalog world world (some fault) :=
  ⟨.refl world, by rw [World.since_self]; exact .failed calm_nil⟩

theorem trans (earlier : Keeps policy step database catalog first second none)
    (later : Keeps policy step database catalog second third fault?) :
    Keeps policy step database catalog first third fault? := by
  refine ⟨earlier.leads.trans later.leads, ?_⟩
  rw [earlier.leads.since_eq_append later.leads]
  refine .append earlier.kept.calm ?_
  rw [earlier.kept.settled]
  exact later.kept

theorem ends (keeps : Keeps policy step database catalog first second none)
    (fault? : Option Fault) :
    Keeps policy step database catalog first second fault? := by
  cases fault? with
  | none => exact keeps
  | some fault => exact keeps.trans (.refl_failed second fault)

theorem quiet (earlier : Keeps policy step database catalog first second fault?)
    (leads : second.LeadsTo third) (silent : third.sent = second.sent) :
    Keeps policy step database catalog first third fault? := by
  refine ⟨earlier.leads.trans leads, ?_⟩
  rw [World.since, silent]
  exact earlier.kept

/-- A calm run of two operations of which the first one succeeds is calm in both. -/
theorem calm_split (earlier : Keeps policy step database catalog first second none)
    (leads : second.LeadsTo third) :
    Calm policy step database catalog none (third.since first) ↔
      Calm policy step database catalog none (third.since second) := by
  rw [earlier.leads.since_eq_append leads, calm_append, earlier.kept.settled]
  exact and_iff_right earlier.kept.calm

end Keeps

/-! ## Retried calls -/

section

variable {environment : Environment σ} {scope : Scope} {token : Token} {call : Call}
  {answering : σ → Answer (Outcome call.Response) × σ}

theorem since_rested {world reached rested last : World σ} {fired : Bool} {interval : Duration}
    {outcome : Outcome call.Response}
    (made : world.ask call answering = (outcome, reached))
    (waited : (reached.now environment).2.wait environment token interval = (fired, rested))
    (leads : rested.LeadsTo last) :
    last.since world =
      ⟨world.clock, call, some (reached.clock, outcome)⟩ :: last.since rested := by
  have rests := World.wait_leadsTo environment token interval (reached.now environment).2
  have quiet := World.wait_sent environment token interval (reached.now environment).2
  rw [waited] at rests quiet
  have asks := World.ask_leadsTo call answering world
  rw [made] at asks
  have reaches := asks.trans ((World.now_leadsTo environment reached).trans rests)
  rw [reaches.since_eq_append leads, World.since, quiet]
  exact congrArg (· ++ last.since rested) (World.ask_since made)

theorem Attempted.kept {queryId : String} {started : Duration} {failures : Nat}
    {world last : World σ} {result : Except Fault call.Response}
    (attempted : Attempted environment policy scope token (·.ask call answering) started
      failures world result last)
    (known : scope.queryId = some queryId) (retried : call.isRetried = true)
    (row : ∀ answered time, Stretch.grown stretch ⟨world.clock, call, answered⟩ time =
      ⟨failures + 1, started⟩) :
    Kept policy environment.step scope.database scope.catalog stretch (last.since world)
      (Fault.of? result) := by
  induction attempted generalizing stretch with
  | succeeded made =>
      rw [World.ask_since made]
      refine .through (calm_of_no_setback rfl) ?_
      rw [Stretch.trailing_singleton, Stretch.after_of_no_setback rfl]
  | @refused failures world reached error made final =>
      have calls : reached.since world = _ := World.ask_since made
      rw [show (reached.now environment).2.since world = _ from calls]
      refine .failed (calm_of_no_setback ?_)
      simp [Sent.setback?, Sent.failure?, final]
  | @exhausted failures world reached error made retryable spent =>
      have calls : reached.since world = _ := World.ask_since made
      have setback := @Sent.setback?_of_failure scope.database scope.catalog world.clock
        reached.clock call error retried retryable
      rw [show (reached.now environment).2.since world = _ from calls]
      cases long : policy.overflows (failures + 1) ((reached.now environment).1 - started) with
      | false =>
          rw [surrender_of_not_overflows _ long, known]
          refine @Kept.exhausted _ _ _ _ _ [] _ _ _ _ calm_nil setback ?_
          rw [Stretch.trailing_nil, row, ← Stretch.allows_iff_fits]
          exact Bool.eq_false_iff.mp spent
      | true =>
          rw [surrender_of_overflows _ long]
          refine @Kept.overflowed _ _ _ _ _ [] _ _ _ calm_nil setback ?_
          rw [Stretch.trailing_nil, row]
          exact long
  | @interrupted failures world reached rested error made retryable allowed waited =>
      have setback := @Sent.setback?_of_failure scope.database scope.catalog world.clock
        reached.clock call error retried retryable
      rw [since_rested made waited (.refl rested), World.since_self]
      refine .failed ((calm_of_setback setback).mpr ?_)
      rw [row]
      exact Stretch.allows_iff_fits.mp allowed
  | @again failures world reached rested last error result made retryable allowed waited rest
      induction =>
      have setback := @Sent.setback?_of_failure scope.database scope.catalog world.clock
        reached.clock call error retried retryable
      rw [since_rested made waited (rest.leadsTo (World.ask_leadsTo call answering)),
        ← List.singleton_append]
      refine .append ((calm_of_setback setback).mpr ?_) ?_
      · rw [row]
        exact Stretch.allows_iff_fits.mp allowed
      · rw [Stretch.trailing_singleton, Stretch.after_of_setback setback, row]
        exact induction fun answered time => rfl

theorem run_keeps (policy : RetryPolicy) (environment : Environment σ) (subject : Subject)
    (token : Token) (call : Call) (answering : σ → Answer (Outcome call.Response) × σ)
    (retried : call.isRetried = true) (unwatched : ∀ queryId, call ≠ .status queryId)
    (world : World σ) :
    policy.Keeps environment.step subject.database subject.catalog world
      (policy.run environment subject.scope token (·.ask call answering) world).2
      (Fault.of? (policy.run environment subject.scope token (·.ask call answering) world).1) := by
  refine ⟨run_leadsTo (World.ask_leadsTo call answering) world, ?_⟩
  have attempted :=
    run_attempted environment policy subject.scope token (·.ask call answering) world
  refine attempted.kept rfl retried ?_
  intro answered time
  cases call with
  | status queryId => exact absurd rfl (unwatched queryId)
  | _ => rfl

end

end RetryPolicy

end RemoteQuery
