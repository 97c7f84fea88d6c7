import RemoteQuery.Cursor.Fetch
import RemoteQuery.Proofs.Poller.Look
import RemoteQuery.Proofs.Retry.Attempts

/-! # The past of a world

Whatever the engine does, the calls that it has made stay on record, fired tokens stay
fired, new tokens get new numbers, and the clock does not go back.
-/

namespace RemoteQuery

open Calendar (Duration)

variable {σ α : Type}

namespace World

structure LeadsTo (earlier later : World σ) : Prop where
  clock : earlier.clock ≤ later.clock
  fired : earlier.fired <+: later.fired
  nextToken : earlier.nextToken ≤ later.nextToken
  sent : earlier.sent <+: later.sent

def since (later earlier : World σ) : List Sent :=
  later.sent.drop earlier.sent.length

@[simp] theorem since_self (world : World σ) : world.since world = [] := by
  simp [since]

namespace LeadsTo

theorem refl (world : World σ) : world.LeadsTo world :=
  ⟨Nat.le_refl _, List.prefix_rfl, Nat.le_refl _, List.prefix_rfl⟩

theorem trans {first second third : World σ} (left : first.LeadsTo second)
    (right : second.LeadsTo third) : first.LeadsTo third :=
  ⟨Nat.le_trans left.clock right.clock, left.fired.trans right.fired,
    Nat.le_trans left.nextToken right.nextToken, left.sent.trans right.sent⟩

theorem sent_eq {earlier later : World σ} (leads : earlier.LeadsTo later) :
    later.sent = earlier.sent ++ later.since earlier := by
  rcases leads.sent with ⟨more, equal⟩
  simp [since, ← equal]

theorem since_eq_append {first second third : World σ} (left : first.LeadsTo second)
    (right : second.LeadsTo third) :
    third.since first = second.since first ++ third.since second := by
  have whole := (left.trans right).sent_eq
  rw [right.sent_eq, left.sent_eq, List.append_assoc] at whole
  exact (List.append_cancel_left whole).symm

theorem isFired {earlier later : World σ} {token : Token} (leads : earlier.LeadsTo later)
    (fired : earlier.isFired token = true) : later.isFired token = true := by
  simp only [World.isFired, List.contains_eq_mem, decide_eq_true_eq] at fired ⊢
  exact leads.fired.subset fired

theorem unfired {earlier later : World σ} {token : Token} (leads : earlier.LeadsTo later)
    (unfired : later.isFired token = false) : earlier.isFired token = false := by
  cases fired : earlier.isFired token with
  | false => rfl
  | true => exact absurd (leads.isFired fired) (by simp [unfired])

end LeadsTo

/-! ## One step of the world -/

theorem now_leadsTo (environment : Environment σ) (world : World σ) :
    world.LeadsTo (world.now environment).2 :=
  { LeadsTo.refl world with clock := Nat.le_add_right _ _ }

theorem mint_leadsTo (world : World σ) : world.LeadsTo world.mint.2 :=
  { LeadsTo.refl world with nextToken := Nat.le_succ _ }

theorem ask_leadsTo (call : Call) (answering : σ → Answer (Outcome call.Response) × σ)
    (world : World σ) : world.LeadsTo (world.ask call answering).2 :=
  ⟨Nat.le_add_right _ _, List.prefix_append _ _, Nat.le_refl _, List.prefix_append _ _⟩

theorem race_leadsTo (token : Token) (call : Call)
    (replying : σ → Reply (Outcome call.Response) × σ) (world : World σ) :
    world.LeadsTo (world.race token call replying).2 := by
  unfold race
  rcases replying world.outside with ⟨reply, outside⟩
  cases reply with
  | silence fired =>
      exact ⟨Nat.le_refl _, List.prefix_append _ _, Nat.le_refl _, List.prefix_append _ _⟩
  | answer answer =>
      dsimp only
      split <;>
        exact ⟨Nat.le_add_right _ _, List.prefix_append _ _, Nat.le_refl _,
          List.prefix_append _ _⟩

theorem wait_leadsTo (environment : Environment σ) (token : Token) (duration : Duration)
    (world : World σ) : world.LeadsTo (world.wait environment token duration).2 := by
  unfold wait
  split
  · exact LeadsTo.refl world
  · exact ⟨Nat.le_add_right _ _, List.prefix_append _ _, Nat.le_refl _, List.prefix_rfl⟩

/-! ## The calls of one step -/

theorem since_of_sent_eq {earlier later : World σ} {calls : List Sent}
    (equal : later.sent = earlier.sent ++ calls) : later.since earlier = calls := by
  simp [since, equal]

theorem ask_since {call : Call} {answering : σ → Answer (Outcome call.Response) × σ}
    {world reached : World σ} {outcome : Outcome call.Response}
    (made : world.ask call answering = (outcome, reached)) :
    reached.since world = [⟨world.clock, call, some (reached.clock, outcome)⟩] := by
  cases made
  exact since_of_sent_eq rfl

/-- How a race ends, as far as the world tells: the call is on record, together with its
outcome if that was first, and a token that was first has been fired. -/
inductive RaceEnd (token : Token) (call : Call) (world : World σ) :
    Raced (Outcome call.Response) → World σ → Prop
  | stuck {reached : World σ} : RaceEnd token call world .stuck reached
  | interrupted {reached : World σ}
      (sent : reached.sent = world.sent ++ [⟨world.clock, call, none⟩])
      (fired : reached.isFired token = true) : RaceEnd token call world .interrupted reached
  | answered {reached : World σ} {outcome : Outcome call.Response}
      (sent : reached.sent =
        world.sent ++ [⟨world.clock, call, some (reached.clock, outcome)⟩]) :
      RaceEnd token call world (.answered outcome) reached

theorem raceEnd_race (token : Token) (call : Call)
    (replying : σ → Reply (Outcome call.Response) × σ) (world : World σ) :
    RaceEnd token call world (world.race token call replying).1
      (world.race token call replying).2 := by
  unfold race
  rcases replying world.outside with ⟨reply, outside⟩
  cases reply with
  | silence fired =>
      by_cases contained : fired.contains token = true
      · simp only [contained, if_true]
        exact .interrupted rfl (by simp_all [isFired, fire, note])
      · simp only [contained]
        exact .stuck
  | answer answer =>
      by_cases contained : answer.early.contains token = true
      · simp only [contained, if_true]
        exact .interrupted rfl (by simp_all [isFired, fire, note])
      · simp only [contained]
        exact .answered rfl

theorem wait_sent (environment : Environment σ) (token : Token) (duration : Duration)
    (world : World σ) : (world.wait environment token duration).2.sent = world.sent := by
  unfold wait
  split <;> rfl

theorem wait_of_isFired {environment : Environment σ} {token : Token} {duration : Duration}
    {world : World σ} (fired : world.isFired token = true) :
    world.wait environment token duration = (true, world) := by
  rw [wait, if_pos fired]

theorem wait_clock {environment : Environment σ} {token : Token} {duration : Duration}
    {world rested : World σ} (waited : world.wait environment token duration = (false, rested)) :
    rested.clock = world.clock + duration := by
  unfold wait at waited
  split at waited
  · cases waited
  · cases (Prod.mk.inj waited).2
    rfl

theorem wait_isFired {environment : Environment σ} {token : Token} {duration : Duration}
    {world reached : World σ}
    (waited : world.wait environment token duration = (true, reached)) :
    reached.isFired token = true := by
  unfold wait at waited
  split at waited
  · rename_i fired
    cases waited
    exact fired
  · simp only [Prod.mk.injEq] at waited
    rcases waited with ⟨contained, rfl⟩
    simp only [isFired, fire, List.contains_eq_mem, decide_eq_true_eq] at contained ⊢
    exact List.mem_append_right _ contained

end World

/-! ## Retried calls -/

namespace RetryPolicy

variable {environment : Environment σ} {policy : RetryPolicy} {scope : Scope} {token : Token}
  {attempt : World σ → Outcome α × World σ}

theorem Attempted.leadsTo (attemptLeads : ∀ world : World σ, world.LeadsTo (attempt world).2)
    {started : Duration} {failures : Nat} {world last : World σ} {result : Except Fault α}
    (attempted : Attempted environment policy scope token attempt started failures world
      result last) : world.LeadsTo last := by
  have leads : ∀ {world reached : World σ} {outcome : Outcome α},
      attempt world = (outcome, reached) → world.LeadsTo reached := fun {world} {_} {_} made => by
    have := attemptLeads world
    rwa [made] at this
  have waits : ∀ {world rested : World σ} {fired : Bool},
      world.wait environment token policy.interval = (fired, rested) →
      world.LeadsTo rested := fun {world} {_} {_} waited => by
    have := world.wait_leadsTo environment token policy.interval
    rwa [waited] at this
  induction attempted with
  | succeeded made => exact leads made
  | refused made final => exact (leads made).trans (World.now_leadsTo _ _)
  | exhausted made retryable spent => exact (leads made).trans (World.now_leadsTo _ _)
  | interrupted made retryable allowed waited =>
      exact ((leads made).trans (World.now_leadsTo _ _)).trans (waits waited)
  | again made retryable allowed waited rest induction =>
      exact (((leads made).trans (World.now_leadsTo _ _)).trans (waits waited)).trans induction

theorem run_leadsTo (attemptLeads : ∀ world : World σ, world.LeadsTo (attempt world).2)
    (world : World σ) :
    world.LeadsTo (policy.run environment scope token attempt world).2 :=
  (world.now_leadsTo environment).trans
    ((run_attempted environment policy scope token attempt world).leadsTo attemptLeads)

end RetryPolicy

/-! ## Following a query -/

namespace Poller

variable {poller : Poller} {environment : Environment σ} {token : Token} {started : Duration}
  {progress : Progress σ}

theorem requestCancel_leadsTo (environment : Environment σ) (queryId : String)
    (world : World σ) : world.LeadsTo (requestCancel environment queryId world) :=
  World.ask_leadsTo _ _ _

theorem abort_leadsTo (poller : Poller) (environment : Environment σ) (execution : Execution)
    (world : World σ) : world.LeadsTo (poller.abort environment execution world).world := by
  unfold abort
  dsimp only
  split
  · exact requestCancel_leadsTo environment execution.queryId world
  · exact World.LeadsTo.refl world

theorem overdue?_leadsTo (poller : Poller) (environment : Environment σ) (started : Duration)
    (world : World σ) :
    world.LeadsTo (poller.overdue? environment started world).2 := by
  unfold overdue?
  cases poller.timeout with
  | none => exact World.LeadsTo.refl world
  | some timeout => exact world.now_leadsTo environment

theorem overdue?_sent (poller : Poller) (environment : Environment σ) (started : Duration)
    (world : World σ) :
    (poller.overdue? environment started world).2.sent = world.sent := by
  unfold overdue?
  cases poller.timeout <;> rfl

theorem overdue?_clock (poller : Poller) (environment : Environment σ) (started : Duration)
    (world : World σ)
    {timeout : Duration} {reached : World σ}
    (overdue : poller.overdue? environment started world = (some timeout, reached)) :
    poller.timeout = some timeout ∧ timeout ≤ reached.clock - started := by
  unfold overdue? at overdue
  cases limited : poller.timeout with
  | none => simp [limited] at overdue
  | some limit =>
      simp only [limited, Prod.mk.injEq, Option.ite_none_right_eq_some] at overdue
      rcases overdue with ⟨⟨late, same⟩, rfl⟩
      cases same
      exact ⟨rfl, late⟩

theorem check_answered_since {outcome : Outcome Status} {reached : World σ}
    (answered : poller.check environment token started progress =
      (.answered outcome, reached)) :
    ∃ time, reached.since progress.world =
      [⟨time, .status progress.execution.queryId, some (reached.clock, outcome)⟩] := by
  have ends := World.raceEnd_race token (.status progress.execution.queryId)
    (environment.status progress.execution.queryId)
    (poller.overdue? environment started progress.world).2
  rw [show World.race _ _ _ _ = _ from answered] at ends
  cases ends with
  | answered sent =>
      rw [overdue?_sent] at sent
      exact ⟨_, World.since_of_sent_eq sent⟩

theorem check_interrupted_since {reached : World σ}
    (unanswered : poller.check environment token started progress =
      (.interrupted, reached)) :
    reached.isFired token = true ∧ ∃ time, reached.since progress.world =
      [⟨time, .status progress.execution.queryId, none⟩] := by
  have ends := World.raceEnd_race token (.status progress.execution.queryId)
    (environment.status progress.execution.queryId)
    (poller.overdue? environment started progress.world).2
  rw [show World.race _ _ _ _ = _ from unanswered] at ends
  cases ends with
  | interrupted sent fired =>
      rw [overdue?_sent] at sent
      exact ⟨fired, _, World.since_of_sent_eq sent⟩

theorem requestCancel_since (environment : Environment σ) (queryId : String)
    (world : World σ) :
    ∃ answered, (requestCancel environment queryId world).since world =
      [⟨world.clock, .cancel queryId, answered⟩] :=
  ⟨_, World.since_of_sent_eq rfl⟩

theorem check_leadsTo {ended : World.Raced (Outcome Status)} {reached : World σ}
    (checked : poller.check environment token started progress = (ended, reached)) :
    progress.world.LeadsTo reached := by
  have raced := (poller.overdue? environment started progress.world).2.race_leadsTo token
    (.status progress.execution.queryId) (environment.status progress.execution.queryId)
  rw [show World.race _ _ _ _ = _ from checked] at raced
  exact (poller.overdue?_leadsTo environment started progress.world).trans raced

theorem Awaits.leadsTo {resting : Progress σ}
    (awaits : Awaits poller environment token started progress resting) :
    progress.world.LeadsTo resting.world := by
  cases awaits with
  | status checks answered unfired undecided => exact check_leadsTo answered
  | failure checks answered retryable allowed =>
      exact ((check_leadsTo answered).trans (World.now_leadsTo _ _)).trans (World.now_leadsTo _ _)

theorem Awaits.waits_leadsTo {resting : Progress σ} {fired : Bool} {reached : World σ}
    (awaits : Awaits poller environment token started progress resting)
    (waited : resting.world.wait environment token poller.interval = (fired, reached)) :
    progress.world.LeadsTo reached := by
  have rested := resting.world.wait_leadsTo environment token poller.interval
  rw [waited] at rested
  exact awaits.leadsTo.trans rested

/-- The world behind a look that has an end. -/
def Step.world? : Step σ → Option (World σ)
  | .concluded conclusion => some conclusion.world
  | .continued progress => some progress.world
  | .stuck => none

theorem Look.leadsTo {result : Step σ} {later : World σ}
    (look : Look poller environment token started progress result)
    (reaches : result.world? = some later) : progress.world.LeadsTo later := by
  cases look with
  | firedBefore fired =>
      cases reaches
      exact poller.abort_leadsTo environment progress.execution progress.world
  | expired unfired overdue =>
      cases reaches
      have looked := poller.overdue?_leadsTo environment started progress.world
      rw [overdue] at looked
      exact looked.trans (requestCancel_leadsTo environment _ _)
  | stuck checks unanswered => cases reaches
  | firedMeanwhile checks unanswered =>
      cases reaches
      exact (check_leadsTo unanswered).trans (poller.abort_leadsTo environment _ _)
  | firedWithStatus checks answered fired =>
      cases reaches
      exact (check_leadsTo answered).trans (poller.abort_leadsTo environment _ _)
  | decided checks answered unfired verdict =>
      cases reaches
      exact check_leadsTo answered
  | refused checks answered final =>
      cases reaches
      exact (check_leadsTo answered).trans (World.now_leadsTo _ _)
  | exhausted checks answered retryable spent =>
      cases reaches
      exact ((check_leadsTo answered).trans (World.now_leadsTo _ _)).trans (World.now_leadsTo _ _)
  | firedAtRest awaits waited =>
      cases reaches
      exact (awaits.waits_leadsTo waited).trans (poller.abort_leadsTo environment _ _)
  | continued awaits waited =>
      cases reaches
      exact awaits.waits_leadsTo waited

theorem follow_leadsTo {limit : Nat} {conclusion : Conclusion σ}
    (followed : poller.follow environment token started limit progress = some conclusion) :
    progress.world.LeadsTo conclusion.world := by
  induction limit generalizing progress with
  | zero => cases followed
  | succ limit induction =>
      rcases follow_cases followed with look | ⟨next, look, rest⟩
      · exact look.leadsTo rfl
      · exact (look.leadsTo rfl).trans (induction rest)

theorem pollUntilTerminal_leadsTo {limit : Nat} {execution : Execution} {world : World σ}
    {conclusion : Conclusion σ}
    (followed : poller.pollUntilTerminal environment token limit execution world =
      some conclusion) : world.LeadsTo conclusion.world :=
  (world.now_leadsTo environment).trans (follow_leadsTo followed)

end Poller

end RemoteQuery
