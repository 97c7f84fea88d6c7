import RemoteQuery.World
import RemoteQuery.Retry.MissingObject

/-! # Disturbed surroundings

Surroundings are disturbed by failures that come in front of their answers. A disturbed
world shadows an undisturbed one: but for the failures, the same has happened in both.
-/

namespace RemoteQuery

open Calendar (Duration)

variable {σ α β : Type}

structure Lapse where
  error : ServiceError
  delay : Duration := 0
deriving Repr, DecidableEq

/-- Surroundings in which failures are upcoming: some in front of the next answer, some in
front of the one behind it, and so on. -/
structure Disturbed (σ : Type) where
  inner : σ
  upcoming : List (List Lapse) := []
  /-- The latest call has met such a failure, so the wait behind it is an extra one. -/
  resting : Bool := false

namespace Disturbed

def lapse? (outside : Disturbed σ) : Option (Lapse × Disturbed σ) :=
  match outside.upcoming with
  | (lapse :: block) :: rest =>
      some (lapse, { outside with upcoming := block :: rest, resting := true })
  | _ => none

def answering (next : σ → Answer (Outcome α) × σ) (outside : Disturbed σ) :
    Answer (Outcome α) × Disturbed σ :=
  match outside.lapse? with
  | some (lapse, outside) => ({ outcome := .error lapse.error, delay := lapse.delay }, outside)
  | none => ((next outside.inner).1,
      { inner := (next outside.inner).2, upcoming := outside.upcoming.tail })

def replying (next : σ → Reply (Outcome α) × σ) (outside : Disturbed σ) :
    Reply (Outcome α) × Disturbed σ :=
  match outside.lapse? with
  | some (lapse, outside) =>
      (.answer { outcome := .error lapse.error, delay := lapse.delay }, outside)
  | none => ((next outside.inner).1,
      { inner := (next outside.inner).2, upcoming := outside.upcoming.tail })

def calmly (next : σ → α × σ) (outside : Disturbed σ) : α × Disturbed σ :=
  ((next outside.inner).1, { outside with inner := (next outside.inner).2 })

/-- A wait. Nothing happens during an extra one. -/
def pausing (next : σ → List Token × σ) (outside : Disturbed σ) : List Token × Disturbed σ :=
  if outside.resting then ([], { outside with resting := false }) else calmly next outside

def lapsesLeft (outside : Disturbed σ) : Nat :=
  outside.upcoming.flatten.length

end Disturbed

/-- Surroundings whose status checks, schemas, results and files may meet failures. -/
def Environment.disturbed (environment : Environment σ) : Environment (Disturbed σ) where
  submit := fun submission => Disturbed.calmly (environment.submit submission)
  status := fun queryId => Disturbed.replying (environment.status queryId)
  results := fun queryId token maxRows =>
    Disturbed.answering (environment.results queryId token maxRows)
  cancel := fun queryId => Disturbed.calmly (environment.cancel queryId)
  schema := fun table => Disturbed.answering (environment.schema table)
  object := environment.object.map fun object uri => Disturbed.answering (object uri)
  pause := fun duration => Disturbed.pausing (environment.pause duration)
  random := Disturbed.calmly environment.random
  step := environment.step
  wallClock := environment.wallClock

/-! ## Pace -/

/-- As much time as goes by in an undisturbed world from one time to another, or more, goes by
in a disturbed one from one time to another. -/
def Paced (started clock startedShadow clockShadow : Nat) : Prop :=
  clock + startedShadow ≤ clockShadow + started

namespace Paced

variable {started clock startedShadow clockShadow reached reachedShadow : Nat}

theorem refl (started startedShadow : Nat) :
    Paced started started startedShadow startedShadow :=
  Nat.le_of_eq (Nat.add_comm _ _)

theorem begins (started : Nat) (past : startedShadow ≤ clockShadow) :
    Paced started started startedShadow clockShadow := by
  unfold Paced
  omega

theorem elapsed (paced : Paced started clock startedShadow clockShadow) :
    clock - started ≤ clockShadow - startedShadow := by
  unfold Paced at paced
  omega

theorem trans (paced : Paced started clock startedShadow clockShadow)
    (taken : reached + clockShadow = reachedShadow + clock) :
    Paced started reached startedShadow reachedShadow := by
  unfold Paced at *
  omega

theorem now (paced : Paced started clock startedShadow clockShadow) (step : Nat) :
    Paced started (clock + step) startedShadow (clockShadow + step) := by
  unfold Paced at *
  omega

theorem later (paced : Paced started clock startedShadow clockShadow)
    (later : clockShadow ≤ reachedShadow) :
    Paced started clock startedShadow reachedShadow :=
  Nat.le_trans paced (Nat.add_le_add_right later _)

end Paced

namespace World

def disturbed (upcoming : List (List Lapse)) (world : World σ) : World (Disturbed σ) :=
  { outside := { inner := world.outside, upcoming }
    clock := world.clock
    fired := world.fired
    nextToken := world.nextToken
    sent := world.sent }

/-- A disturbed world in which the same has happened as in an undisturbed one, but for
failures that are retryable, and for the time that they took. -/
structure Shadows (database catalog : String) (resting : Bool) (world : World σ)
    (shadow : World (Disturbed σ)) : Prop where
  inner : shadow.outside.inner = world.outside
  resting : shadow.outside.resting = resting
  retryable : ∀ block ∈ shadow.outside.upcoming, ∀ lapse ∈ block,
    lapse.error.isRetryable database catalog = true
  fired : shadow.fired = world.fired
  nextToken : shadow.nextToken = world.nextToken
  calls : (world.sent.map (·.call)).Sublist (shadow.sent.map (·.call))

/-- What a call comes to in a world and in one that shadows it: a failure in the latter only,
or the same in both. -/
inductive Echoes (database catalog : String) (fails : ServiceError → β) (world : World σ)
    (shadow : World (Disturbed σ)) : β × World σ → β × World (Disturbed σ) → Prop
  | lapse {made : β × World σ} {error : ServiceError} {reached : World (Disturbed σ)}
      (retryable : error.isRetryable database catalog = true)
      (shadows : world.Shadows database catalog true reached)
      (fewer : reached.outside.lapsesLeft < shadow.outside.lapsesLeft)
      (later : shadow.clock ≤ reached.clock) :
      Echoes database catalog fails world shadow made (fails error, reached)
  | answer {outcome : β} {reached : World σ} {reachedShadow : World (Disturbed σ)}
      (shadows : reached.Shadows database catalog false reachedShadow)
      (fewer : reachedShadow.outside.lapsesLeft ≤ shadow.outside.lapsesLeft)
      (paced : reached.clock + shadow.clock = reachedShadow.clock + world.clock) :
      Echoes database catalog fails world shadow (outcome, reached) (outcome, reachedShadow)

variable {database catalog : String} {resting : Bool} {world : World σ}
  {shadow : World (Disturbed σ)}

theorem shadows_disturbed (world : World σ) {upcoming : List (List Lapse)}
    (retryable : ∀ block ∈ upcoming, ∀ lapse ∈ block,
      lapse.error.isRetryable database catalog = true) :
    world.Shadows database catalog false (world.disturbed upcoming) :=
  ⟨rfl, rfl, retryable, rfl, rfl, List.Sublist.refl _⟩

namespace Shadows

theorem isFired_eq (shadows : world.Shadows database catalog resting shadow)
    (token : Token) : shadow.isFired token = world.isFired token := by
  rw [isFired, isFired, shadows.fired]

theorem now (shadows : world.Shadows database catalog resting shadow)
    (environment : Environment σ) :
    (world.now environment).2.Shadows database catalog resting
      (shadow.now environment.disturbed).2 :=
  ⟨shadows.inner, shadows.resting, shadows.retryable, shadows.fired, shadows.nextToken,
    shadows.calls⟩

theorem mint (shadows : world.Shadows database catalog resting shadow) :
    world.mint.2.Shadows database catalog resting shadow.mint.2 :=
  ⟨shadows.inner, shadows.resting, shadows.retryable, shadows.fired,
    congrArg (· + 1) shadows.nextToken, shadows.calls⟩

theorem looks (shadows : world.Shadows database catalog resting shadow)
    (environment : Environment σ) :
    world.Shadows database catalog resting (shadow.now environment.disturbed).2 :=
  ⟨shadows.inner, shadows.resting, shadows.retryable, shadows.fired, shadows.nextToken,
    shadows.calls⟩

end Shadows

/-! ## One step of both worlds -/

/-- Either no failure is up next, or one that can be made good. -/
theorem Shadows.lapse?_cases (shadows : world.Shadows database catalog resting shadow) :
    shadow.outside.lapse? = none ∨
      ∃ lapse outside, shadow.outside.lapse? = some (lapse, outside) ∧
        lapse.error.isRetryable database catalog = true ∧
        outside.inner = world.outside ∧ outside.resting = true ∧
        (∀ block ∈ outside.upcoming, ∀ lapse ∈ block,
          lapse.error.isRetryable database catalog = true) ∧
        outside.lapsesLeft < shadow.outside.lapsesLeft := by
  rcases shadow with ⟨⟨same, upcoming, waits⟩, clock, fired, nextToken, sent⟩
  rcases shadows with ⟨inner, -, retryable, -, -, -⟩
  match upcoming with
  | [] => exact .inl rfl
  | [] :: rest => exact .inl rfl
  | (lapse :: block) :: rest =>
      refine .inr ⟨lapse, _, rfl, ?_, inner, rfl, ?_, ?_⟩
      · exact retryable _ List.mem_cons_self _ List.mem_cons_self
      · intro others member other within
        rcases List.mem_cons.mp member with rfl | member
        · exact retryable _ List.mem_cons_self _ (List.mem_cons_of_mem _ within)
        · exact retryable _ (List.mem_cons_of_mem _ member) _ within
      · simp [Disturbed.lapsesLeft]

theorem lapsesLeft_tail (upcoming : List (List Lapse)) :
    upcoming.tail.flatten.length ≤ upcoming.flatten.length := by
  cases upcoming with
  | nil => exact Nat.le_refl _
  | cons block rest => simp

private theorem calls_append {left right : List Call} (call : Call)
    (calls : left.Sublist right) : (left ++ [call]).Sublist (right ++ [call]) :=
  calls.append (List.Sublist.refl _)

private theorem same_pace (clock delay other : Nat) :
    clock + delay + other = other + delay + clock := by
  omega

theorem ask_echoes (shadows : world.Shadows database catalog false shadow) (call : Call)
    (next : σ → Answer (Outcome call.Response) × σ) :
    Echoes database catalog .error world shadow (world.ask call next)
      (shadow.ask call (Disturbed.answering next)) := by
  rcases shadows.lapse?_cases with calm |
    ⟨lapse, outside, upcoming, retryable, inner, waits, others, fewer⟩
  · simp only [ask, Disturbed.answering, calm, shadows.inner]
    refine .answer ⟨rfl, rfl, ?_, ?_, shadows.nextToken, ?_⟩ (lapsesLeft_tail _) ?_
    · exact fun block member => shadows.retryable block (List.mem_of_mem_tail member)
    · exact congrArg (· ++ _) shadows.fired
    · simpa [note, fire] using calls_append call shadows.calls
    · exact same_pace _ _ _
  · simp only [ask, Disturbed.answering, upcoming]
    refine .lapse retryable ⟨inner, waits, others, ?_, shadows.nextToken, ?_⟩ fewer
      (Nat.le_add_right _ _)
    · simpa [note, fire] using shadows.fired
    · simpa [note, fire] using shadows.calls.trans (List.sublist_append_left _ [call])

theorem race_echoes (shadows : world.Shadows database catalog false shadow) (token : Token)
    (call : Call) (next : σ → Reply (Outcome call.Response) × σ) :
    Echoes database catalog (fun error => .answered (.error error)) world shadow
      (world.race token call next) (shadow.race token call (Disturbed.replying next)) := by
  rcases shadows.lapse?_cases with calm |
    ⟨lapse, outside, upcoming, retryable, inner, waits, others, fewer⟩
  · simp only [race, Disturbed.replying, calm, shadows.inner]
    rcases next world.outside with ⟨reply, after⟩
    have tail : ∀ block ∈ shadow.outside.upcoming.tail, ∀ lapse ∈ block,
        lapse.error.isRetryable database catalog = true :=
      fun block member => shadows.retryable block (List.mem_of_mem_tail member)
    have calls : ((world.sent ++ [(⟨world.clock, call, none⟩ : Sent)]).map (·.call)).Sublist
        ((shadow.sent ++ [(⟨shadow.clock, call, none⟩ : Sent)]).map (·.call)) := by
      simpa using calls_append call shadows.calls
    cases reply with
    | silence fired =>
        refine .answer ⟨rfl, rfl, tail, ?_, shadows.nextToken, calls⟩ (lapsesLeft_tail _) ?_
        · exact congrArg (· ++ _) shadows.fired
        · exact same_pace _ 0 _
    | answer answer =>
        dsimp only
        split
        · refine .answer ⟨rfl, rfl, tail, ?_, shadows.nextToken, calls⟩ (lapsesLeft_tail _) ?_
          · exact congrArg (· ++ _) shadows.fired
          · exact same_pace _ _ _
        · refine .answer ⟨rfl, rfl, tail, ?_, shadows.nextToken, ?_⟩ (lapsesLeft_tail _) ?_
          · exact congrArg (· ++ _) shadows.fired
          · simpa [note, fire] using calls_append call shadows.calls
          · exact same_pace _ _ _
  · simp only [race, Disturbed.replying, upcoming]
    refine .lapse retryable ⟨inner, waits, others, ?_, shadows.nextToken, ?_⟩ fewer
      (Nat.le_add_right _ _)
    · simpa [note, fire] using shadows.fired
    · simpa [note, fire] using shadows.calls.trans (List.sublist_append_left _ [call])

theorem ask_calmly (shadows : world.Shadows database catalog resting shadow) (call : Call)
    (next : σ → Answer (Outcome call.Response) × σ) :
    (shadow.ask call (Disturbed.calmly next)).1 = (world.ask call next).1 ∧
      (world.ask call next).2.Shadows database catalog resting
        (shadow.ask call (Disturbed.calmly next)).2 := by
  simp only [ask, Disturbed.calmly, shadows.inner]
  refine ⟨trivial, rfl, shadows.resting, shadows.retryable, ?_, shadows.nextToken, ?_⟩
  · exact congrArg (· ++ _) shadows.fired
  · simpa [note, fire] using calls_append call shadows.calls

theorem wait_shadows (shadows : world.Shadows database catalog false shadow)
    (environment : Environment σ) (token : Token) (duration : Duration) :
    (shadow.wait environment.disturbed token duration).1 =
        (world.wait environment token duration).1 ∧
      (world.wait environment token duration).2.Shadows database catalog false
        (shadow.wait environment.disturbed token duration).2 ∧
      (shadow.wait environment.disturbed token duration).2.outside.lapsesLeft =
        shadow.outside.lapsesLeft ∧
      (world.wait environment token duration).2.clock + shadow.clock =
        (shadow.wait environment.disturbed token duration).2.clock + world.clock := by
  unfold wait
  rw [shadows.isFired_eq]
  split
  · exact ⟨rfl, shadows, rfl, Nat.add_comm _ _⟩
  · simp only [Environment.disturbed, Disturbed.pausing, shadows.resting, Disturbed.calmly,
      shadows.inner, Bool.false_eq_true, if_false]
    refine ⟨trivial, ⟨rfl, rfl, shadows.retryable, ?_, shadows.nextToken, shadows.calls⟩, rfl,
      same_pace _ _ _⟩
    exact congrArg (· ++ _) shadows.fired

/-- A wait behind a failure, in the shadow only. -/
theorem extra_wait (shadows : world.Shadows database catalog true shadow)
    (environment : Environment σ) {token : Token} (duration : Duration)
    (unfired : world.isFired token = false) :
    ∃ rested, shadow.wait environment.disturbed token duration = (false, rested) ∧
      world.Shadows database catalog false rested ∧
      rested.outside.lapsesLeft = shadow.outside.lapsesLeft ∧
      shadow.clock ≤ rested.clock := by
  unfold wait
  rw [shadows.isFired_eq, unfired]
  simp only [Environment.disturbed, Disturbed.pausing, shadows.resting, Bool.false_eq_true,
    if_false, if_true]
  refine ⟨_, rfl, ⟨shadows.inner, rfl, shadows.retryable, ?_, shadows.nextToken,
    shadows.calls⟩, rfl, Nat.le_add_right _ _⟩
  exact (List.append_nil _).trans shadows.fired

end World

end RemoteQuery
