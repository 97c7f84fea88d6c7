import RemoteQuery.Proofs.History

/-! # The calls of a retried call

A retried call leaves on record the calls that failed and, if it succeeds in the end, the one
that did not fail behind them.
-/

namespace RemoteQuery

variable {σ : Type}

inductive Tried (call : Call) : List Sent → Except Fault call.Response → Prop
  | answered {time later : Calendar.Duration} {value : call.Response} :
      Tried call [⟨time, call, some (later, .ok value)⟩] (.ok value)
  | gaveUp {time later : Calendar.Duration} {error : ServiceError} (fault : Fault) :
      Tried call [⟨time, call, some (later, .error error)⟩] (.error fault)
  | again {time later : Calendar.Duration} {error : ServiceError} {calls : List Sent}
      {result : Except Fault call.Response} (rest : Tried call calls result) :
      Tried call (⟨time, call, some (later, .error error)⟩ :: calls) result

theorem Tried.call_eq {call : Call} {calls : List Sent} {result : Except Fault call.Response}
    (tried : Tried call calls result) : ∀ sent ∈ calls, sent.call = call := by
  induction tried with
  | answered | gaveUp =>
      intro sent member
      rw [List.mem_singleton.mp member]
  | again rest induction => exact List.forall_mem_cons.mpr ⟨rfl, induction⟩

namespace RetryPolicy

variable {environment : Environment σ} {policy : RetryPolicy} {scope : Scope} {token : Token}
  {call : Call} {answering : σ → Answer (Outcome call.Response) × σ}

theorem Attempted.tried {started : Calendar.Duration} {failures : Nat} {world last : World σ}
    {result : Except Fault call.Response}
    (attempted : Attempted environment policy scope token (·.ask call answering) started failures
      world result last) : Tried call (last.since world) result := by
  -- Neither a look at the clock nor a pause sends anything.
  have paused : ∀ {world reached rested : World σ} {fired : Bool},
      (reached.now environment).2.wait environment token policy.interval = (fired, rested) →
      rested.since world = reached.since world := by
    intro world reached rested fired waited
    have sent := World.wait_sent environment token policy.interval (reached.now environment).2
    rw [waited] at sent
    exact congrArg (List.drop world.sent.length) sent
  induction attempted with
  | succeeded made =>
      rw [World.ask_since made]
      exact .answered
  | @refused failures world reached error made final =>
      have calls : (reached.now environment).2.since world = reached.since world := rfl
      rw [calls, World.ask_since made]
      exact .gaveUp _
  | @exhausted failures world reached error made retryable spent =>
      have calls : (reached.now environment).2.since world = reached.since world := rfl
      rw [calls, World.ask_since made]
      exact .gaveUp _
  | interrupted made retryable allowed waited =>
      rw [paused waited, World.ask_since made]
      exact .gaveUp _
  | @again failures world reached rested last error result made retryable allowed waited rest
      induction =>
      have asks := world.ask_leadsTo call answering
      rw [made] at asks
      have waits := World.wait_leadsTo environment token policy.interval (reached.now environment).2
      rw [waited] at waits
      have leads : world.LeadsTo rested :=
        asks.trans ((reached.now_leadsTo environment).trans waits)
      rw [leads.since_eq_append (rest.leadsTo (World.ask_leadsTo call answering)), paused waited,
        World.ask_since made]
      exact .again induction

theorem run_tried (environment : Environment σ) (policy : RetryPolicy) (scope : Scope)
    (token : Token) (call : Call) (answering : σ → Answer (Outcome call.Response) × σ)
    (world : World σ) :
    Tried call
      ((policy.run environment scope token (·.ask call answering) world).2.since world)
      (policy.run environment scope token (·.ask call answering) world).1 := by
  have calls : ∀ last : World σ, last.since (world.now environment).2 = last.since world :=
    fun _ => rfl
  rw [← calls]
  exact (run_attempted environment policy scope token (·.ask call answering) world).tried

end RetryPolicy

/-! ## Parts of results -/

def Sent.part? : Sent → Option ResultPart
  | ⟨_, .results _ _ _, some (_, .ok part)⟩ => some part
  | _ => none

theorem Sent.parts_of_unasked {calls : List Sent}
    (unasked : ∀ sent ∈ calls, ∀ queryId token maxRows,
      sent.call ≠ .results queryId token maxRows) : calls.filterMap Sent.part? = [] := by
  rw [List.filterMap_eq_nil_iff]
  intro sent member
  have other := unasked sent member
  unfold Sent.part?
  split
  · exact absurd rfl (other _ _ _)
  · rfl

theorem Tried.parts {queryId : String} {token : Option String} {maxRows : Nat}
    {calls : List Sent} {result : Except Fault (Call.results queryId token maxRows).Response}
    (tried : Tried (Call.results queryId token maxRows) calls result) :
    calls.filterMap Sent.part? = result.toOption.toList := by
  induction tried with
  | answered | gaveUp => rfl
  | again rest induction => exact induction

end RemoteQuery
