import RemoteQuery.Proofs.Cursor.Traffic
import RemoteQuery.Proofs.Retry.Calls

/-! # What a launch comes by

A launch that succeeds has followed its query to the end, chosen a source of the results, and
taken the first page from it. Before it chooses the source, it asks for no part of the results.
-/

namespace RemoteQuery.Cursor

variable {σ : Type}

section

variable (connection : Connection) (environment : Environment σ)

/-- On the way between two worlds, a query was submitted and followed to its end. Its record
says what was told on the way. -/
structure Settles (world : World σ) (last : Execution) (settled : World σ) : Prop where
  leads : world.LeadsTo settled
  record : ∃ fresh : Execution, fresh.isTerminal = false ∧ fresh.updateCount = none ∧
    last = fresh.told environment.wallClock (settled.since world)
  noParts : (settled.since world).filterMap Sent.part? = []

inductive Opening (world : World σ) : Cursor σ → World σ → Prop
  | opens {ready inner : Cursor σ} {token : Token} {last : Execution} {source : Source σ}
      {settled middle reached : World σ} (settles : Settles environment world last settled)
      (selected : selectSource connection environment token last settled = (.ok source, middle))
      (isRecord : ready.execution = some last)
      (opens : openResults environment source ready middle = (.ok (), inner, reached)) :
      Opening world { inner with state := .consumable } reached

end

variable {connection : Connection} {environment : Environment σ} {limit : Nat} {sql : String}
  {launch : Launch} {cursor opened : Cursor σ} {world reached : World σ}

/-! ## Following the query -/

theorem ready_since (cursor : Cursor σ) (world : World σ) (launch : Launch) :
    (cursor.ready world launch).2.since world = [] := by
  rw [World.since, ready_sent, List.drop_length]

private theorem submit_fresh {config : Config} {execution : Execution}
    (accepted : submit environment config sql world = (.ok execution, reached)) :
    execution.isTerminal = false ∧ execution.updateCount = none := by
  unfold submit at accepted
  rcases environment.random world.outside with ⟨bits, outside⟩
  dsimp only at accepted
  split at accepted
  · cases accepted
  · cases accepted
    exact ⟨rfl, rfl⟩

private theorem submit_silent {config : Config} {answer : Except Fault Execution}
    (submitted : submit environment config sql world = (answer, reached)) :
    world.LeadsTo reached ∧
      ∀ sent ∈ reached.since world, sent.news? = none ∧ sent.part? = none := by
  obtain ⟨leads, requestToken, onlyCall⟩ := submit_calls environment config sql world
  rw [submitted] at leads onlyCall
  refine ⟨leads, fun sent member => ?_⟩
  have isCall : sent.call ∈ reached.calls world := List.mem_map_of_mem member
  rw [onlyCall, List.mem_singleton] at isCall
  obtain ⟨time, call, answer⟩ := sent
  cases isCall
  exact ⟨rfl, rfl⟩

theorem settles_of_followed {poller : Poller} {config : Config} {token : Token}
    {execution last : Execution} {start submitted settled : World σ}
    (begins : world.LeadsTo start) (quiet : start.since world = [])
    (accepted : submit environment config sql start = (.ok execution, submitted))
    (followed : poller.pollUntilTerminal environment token limit execution submitted =
      some ⟨.ok (), last, settled⟩) : Settles environment world last settled := by
  obtain ⟨fresh, uncounted⟩ := submit_fresh accepted
  obtain ⟨submits, silent⟩ := submit_silent accepted
  have follows := Poller.pollUntilTerminal_leadsTo followed
  have calls : settled.since world = submitted.since start ++ settled.since submitted := by
    rw [(begins.trans submits).since_eq_append follows, begins.since_eq_append submits, quiet,
      List.nil_append]
  refine ⟨begins.trans (submits.trans follows), ⟨execution, fresh, uncounted, ?_⟩, ?_⟩
  · rw [calls, Execution.told_append,
      Execution.told_of_no_news fun sent member => (silent sent member).1]
    cases Poller.pollUntilTerminal_accounted fresh followed with
    | decided record verdict ended kept => exact record
    | interrupted record outcome fired => cases outcome
    | givenUp undecided record outcome gaveUp => cases outcome
  · rw [calls, List.filterMap_append,
      List.filterMap_eq_nil_iff.mpr fun sent member => (silent sent member).2, List.nil_append]
    apply Sent.parts_of_unasked
    intro sent member queryId given maxRows same
    have unread := pollUntilTerminal_unread followed sent.call (List.mem_map_of_mem member)
    rw [same] at unread
    cases unread

/-! ## Opening the results -/

theorem selectSource_cases {token : Token} {execution : Execution} {source : Source σ}
    (selected : selectSource connection environment token execution world =
      (.ok source, reached)) :
    (∃ file, source = .bulk file) ∨
      ∃ fresh : DirectSource, source = .direct fresh ∧ fresh.columns = none ∧ reached = world ∧
        ¬(connection.config.resultFormat = .bulk ∧ execution.location.isSome = true ∧
          environment.object.isSome = true) := by
  unfold selectSource at selected
  dsimp only at selected
  split at selected
  · rename_i location object wanted atLocation store
    rcases prepared : BulkSource.prepare environment object location execution.subject
      connection.config.maxRowsPerPage.toNat connection.config.retryPolicy token world with
      ⟨fault | file, settled⟩
    · rw [prepared] at selected
      cases selected
    · rw [prepared] at selected
      cases selected
      exact .inl ⟨file, rfl⟩
  · rename_i impossible
    cases selected
    refine .inr ⟨_, rfl, rfl, rfl, ?_⟩
    rintro ⟨wanted, located, stored⟩
    obtain ⟨location, atLocation⟩ := Option.isSome_iff_exists.mp located
    obtain ⟨object, store⟩ := Option.isSome_iff_exists.mp stored
    exact impossible location object wanted atLocation store

theorem opening_of_launch
    (launched : cursor.launch connection environment limit sql launch world =
      some (.ok (), opened, reached)) : Opening connection environment world opened reached := by
  cases launches_of_launch launched with
  | @succeeded inner reached unclosed ran =>
      unfold run at ran
      split at ran
      · cases ran
      · cases ran
      · rename_i source execution? middle reaches
        cases reaches_of_reachResults reaches with
        | succeeded accepted followed selected =>
            have settles := settles_of_followed (ready_inherits cursor world launch).leads
              (ready_since cursor world launch) accepted followed
            exact .opens settles selected rfl (Option.some.inj ran)

theorem openResults_cases {source : Source σ}
    (opens : openResults environment source cursor world = (.ok (), opened, reached)) :
    ∃ page pager,
      ({ source } : Pager σ).next environment world = (.ok (some page), pager, reached) ∧
      opened = { cursor.recordUpdateCount page with
        columns := page.columns, buffer := page.rows, pager := some pager } := by
  unfold openResults at opens
  split at opens
  · cases opens
  · rename_i pager settled stepped
    cases Pager.exhausted_of_next stepped
  · rename_i page pager settled stepped
    cases opens
    exact ⟨page, pager, stepped, rfl⟩

end RemoteQuery.Cursor
