import RemoteQuery.Proofs.Cursor.Rows

/-! # Histories of a cursor

A cursor is used by operations, one after the other. Between two of them the world goes on
as it likes: tokens are fired, and other cursors are used. Nobody has to wait for an
operation to end. A launch that is not waited for leaves the cursor as if it were still
executing, and a fetch that is not waited for leaves it somewhere among its rows.
-/

namespace RemoteQuery

inductive Operation where
  | launch (sql : String) (launch : Launch)
  | fetch (fetch : Fetch)
  | cancel
  | close
  | setFetchSize (size : UInt64)
deriving Repr, DecidableEq

namespace Operation

def isLaunch : Operation → Bool
  | .launch _ _ => true
  | _ => false

def endsResults : Operation → Bool
  | .launch _ _ | .close => true
  | _ => false

end Operation

namespace Cursor

variable {σ : Type}

section

variable (connection : Connection) (environment : Environment σ)

/-- What an operation answers, with the cursor and the world behind it. Only fetches hand
out rows. -/
def perform (limit : Nat) (operation : Operation) (cursor : Cursor σ) (world : World σ) :
    Option (Delivery × Cursor σ × World σ) :=
  match operation with
  | .launch sql launch =>
      (cursor.launch connection environment limit sql launch world).map
        fun (answer, cursor, world) => (answer.map fun _ => [], cursor, world)
  | .fetch fetch => cursor.fetch connection environment limit fetch world
  | .cancel =>
      let (answer, world) := cursor.cancel environment world
      some (answer.map fun _ => [], cursor, world)
  | .close => some (.ok [], cursor.close, world)
  | .setFetchSize size =>
      let (answer, cursor) := cursor.setFetchSize size
      some (answer.map fun _ => [], cursor, world)

def ready (cursor : Cursor σ) (world : World σ) : Launch → Cursor σ × World σ
  | .own => cursor.renewToken world
  | .given _ => (cursor, world)

inductive History : Cursor σ → World σ → List Operation → Cursor σ → World σ → Prop
  | nil {cursor : Cursor σ} {world : World σ} : History cursor world [] cursor world
  | meanwhile {cursor last : Cursor σ} {world later final : World σ}
      {operations : List Operation} (leads : world.LeadsTo later)
      (rest : History cursor later operations last final) :
      History cursor world operations last final
  | performed (limit : Nat) {operation : Operation} {answer : Delivery}
      {cursor next last : Cursor σ} {world middle final : World σ}
      {operations : List Operation}
      (answered : cursor.perform connection environment limit operation world =
        some (answer, next, middle))
      (rest : History next middle operations last final) :
      History cursor world (operation :: operations) last final
  | abandonedLaunch {sql : String} {launch : Launch} {execution : Option Execution}
      {cursor last : Cursor σ} {world later final : World σ} {operations : List Operation}
      (unclosed : cursor.state ≠ .closed)
      (leads : (cursor.ready world launch).2.LeadsTo later)
      (rest : History
        { (cursor.ready world launch).1.reset with state := .executing, execution }
        later operations last final) :
      History cursor world (.launch sql launch :: operations) last final
  | abandonedFetch {fetch : Fetch} {execution : Option Execution} {pager : Option (Pager σ)}
      {buffer : List RawRow} {columns : List Column} {cursor last : Cursor σ}
      {world later final : World σ} {operations : List Operation}
      (consumable : cursor.state = .consumable)
      -- Behind the last row, no fetch has anything to wait for.
      (unexhausted : ¬cursor.Exhausted)
      (leads : world.LeadsTo later)
      (rest : History { cursor with execution, pager, buffer, columns } later operations last
        final) :
      History cursor world (.fetch fetch :: operations) last final

/-- What operations of some kind leave as it is, whether they are waited for or not. -/
structure Invariant (allowed : Operation → Prop) (Holds : Cursor σ → Prop) : Prop where
  performed {limit : Nat} {operation : Operation} {answer : Delivery} {cursor next : Cursor σ}
    {world middle : World σ} (permitted : allowed operation) (holds : Holds cursor)
    (answered : cursor.perform connection environment limit operation world =
      some (answer, next, middle)) : Holds next
  abandonedLaunch {sql : String} {launch : Launch} {execution : Option Execution}
    {cursor : Cursor σ} (world : World σ) (permitted : allowed (.launch sql launch))
    (holds : Holds cursor) (unclosed : cursor.state ≠ .closed) :
    Holds { (cursor.ready world launch).1.reset with state := .executing, execution }
  abandonedFetch {fetch : Fetch} {execution : Option Execution} {pager : Option (Pager σ)}
    {buffer : List RawRow} {columns : List Column} {cursor : Cursor σ}
    (permitted : allowed (.fetch fetch)) (holds : Holds cursor)
    (consumable : cursor.state = .consumable) (unexhausted : ¬cursor.Exhausted) :
    Holds { cursor with execution, pager, buffer, columns }

inductive Reaches (limit : Nat) (sql : String) (token : Token) (world : World σ) :
    Except Fault (Source σ) → Option Execution → World σ → Prop
  | rejected {fault : Fault} {reached : World σ}
      (rejected : submit environment connection.config sql world = (.error fault, reached)) :
      Reaches limit sql token world (.error fault) none reached
  | stopped {execution last : Execution} {submitted reached : World σ} {fault : Fault}
      (accepted : submit environment connection.config sql world = (.ok execution, submitted))
      (followed : connection.config.poller.pollUntilTerminal environment token limit execution
        submitted = some ⟨.error fault, last, reached⟩) :
      Reaches limit sql token world (.error fault) (some last) reached
  | succeeded {execution last : Execution} {submitted settled reached : World σ}
      {source : Except Fault (Source σ)}
      (accepted : submit environment connection.config sql world = (.ok execution, submitted))
      (followed : connection.config.poller.pollUntilTerminal environment token limit execution
        submitted = some ⟨.ok (), last, settled⟩)
      (selected : selectSource connection environment token last settled = (source, reached)) :
      Reaches limit sql token world source (some last) reached

inductive Launches (limit : Nat) (sql : String) (launch : Launch) (cursor : Cursor σ)
    (world : World σ) : Except Fault Unit → Cursor σ → World σ → Prop
  | refused (closed : cursor.state = .closed) :
      Launches limit sql launch cursor world (.error Misuse.closed.fault)
        (cursor.ready world launch).1 (cursor.ready world launch).2
  | succeeded {after : Cursor σ} {reached : World σ} (unclosed : cursor.state ≠ .closed)
      (ran : run connection environment limit sql (cursor.tokenFor world launch).1
        { (cursor.ready world launch).1.reset with state := .executing }
        (cursor.ready world launch).2 = some (.ok (), after, reached)) :
      Launches limit sql launch cursor world (.ok ()) { after with state := .consumable }
        reached
  | failed {fault : Fault} {after : Cursor σ} {reached : World σ}
      (unclosed : cursor.state ≠ .closed)
      (ran : run connection environment limit sql (cursor.tokenFor world launch).1
        { (cursor.ready world launch).1.reset with state := .executing }
        (cursor.ready world launch).2 = some (.error fault, after, reached)) :
      Launches limit sql launch cursor world (.error fault)
        ({ after with state := .failed }.renewToken reached).1
        ({ after with state := .failed }.renewToken reached).2

end

variable {connection : Connection} {environment : Environment σ} {limit : Nat} {sql : String}
  {launch : Launch} {cursor next after last : Cursor σ} {world middle reached final : World σ}

/-! ## Invariants -/

theorem History.holds {allowed : Operation → Prop} {Holds : Cursor σ → Prop}
    {operations : List Operation}
    (invariant : Invariant connection environment allowed Holds)
    (history : History connection environment cursor world operations last final)
    (permitted : ∀ operation ∈ operations, allowed operation) (holds : Holds cursor) :
    Holds last := by
  induction history with
  | nil => exact holds
  | meanwhile leads rest induction => exact induction permitted holds
  | performed limit answered rest induction =>
      rcases List.forall_mem_cons.mp permitted with ⟨here, later⟩
      exact induction later (invariant.performed here holds answered)
  | abandonedLaunch unclosed leads rest induction =>
      rcases List.forall_mem_cons.mp permitted with ⟨here, later⟩
      exact induction later (invariant.abandonedLaunch _ here holds unclosed)
  | abandonedFetch consumable unexhausted leads rest induction =>
      rcases List.forall_mem_cons.mp permitted with ⟨here, later⟩
      exact induction later (invariant.abandonedFetch here holds consumable unexhausted)

/-! ## Launches -/

theorem reaches_of_reachResults {token : Token} {source : Except Fault (Source σ)}
    {execution? : Option Execution}
    (reaches : reachResults connection environment limit sql token world =
      some (source, execution?, reached)) :
    Reaches connection environment limit sql token world source execution? reached := by
  unfold reachResults at reaches
  split at reaches
  · rename_i rejected
    cases reaches
    exact .rejected rejected
  · rename_i accepted
    split at reaches
    · cases reaches
    · rename_i followed
      cases reaches
      exact .stopped accepted followed
    · rename_i followed
      cases reaches
      exact .succeeded accepted followed rfl

theorem Reaches.eq {token : Token} {source : Except Fault (Source σ)}
    {execution? : Option Execution}
    (reaches : Reaches connection environment limit sql token world source execution? reached) :
    reachResults connection environment limit sql token world =
      some (source, execution?, reached) := by
  cases reaches with
  | rejected rejected => simp only [reachResults, rejected]
  | stopped accepted followed => simp only [reachResults, accepted, followed]
  | succeeded accepted followed selected =>
      simp only [reachResults, accepted, followed, selected]

@[simp] theorem ready_state (cursor : Cursor σ) (world : World σ) (launch : Launch) :
    (cursor.ready world launch).1.state = cursor.state := by
  cases launch with
  | own => exact renewToken_state cursor world
  | given token => rfl

theorem ready_eq (cursor : Cursor σ) (world : World σ) (launch : Launch) :
    ∃ token, (cursor.ready world launch).1 = { cursor with token } := by
  cases launch with
  | own =>
      simp only [ready, renewToken]
      split
      · exact ⟨_, rfl⟩
      · exact ⟨cursor.token, rfl⟩
  | given token => exact ⟨cursor.token, rfl⟩

theorem ready_sent (cursor : Cursor σ) (world : World σ) (launch : Launch) :
    (cursor.ready world launch).2.sent = world.sent := by
  cases launch with
  | own => exact renewToken_sent cursor world
  | given token => rfl

theorem tokenFor_world (cursor : Cursor σ) (world : World σ) (launch : Launch) :
    (cursor.tokenFor world launch).2 = (cursor.ready world launch).2 := by
  cases launch <;> rfl

theorem launch_eq_executeWith (cursor : Cursor σ) (world : World σ) (launch : Launch) :
    cursor.launch connection environment limit sql launch world =
      (cursor.ready world launch).1.executeWith connection environment limit sql
        (cursor.tokenFor world launch).1 (cursor.ready world launch).2 := by
  cases launch <;> rfl

theorem launches_of_launch {result : Except Fault Unit}
    (launched : cursor.launch connection environment limit sql launch world =
      some (result, after, reached)) :
    Launches connection environment limit sql launch cursor world result after reached := by
  rw [launch_eq_executeWith, executeWith, ready_state] at launched
  split at launched
  · rename_i closed
    cases launched
    exact .refused closed
  · rename_i unclosed
    split at launched
    · cases launched
    · rename_i settled settledWorld ran
      cases launched
      exact .succeeded unclosed ran
    · rename_i fault settled settledWorld ran
      cases launched
      exact .failed unclosed ran

/-! ## Tokens -/

/-- A cursor that comes of another one has the same token, unless that has been fired. A
new token has a number that no token had before. -/
structure Inherits (cursor : Cursor σ) (world : World σ) (after : Cursor σ)
    (reached : World σ) : Prop where
  leads : world.LeadsTo reached
  same : reached.isFired cursor.token = false → after.token = cursor.token
  minted : cursor.token.number < world.nextToken → after.token.number < reached.nextToken

namespace Inherits

theorem refl (cursor : Cursor σ) (world : World σ) : cursor.Inherits world cursor world :=
  ⟨.refl world, fun _ => rfl, fun minted => minted⟩

theorem of_same (leads : world.LeadsTo reached) (same : after.token = cursor.token) :
    cursor.Inherits world after reached :=
  ⟨leads, fun _ => same, fun minted => same ▸ Nat.lt_of_lt_of_le minted leads.nextToken⟩

theorem trans (left : cursor.Inherits world next middle)
    (right : next.Inherits middle after reached) : cursor.Inherits world after reached where
  leads := left.leads.trans right.leads
  same unfired := by
    have kept := left.same (right.leads.unfired unfired)
    exact (right.same (kept ▸ unfired)).trans kept
  minted earlier := right.minted (left.minted earlier)

end Inherits

theorem renewToken_inherits (cursor : Cursor σ) (world : World σ) :
    cursor.Inherits world (cursor.renewToken world).1 (cursor.renewToken world).2 := by
  unfold renewToken
  split
  · rename_i fired
    refine ⟨world.mint_leadsTo, fun unfired => ?_, fun _ => Nat.lt_succ_self _⟩
    exact absurd (world.mint_leadsTo.isFired fired) (by simp [unfired])
  · exact .of_same (.refl world) rfl

theorem ready_inherits (cursor : Cursor σ) (world : World σ) (launch : Launch) :
    cursor.Inherits world (cursor.ready world launch).1 (cursor.ready world launch).2 := by
  cases launch with
  | own => exact renewToken_inherits cursor world
  | given token => exact .of_same (.refl world) rfl

private theorem recordUpdateCount_token (page : Page) (cursor : Cursor σ) :
    (cursor.recordUpdateCount page).token = cursor.token := by
  unfold recordUpdateCount
  cases page.updateCount <;> rfl

private theorem openResults_token {source : Source σ} {result : Except Fault Unit}
    (opened : openResults environment source cursor world = (result, after, reached)) :
    after.token = cursor.token := by
  unfold openResults at opened
  split at opened
  · cases opened
    rfl
  · cases opened
    rfl
  · cases opened
    exact recordUpdateCount_token ..

private theorem run_token {token : Token} {result : Except Fault Unit}
    (ran : run connection environment limit sql token cursor world =
      some (result, after, reached)) : after.token = cursor.token := by
  unfold run at ran
  split at ran
  · cases ran
  · cases ran
    rfl
  · have same := openResults_token (Option.some.inj ran)
    exact same

theorem run_inherits {token : Token} {result : Except Fault Unit}
    (ran : run connection environment limit sql token cursor world =
      some (result, after, reached)) : cursor.Inherits world after reached :=
  .of_same (run_keeps ran).1.leads (run_token ran)

/-- What else there is in a cursor does not matter for its token. -/
theorem Inherits.change (inherits : cursor.Inherits world next middle)
    (same : after.token = next.token) : cursor.Inherits world after middle :=
  inherits.trans (.of_same (.refl middle) same)

theorem launch_inherits {result : Except Fault Unit}
    (launched : cursor.launch connection environment limit sql launch world =
      some (result, after, reached)) : cursor.Inherits world after reached := by
  have begins : cursor.Inherits world
      { (cursor.ready world launch).1.reset with state := .executing }
      (cursor.ready world launch).2 :=
    (ready_inherits cursor world launch).change rfl
  cases launches_of_launch launched with
  | refused closed => exact ready_inherits cursor world launch
  | succeeded unclosed ran => exact (begins.trans (run_inherits ran)).change rfl
  | @failed fault settled settledWorld unclosed ran =>
      have fails : cursor.Inherits world { settled with state := .failed } settledWorld :=
        (begins.trans (run_inherits ran)).change rfl
      exact fails.trans (renewToken_inherits _ _)

/-! ## Operations -/

theorem cancel_leadsTo (environment : Environment σ) (cursor : Cursor σ) (world : World σ) :
    world.LeadsTo (cursor.cancel environment world).2 := by
  unfold cancel
  cases cursor.queryId with
  | none => exact .refl world
  | some queryId => exact Poller.requestCancel_leadsTo environment queryId world

theorem setFetchSize_of_perform {size : UInt64} {answer : Delivery}
    (performed : cursor.perform connection environment limit (.setFetchSize size) world =
      some (answer, after, reached)) :
    ∃ fetchSize, after = { cursor with fetchSize } ∧ reached = world := by
  simp only [perform, Option.some.injEq, Prod.mk.injEq] at performed
  rcases performed with ⟨-, rfl, rfl⟩
  unfold setFetchSize
  split
  · exact ⟨cursor.fetchSize, rfl, rfl⟩
  · exact ⟨size, rfl, rfl⟩

theorem launch_of_perform {answer : Delivery}
    (performed : cursor.perform connection environment limit (.launch sql launch) world =
      some (answer, after, reached)) :
    ∃ result, cursor.launch connection environment limit sql launch world =
      some (result, after, reached) ∧ answer = result.map fun _ => [] := by
  simp only [perform, Option.map_eq_some_iff] at performed
  rcases performed with ⟨⟨result, opened, middle⟩, launched, same⟩
  cases same
  exact ⟨result, launched, rfl⟩

theorem perform_inherits {operation : Operation} {answer : Delivery}
    (performed : cursor.perform connection environment limit operation world =
      some (answer, after, reached)) : cursor.Inherits world after reached := by
  cases operation with
  | launch sql launch =>
      rcases launch_of_perform performed with ⟨result, launched, -⟩
      exact launch_inherits launched
  | fetch fetch =>
      have preserves := fetch_preserves performed
      exact .of_same preserves.leads preserves.token
  | cancel =>
      cases performed
      exact .of_same (cancel_leadsTo environment cursor world) rfl
  | close =>
      cases performed
      exact .of_same (.refl world) rfl
  | setFetchSize size =>
      rcases setFetchSize_of_perform performed with ⟨fetchSize, rfl, rfl⟩
      exact .of_same (.refl _) rfl

theorem History.inherits {operations : List Operation}
    (history : History connection environment cursor world operations last final) :
    cursor.Inherits world last final := by
  induction history with
  | nil => exact .refl _ _
  | meanwhile leads rest induction => exact (Inherits.of_same leads rfl).trans induction
  | performed limit answered rest induction => exact (perform_inherits answered).trans induction
  | @abandonedLaunch sql launch execution cursor last world later final operations unclosed leads
      rest induction =>
      have begins : cursor.Inherits world
          { (cursor.ready world launch).1.reset with state := .executing, execution } later :=
        (ready_inherits cursor world launch).trans (.of_same leads rfl)
      exact begins.trans induction
  | @abandonedFetch fetch execution pager buffer columns cursor last world later final operations
      consumable unexhausted leads rest induction =>
      have begins : cursor.Inherits world { cursor with execution, pager, buffer, columns } later :=
        .of_same leads rfl
      exact begins.trans induction

end Cursor

end RemoteQuery
