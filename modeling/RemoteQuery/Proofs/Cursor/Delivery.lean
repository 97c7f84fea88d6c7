import RemoteQuery.Proofs.Cursor.Feed
import RemoteQuery.Rehearsal

/-! # Rows are handed out once and in their order

Whatever a cursor is asked for, it hands out the feed of its source from the front, and
fails where the feed does.
-/

namespace RemoteQuery

variable {σ : Type}

/-! ## Cursors -/

theorem Pager.next_eq_none {environment : Environment σ} {pager after : Pager σ}
    {world reached : World σ}
    (nothing : pager.next environment world = (.ok none, after, reached)) :
    after = pager ∧ reached = world := by
  unfold next at nothing
  split at nothing
  · cases nothing
    exact ⟨rfl, rfl⟩
  · split at nothing <;> cases nothing

namespace Cursor

variable (connection : Connection) (environment : Environment σ) (limit : Nat)
  (fetchSize : UInt64)

/-- A feed is still to be handed out by a cursor, and its pages are less than `limit`. -/
structure Holds (feed : Feed) (cursor : Cursor σ) (world : World σ) : Prop where
  consumable : cursor.state = .consumable
  sameSize : cursor.fetchSize = fetchSize
  supply : ∃ pager pages, cursor.pager = some pager ∧
    (∃ within ≤ limit,
      pager.readAll environment within world = some (pages, feed.ending)) ∧
    feed.rows =
      cursor.buffer.map (Column.castRow connection.sentinels cursor.columns) ++
        castPages connection.sentinels cursor.columns pages

/-- What is left of a feed is still to be handed out. If nothing is left, the cursor has
failed. -/
def Leaves (left : Option Feed) (cursor : Cursor σ) (world : World σ) : Prop :=
  match left with
  | some feed => Holds connection environment limit fetchSize feed cursor world
  | none => cursor.state = .failed

variable {connection environment limit fetchSize}

theorem Leaves.mono {more : Nat} {left : Option Feed} {cursor : Cursor σ} {world : World σ}
    (leaves : Leaves connection environment limit fetchSize left cursor world)
    (within : limit ≤ more) :
    Leaves connection environment more fetchSize left cursor world := by
  cases left with
  | none => exact leaves
  | some feed =>
      rcases leaves with ⟨consumable, sameSize, pager, pages, atPager, ⟨few, fewer, read⟩, rows⟩
      exact ⟨consumable, sameSize, pager, pages, atPager, ⟨few, Nat.le_trans fewer within, read⟩,
        rows⟩

private theorem takePage_supply {sentinels : Sentinels} {page : Page} {later : List Page}
    {pager : Pager σ} {cursor : Cursor σ} (buffered : cursor.buffer = []) :
    castPages sentinels cursor.columns (page :: later) =
      (cursor.takePage page pager).buffer.map
          (Column.castRow sentinels (cursor.takePage page pager).columns) ++
        castPages sentinels (cursor.takePage page pager).columns later := by
  simp only [takePage, buffered, List.nil_append, castPages]

theorem nextRow_draws {feed : Feed} {cursor : Cursor σ} {world : World σ}
    (holds : Holds connection environment limit fetchSize feed cursor world) :
    ∃ answer after reached left,
      cursor.nextRow connection environment limit world = some (answer, after, reached) ∧
      feed.Draws answer left ∧
      Leaves connection environment limit fetchSize left after reached := by
  induction limit generalizing cursor world with
  | zero =>
      rcases holds with ⟨-, -, pager, pages, -, ⟨within, few, read⟩, -⟩
      cases Nat.le_zero.mp few
      cases read
  | succ limit induction =>
      rcases feed with ⟨rows, ending⟩
      rcases holds with
        ⟨consumable, sameSize, pager, pages, atPager, ⟨within, few, read⟩, supply⟩
      dsimp only at supply read
      cases buffered : cursor.buffer with
      | cons row rest =>
          rw [buffered, List.map_cons, List.cons_append] at supply
          subst supply
          cases cast : Column.castRow connection.sentinels cursor.columns row with
          | ok values =>
              refine ⟨_, { cursor with buffer := rest }, world, _, ?_, .row, ?_⟩
              · simp only [nextRow_of_buffered buffered, castRow, cast, Except.map]
              · exact ⟨consumable, sameSize, pager, pages, atPager, ⟨within, few, read⟩, rfl⟩
          | error fault =>
              refine ⟨_, { cursor with buffer := rest, state := .failed }, world, _, ?_,
                .badRow, rfl⟩
              simp only [nextRow_of_buffered buffered, castRow, cast, Except.map]
      | nil =>
          rw [buffered, List.map_nil, List.nil_append] at supply
          subst supply
          cases within with
          | zero => cases read
          | succ within =>
              have readTwice := read
              unfold Pager.readAll at read
              rcases stepped : pager.next environment world with ⟨answer, after, reached⟩
              rw [stepped] at read
              cases answer with
              | error fault =>
                  cases read
                  refine ⟨_, { cursor with pager := some after, state := .failed }, reached, _,
                    ?_, .broken, rfl⟩
                  simp only [nextRow_of_empty buffered, loadPage, atPager, stepped]
              | ok page? =>
                  cases page? with
                  | none =>
                      cases read
                      rcases Pager.next_eq_none stepped with ⟨rfl, rfl⟩
                      refine ⟨_, { cursor with pager := some after }, reached, _, ?_, .nothing,
                        ?_⟩
                      · simp only [nextRow_of_empty buffered, loadPage, atPager, stepped]
                      · exact ⟨consumable, sameSize, after, [], rfl, ⟨_, few, readTwice⟩,
                          by rw [buffered]; rfl⟩
                  | some page =>
                      simp only [Option.map_eq_some_iff] at read
                      rcases read with ⟨⟨later, ended⟩, readLater, same⟩
                      cases same
                      have taken : Holds connection environment limit fetchSize
                          ⟨castPages connection.sentinels cursor.columns (page :: later), ended⟩
                          (cursor.takePage page after) reached :=
                        ⟨by rw [takePage_state, consumable], by rw [takePage_fetchSize, sameSize],
                          after, later, rfl, ⟨within, Nat.le_of_succ_le_succ few, readLater⟩,
                          takePage_supply buffered⟩
                      rcases induction taken with
                        ⟨answer, last, settled, left, drawn, draws, leaves⟩
                      refine ⟨answer, last, settled, left, ?_, draws,
                        leaves.mono (Nat.le_succ limit)⟩
                      simp only [nextRow_of_empty buffered, loadPage, atPager, stepped]
                      exact drawn

/-! ## Fetches -/

/-- If what comes behind a row takes what is still wanted of the feed, then drawing that row
first takes all that is wanted. -/
private theorem drawThen_serves {wants : Nat → Prop} {feed : Feed} {cursor : Cursor σ}
    {world : World σ} {rest : Cursor σ → World σ → Option (Delivery × Cursor σ × World σ)}
    (holds : Holds connection environment limit fetchSize feed cursor world)
    (asked : wants 0)
    (goesOn : ∀ {next : Feed} {after : Cursor σ} {reached : World σ},
      next.rows.length < feed.rows.length →
      Holds connection environment limit fetchSize next after reached →
      ∃ answer last settled left,
        rest after reached = some (answer, last, settled) ∧
        next.Serves (fun before => wants (before + 1)) answer left ∧
        Leaves connection environment limit fetchSize left last settled) :
    ∃ answer after reached left,
      cursor.drawThen connection environment limit rest world =
        some (answer, after, reached) ∧
      feed.Serves wants answer left ∧
      Leaves connection environment limit fetchSize left after reached := by
  rcases nextRow_draws holds with ⟨drawn, after, reached, left, found, draws, leaves⟩
  rw [drawThen, found]
  cases drawn with
  | error fault => exact ⟨_, after, reached, left, rfl, draws.serves_error asked, leaves⟩
  | ok row? =>
      cases row? with
      | none => exact ⟨_, after, reached, left, rfl, draws.serves_none, leaves⟩
      | some row =>
          cases left with
          | none => cases draws
          | some next =>
              have fewer : next.rows.length < feed.rows.length := by
                cases draws with
                | row => exact Nat.lt_succ_self _
              rcases goesOn fewer leaves with
                ⟨answer, last, settled, left, ranRest, serves, leaves⟩
              simp only [ranRest, Option.map_some]
              exact ⟨_, last, settled, left, rfl, draws.serves_some asked serves, leaves⟩

private theorem fetchOne_serves {feed : Feed} {cursor : Cursor σ} {world : World σ}
    (holds : Holds connection environment limit fetchSize feed cursor world) :
    ∃ answer after reached left,
      cursor.fetch connection environment limit .one world = some (answer, after, reached) ∧
      feed.Serves (fun before => before < 1) answer left ∧
      Leaves connection environment limit fetchSize left after reached := by
  rw [fetch_one holds.consumable]
  refine drawThen_serves holds Nat.one_pos fun _ holdsNext => ?_
  exact ⟨_, _, _, _, rfl, Feed.serves_of_not_wants (Nat.lt_irrefl 1), holdsNext⟩

theorem fetchUpTo_serves {size : Nat} {feed : Feed} {cursor : Cursor σ} {world : World σ}
    (holds : Holds connection environment limit fetchSize feed cursor world) :
    ∃ answer after reached left,
      cursor.fetchUpTo connection environment limit size world =
        some (answer, after, reached) ∧
      feed.Serves (fun before => before < size) answer left ∧
      Leaves connection environment limit fetchSize left after reached := by
  induction size generalizing feed cursor world with
  | zero =>
      exact ⟨_, cursor, world, some feed, rfl,
        Feed.serves_of_not_wants (Nat.not_lt_zero 0), holds⟩
  | succ size induction =>
      rw [fetchUpTo_succ holds.consumable]
      refine drawThen_serves holds (Nat.succ_pos size) fun _ holdsNext => ?_
      simpa only [Nat.add_lt_add_iff_right] using induction holdsNext

theorem fetchRest_serves {bound : Nat} {feed : Feed} {cursor : Cursor σ} {world : World σ}
    (holds : Holds connection environment limit fetchSize feed cursor world)
    (room : feed.rows.length < bound) :
    ∃ answer after reached left,
      cursor.fetchRest connection environment limit bound world =
        some (answer, after, reached) ∧
      feed.Serves (fun _ => True) answer left ∧
      Leaves connection environment limit fetchSize left after reached := by
  induction bound generalizing feed cursor world with
  | zero => exact absurd room (Nat.not_lt_zero _)
  | succ bound induction =>
      rw [fetchRest_succ holds.consumable]
      refine drawThen_serves holds trivial fun fewer holdsNext => ?_
      exact induction holdsNext (Nat.lt_of_lt_of_le fewer (Nat.le_of_lt_succ room))

theorem fetch_serves {fetch : Fetch} {feed : Feed} {cursor : Cursor σ} {world : World σ}
    (holds : Holds connection environment limit fetchSize feed cursor world)
    (room : feed.rows.length < limit) :
    ∃ answer after reached left,
      cursor.fetch connection environment limit fetch world =
        some (answer, after, reached) ∧
      feed.Serves (fetch.Wants fetchSize) answer left ∧
      Leaves connection environment limit fetchSize left after reached := by
  have allowed : misuse? cursor.state = none := by
    rw [holds.consumable]
    rfl
  cases fetch with
  | one => exact fetchOne_serves holds
  | many size =>
      simp only [Cursor.fetch, fetchMany, allowed, holds.sameSize]
      exact fetchUpTo_serves holds
  | all =>
      simp only [Cursor.fetch, fetchAll, allowed]
      exact fetchRest_serves holds room

theorem fetchEach_runs {fetches : List Fetch} {feed : Feed} {cursor : Cursor σ}
    {world : World σ} (holds : Holds connection environment limit fetchSize feed cursor world)
    (room : feed.rows.length < limit) :
    ∃ deliveries reached,
      cursor.fetchEach connection environment limit fetches world =
        some (deliveries, reached) ∧
      feed.Runs fetchSize fetches (deliveries.map (·.1)) := by
  induction fetches generalizing feed cursor world with
  | nil => exact ⟨[], world, rfl, .done⟩
  | cons fetch rest induction =>
      rcases fetch_serves holds room with ⟨answer, after, reached, left, ran, serves, leaves⟩
      unfold fetchEach
      rw [ran]
      cases left with
      | none =>
          have refused : misuse? after.state = some .lastExecutionFailed := by
            rw [show after.state = .failed from leaves]
            rfl
          simp only [fetchEach_of_misuse refused]
          cases answer with
          | ok rows => cases serves
          | error fault =>
              refine ⟨_, reached, rfl, ?_⟩
              rw [List.map_cons, List.map_map]
              exact .failed serves
      | some next =>
          cases answer with
          | error fault => cases serves
          | ok rows =>
              have fewer : next.rows.length < limit := by
                cases serves with
                | rows asked whole =>
                    refine Nat.lt_of_le_of_lt ?_ room
                    simp
              rcases induction leaves fewer with ⟨deliveries, settled, ranLater, runs⟩
              simp only [ranLater]
              exact ⟨_, settled, rfl, .served serves runs⟩

/-! ## Sessions -/

private theorem recordUpdateCount_fetchSize (page : Page) (cursor : Cursor σ) :
    (cursor.recordUpdateCount page).fetchSize = cursor.fetchSize := by
  unfold recordUpdateCount
  cases page.updateCount <;> rfl

private theorem castPages_first (sentinels : Sentinels) (page : Page) (later : List Page) :
    castPages sentinels [] (page :: later) =
      page.rows.map (Column.castRow sentinels page.columns) ++
        castPages sentinels page.columns later := by
  rw [castPages]
  cases columns : page.columns <;> rfl

theorem openResults_holds {source : Source σ} {cursor after : Cursor σ}
    {world reached : World σ} {pages : List Page} {ending : Option Fault}
    (empty : cursor.buffer = [] ∧ cursor.columns = [])
    (opened : openResults environment source cursor world = (.ok (), after, reached))
    (read : Pager.readAll environment limit { source } world = some (pages, ending)) :
    Holds connection environment limit cursor.fetchSize
      (.ofPages connection.sentinels pages ending) { after with state := .consumable }
      reached := by
  have readTwice := read
  unfold openResults at opened
  cases limit with
  | zero => cases read
  | succ limit =>
      unfold Pager.readAll at read
      rcases stepped : Pager.next environment { source } world with ⟨answer, pager, settled⟩
      rw [stepped] at read opened
      cases answer with
      | error fault => cases opened
      | ok page? =>
          cases page? with
          | none =>
              cases opened
              cases read
              rcases Pager.next_eq_none stepped with ⟨rfl, rfl⟩
              refine ⟨rfl, rfl, _, [], rfl, ⟨_, Nat.le_refl _, readTwice⟩, ?_⟩
              simp only [empty.1, List.map_nil, List.nil_append, Feed.ofPages, castPages]
          | some page =>
              cases opened
              simp only [Option.map_eq_some_iff] at read
              rcases read with ⟨⟨later, ended⟩, readLater, same⟩
              cases same
              exact ⟨rfl, recordUpdateCount_fetchSize page cursor, pager, later, rfl,
                ⟨limit, Nat.le_succ limit, readLater⟩,
                castPages_first connection.sentinels page later⟩

private theorem openResults_of_launch {limit : Nat} {sql : String} {launch : Launch}
    {cursor opened : Cursor σ} {world reached : World σ}
    (launched : cursor.launch connection environment limit sql launch world =
      some (.ok (), opened, reached)) :
    ∃ source execution sourced, ∃ fresh after : Cursor σ,
      reachResults connection environment limit sql (cursor.tokenFor world launch).1
        (cursor.tokenFor world launch).2 = some (.ok source, execution, sourced) ∧
      (fresh.buffer = [] ∧ fresh.columns = []) ∧
      openResults environment source fresh sourced = (.ok (), after, reached) ∧
      opened = { after with state := .consumable } := by
  rcases cursor.launch_eq connection environment limit sql launch world with
    ⟨ready, -, -, same⟩
  rw [same] at launched
  unfold executeWith at launched
  split at launched
  · cases launched
  · split at launched
    · cases launched
    · rename_i after settled ran
      cases launched
      unfold run at ran
      split at ran
      · cases ran
      · cases ran
      · rename_i source execution sourced found
        exact ⟨source, execution, sourced, _, after, found, ⟨rfl, rfl⟩,
          Option.some.inj ran, rfl⟩
    · cases launched

/-- A query that has been executed has a source of results. If the pages of that source
come to an end, then whatever is fetched brings their rows once and in order, and fails
exactly where a row that is asked for cannot be cast or a page cannot be read. -/
theorem fetchEach_delivered (connection : Connection) (environment : Environment σ)
    (limit : Nat) (sql : String) (launch : Launch) (cursor : Cursor σ) (world : World σ)
    {opened : Cursor σ} {reached : World σ}
    (launched : cursor.launch connection environment limit sql launch world =
      some (.ok (), opened, reached)) :
    ∃ source execution sourced,
      reachResults connection environment limit sql (cursor.tokenFor world launch).1
        (cursor.tokenFor world launch).2 = some (.ok source, execution, sourced) ∧
      ∀ pageLimit pages ending,
        Pager.readAll environment pageLimit { source } sourced = some (pages, ending) →
        ∃ enough, ∀ limit ≥ enough, ∀ fetches, ∃ deliveries last,
          opened.fetchEach connection environment limit fetches reached =
            some (deliveries, last) ∧
          (Feed.ofPages connection.sentinels pages ending).Delivered opened.fetchSize fetches
            (deliveries.map (·.1)) := by
  rcases openResults_of_launch launched with
    ⟨source, execution, sourced, fresh, after, found, empty, opens, rfl⟩
  refine ⟨source, execution, sourced, found, fun pageLimit pages ending read => ?_⟩
  have holds : Leaves connection environment pageLimit fresh.fetchSize
      (some (.ofPages connection.sentinels pages ending)) { after with state := .consumable }
      reached :=
    openResults_holds empty opens read
  refine ⟨max pageLimit ((castPages connection.sentinels [] pages).length + 1),
    fun limit enough fetches => ?_⟩
  have holdsHere : Holds connection environment limit fresh.fetchSize
      (.ofPages connection.sentinels pages ending) { after with state := .consumable }
      reached :=
    holds.mono (Nat.le_trans (Nat.le_max_left _ _) enough)
  rcases fetchEach_runs holdsHere (Nat.le_trans (Nat.le_max_right _ _) enough) with
    ⟨deliveries, last, ran, runs⟩
  refine ⟨deliveries, last, ran, ?_⟩
  rw [show ({ after with state := .consumable } : Cursor σ).fetchSize = fresh.fetchSize
    from holdsHere.sameSize]
  exact runs.delivered

/-! ### A session with an empty page and a bad row -/

/-- The results of a query on three pages. Only the first page names the column, the second
one has no rows, and the last row of the third one has a cell too many. -/
def threePages : List (Option String × ResultPart) :=
  [(none, { columns := [{ name := "c", wireType := "varchar" }]
            rows := [[some "a"], [some "b"]]
            nextToken := some "2" }),
    (some "2", { columns := [], rows := [], nextToken := some "3" }),
    (some "3", { columns := [], rows := [[some "c"], [some "d", some "e"]]
                 nextToken := none })]

def resultPages : List Page :=
  threePages.map fun page =>
    { columns := Column.normalize [{ name := "c", wireType := "varchar" }]
      rows := page.2.rows
      nextToken := page.2.nextToken }

def succeedsAtOnce : World Rehearsal.Script :=
  { outside :=
      { submissions := [{ outcome := .ok "q1" }]
        statuses := [{ outcome := .ok { state := .succeeded } }]
        pages := threePages }
    nextToken := 1 }

theorem fetchEach_delivered_threePages :
    ∃ opened reached,
      launch { config := {}, sentinels := {} } (Rehearsal.environment false default) 1
        "SELECT c FROM t" .own { token := ⟨0⟩, fetchSize := 1000 } succeedsAtOnce =
          some (.ok (), opened, reached) ∧
      ∃ enough, ∀ limit ≥ enough, ∀ fetches, ∃ deliveries last,
        opened.fetchEach { config := {}, sentinels := {} }
          (Rehearsal.environment false default) limit fetches reached =
            some (deliveries, last) ∧
        (Feed.ofPages {} resultPages none).Delivered opened.fetchSize fetches
          (deliveries.map (·.1)) := by
  have launched : launch { config := {}, sentinels := {} }
      (Rehearsal.environment false default) 1 "SELECT c FROM t" .own
      { token := ⟨0⟩, fetchSize := 1000 } succeedsAtOnce = some (.ok (), _, _) := rfl
  refine ⟨_, _, launched, ?_⟩
  have delivered := fetchEach_delivered { config := {}, sentinels := {} }
    (Rehearsal.environment false default) 1 "SELECT c FROM t" .own
    { token := ⟨0⟩, fetchSize := 1000 } succeedsAtOnce launched
  -- Cases on terms with `launched` in reach would compute the whole session.
  clear launched
  rcases delivered with ⟨source, execution, sourced, found, delivers⟩
  have reachable : reachResults { config := {}, sentinels := {} }
      (Rehearsal.environment false default) 1 "SELECT c FROM t" ⟨0⟩ succeedsAtOnce =
        some (.ok _, _, _) := rfl
  have same := reachable.symm.trans found
  simp only [Option.some.injEq, Prod.mk.injEq, Except.ok.injEq] at same
  rcases same with ⟨rfl, rfl, rfl⟩
  exact delivers 4 _ _ rfl

end Cursor

end RemoteQuery
