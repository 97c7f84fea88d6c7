import RemoteQuery.Proofs.Cursor.Budget
import RemoteQuery.Proofs.Cursor.Delivery

/-! # What one fetch leads to

`Finds` lists everything that a request for the next row can lead to, and `Gathers`
everything that a fetch can: rows found one after the other, until no more are wanted, none
is left, or one cannot be found. What a fetch does to a cursor is proved along these lists.
-/

namespace RemoteQuery

variable {σ : Type}

theorem Pager.exhausted_of_next {environment : Environment σ} {pager after : Pager σ}
    {world reached : World σ}
    (nothing : pager.next environment world = (.ok none, after, reached)) :
    pager.exhausted = true := by
  unfold next at nothing
  split at nothing
  · rename_i exhausted
    exact exhausted
  · split at nothing <;> cases nothing

theorem Source.exists_uses (source : Source σ) :
    ∃ policy subject token, source.Uses policy subject token := by
  cases source with
  | direct source => exact ⟨source.retry, source.subject, source.token, rfl, rfl, rfl⟩
  | bulk source => exact ⟨source.retry, source.subject, source.token, rfl, rfl, rfl⟩

theorem Pager.next_leadsTo (environment : Environment σ) (pager : Pager σ) (world : World σ) :
    world.LeadsTo (pager.next environment world).2.2 := by
  rcases pager.source.exists_uses with ⟨policy, subject, token, uses⟩
  exact (Pager.next_keeps environment uses world).1.leads

namespace Cursor

section

variable (connection : Connection) (environment : Environment σ)

inductive Loads (cursor : Cursor σ) (world : World σ) :
    Except Fault Bool → Cursor σ → World σ → Prop
  | withoutPager (missing : cursor.pager = none) : Loads cursor world (.ok false) cursor world
  | behindLast {pager : Pager σ} (atPager : cursor.pager = some pager)
      (exhausted : pager.exhausted = true) : Loads cursor world (.ok false) cursor world
  | page {pager next : Pager σ} {page : Page} {reached : World σ}
      (atPager : cursor.pager = some pager)
      (stepped : pager.next environment world = (.ok (some page), next, reached)) :
      Loads cursor world (.ok true) (cursor.takePage page next) reached
  | failed {pager next : Pager σ} {fault : Fault} {reached : World σ}
      (atPager : cursor.pager = some pager)
      (stepped : pager.next environment world = (.error fault, next, reached)) :
      Loads cursor world (.error fault)
        { cursor with pager := some next, state := .failed } reached

inductive Finds : Cursor σ → World σ → Except Fault (Option Row) → Cursor σ → World σ → Prop
  | row {cursor : Cursor σ} {world : World σ} {raw : RawRow} {rest : List RawRow} {values : Row}
      (buffered : cursor.buffer = raw :: rest)
      (cast : Column.castRow connection.sentinels cursor.columns raw = .ok values) :
      Finds cursor world (.ok (some values)) { cursor with buffer := rest } world
  | badRow {cursor : Cursor σ} {world : World σ} {raw : RawRow} {rest : List RawRow}
      {fault : Fault} (buffered : cursor.buffer = raw :: rest)
      (cast : Column.castRow connection.sentinels cursor.columns raw = .error fault) :
      Finds cursor world (.error fault) { cursor with buffer := rest, state := .failed } world
  | nothing {cursor after : Cursor σ} {world reached : World σ} (empty : cursor.buffer = [])
      (loads : Loads environment cursor world (.ok false) after reached) :
      Finds cursor world (.ok none) after reached
  | badPage {cursor after : Cursor σ} {world reached : World σ} {fault : Fault}
      (empty : cursor.buffer = [])
      (loads : Loads environment cursor world (.error fault) after reached) :
      Finds cursor world (.error fault) after reached
  | page {cursor next after : Cursor σ} {world middle reached : World σ}
      {answer : Except Fault (Option Row)} (empty : cursor.buffer = [])
      (loads : Loads environment cursor world (.ok true) next middle)
      (rest : Finds next middle answer after reached) :
      Finds cursor world answer after reached

inductive Gathers :
    (wants : Nat → Prop) → Cursor σ → World σ → Delivery → Cursor σ → World σ → Prop
  | enough {wants : Nat → Prop} {cursor : Cursor σ} {world : World σ} (unasked : ¬wants 0) :
      Gathers wants cursor world (.ok []) cursor world
  | ended {wants : Nat → Prop} {cursor after : Cursor σ} {world reached : World σ}
      (asked : wants 0)
      (finds : Finds connection environment cursor world (.ok none) after reached) :
      Gathers wants cursor world (.ok []) after reached
  | failed {wants : Nat → Prop} {cursor after : Cursor σ} {world reached : World σ}
      {fault : Fault} (asked : wants 0)
      (finds : Finds connection environment cursor world (.error fault) after reached) :
      Gathers wants cursor world (.error fault) after reached
  | row {wants : Nat → Prop} {cursor next after : Cursor σ} {world middle reached : World σ}
      {row : Row} {answer : Delivery} (asked : wants 0)
      (finds : Finds connection environment cursor world (.ok (some row)) next middle)
      (rest : Gathers (fun before => wants (before + 1)) next middle answer after reached) :
      Gathers wants cursor world (answer.map (row :: ·)) after reached

end

variable {connection : Connection} {environment : Environment σ} {limit : Nat}
  {cursor next after : Cursor σ} {world middle reached : World σ}

/-! ## Pages -/

theorem loads_loadPage (environment : Environment σ) (cursor : Cursor σ) (world : World σ) :
    Loads environment cursor world (cursor.loadPage environment world).1
      (cursor.loadPage environment world).2.1 (cursor.loadPage environment world).2.2 := by
  unfold loadPage
  split
  · rename_i missing
    exact .withoutPager missing
  · rename_i pager atPager
    split
    · rename_i page next reached stepped
      exact .page atPager stepped
    · rename_i next reached stepped
      rcases Pager.next_eq_none stepped with ⟨rfl, rfl⟩
      have same : { cursor with pager := some next } = cursor := by rw [← atPager]
      rw [same]
      exact .behindLast atPager (Pager.exhausted_of_next stepped)
    · rename_i fault next reached stepped
      exact .failed atPager stepped

theorem loads_of_loadPage {answer : Except Fault Bool}
    (loaded : cursor.loadPage environment world = (answer, next, middle)) :
    Loads environment cursor world answer next middle := by
  have loads := loads_loadPage environment cursor world
  rwa [loaded] at loads

/-! ## Rows -/

private theorem finds_castRow {raw : RawRow} {rest : List RawRow}
    (buffered : cursor.buffer = raw :: rest) :
    Finds connection environment cursor world
      ((({ cursor with buffer := rest }.castRow connection raw).1).map some)
      ({ cursor with buffer := rest }.castRow connection raw).2 world := by
  unfold castRow
  split
  · rename_i values cast
    exact .row buffered cast
  · rename_i fault cast
    exact .badRow buffered cast

theorem finds_of_nextRow {answer : Except Fault (Option Row)}
    (found : cursor.nextRow connection environment limit world =
      some (answer, after, reached)) :
    Finds connection environment cursor world answer after reached := by
  induction limit generalizing cursor world with
  | zero =>
      cases buffered : cursor.buffer with
      | nil => simp [nextRow.eq_def, buffered] at found
      | cons raw rest =>
          rw [nextRow_of_buffered buffered] at found
          cases found
          exact finds_castRow buffered
  | succ limit induction =>
      cases buffered : cursor.buffer with
      | nil =>
          rw [nextRow_of_empty buffered] at found
          rcases loaded : cursor.loadPage environment world with ⟨more, next, middle⟩
          have loads := loads_of_loadPage loaded
          rw [loaded] at found
          rcases more with fault | _ | _
          · cases found
            exact .badPage buffered loads
          · cases found
            exact .nothing buffered loads
          · exact .page buffered loads (induction found)
      | cons raw rest =>
          rw [nextRow_of_buffered buffered] at found
          cases found
          exact finds_castRow buffered

/-- The state of a cursor behind a fetch, by its answer. -/
def settled {α : Type} : Except Fault α → CursorState
  | .ok _ => .consumable
  | .error _ => .failed

structure Exhausted (cursor : Cursor σ) : Prop where
  consumable : cursor.state = .consumable
  empty : cursor.buffer = []
  pager : ∀ pager ∈ cursor.pager, pager.exhausted = true

theorem Finds.state {answer : Except Fault (Option Row)}
    (finds : Finds connection environment cursor world answer after reached)
    (consumable : cursor.state = .consumable) : after.state = settled answer := by
  induction finds with
  | row buffered cast => exact consumable
  | badRow buffered cast => rfl
  | nothing empty loads => cases loads <;> exact consumable
  | badPage empty loads =>
      cases loads with
      | failed atPager stepped => rfl
  | page empty loads rest induction =>
      cases loads with
      | page atPager stepped => exact induction ((takePage_state ..).trans consumable)

theorem Finds.exhausted
    (finds : Finds connection environment cursor world (.ok none) after reached)
    (consumable : cursor.state = .consumable) : after.Exhausted := by
  generalize none : (Except.ok none : Except Fault (Option Row)) = answer at finds
  induction finds with
  | row buffered cast => cases none
  | badRow buffered cast => cases none
  | nothing empty loads =>
      cases loads with
      | withoutPager missing => exact ⟨consumable, empty, fun pager member => by simp_all⟩
      | behindLast atPager exhausted =>
          exact ⟨consumable, empty, fun pager member => by simp_all⟩
  | badPage empty loads => cases none
  | page empty loads rest induction =>
      cases loads with
      | page atPager stepped => exact induction ((takePage_state ..).trans consumable) none

/-! ## Fetches -/

theorem gathers_of_drawThen {wants : Nat → Prop} {answer : Delivery}
    {rest : Cursor σ → World σ → Option (Delivery × Cursor σ × World σ)} (asked : wants 0)
    (gathersRest : ∀ {next after : Cursor σ} {middle reached : World σ} {answer : Delivery},
      next.state = .consumable → rest next middle = some (answer, after, reached) →
        Gathers connection environment (fun before => wants (before + 1)) next middle answer
          after reached)
    (consumable : cursor.state = .consumable)
    (drawn : cursor.drawThen connection environment limit rest world =
      some (answer, after, reached)) :
    Gathers connection environment wants cursor world answer after reached := by
  unfold drawThen at drawn
  rcases found : cursor.nextRow connection environment limit world with
    _ | ⟨row?, next, middle⟩
  · simp [found] at drawn
  · have finds := finds_of_nextRow found
    rw [found] at drawn
    rcases row? with fault | _ | row
    · cases drawn
      exact .failed asked finds
    · cases drawn
      exact .ended asked finds
    · simp only [Option.map_eq_some_iff] at drawn
      rcases drawn with ⟨⟨rows, last, final⟩, later, same⟩
      cases same
      exact .row asked finds (gathersRest (finds.state consumable) later)

theorem gathers_of_fetchUpTo {size : Nat} {answer : Delivery}
    (consumable : cursor.state = .consumable)
    (fetched : cursor.fetchUpTo connection environment limit size world =
      some (answer, after, reached)) :
    Gathers connection environment (fun before => before < size) cursor world answer after
      reached := by
  induction size generalizing cursor world answer after reached with
  | zero =>
      cases fetched
      exact .enough (Nat.not_lt_zero 0)
  | succ size induction =>
      rw [fetchUpTo_succ consumable] at fetched
      refine gathers_of_drawThen (Nat.succ_pos size) (fun consumable later => ?_) consumable
        fetched
      simpa only [Nat.add_lt_add_iff_right] using induction consumable later

theorem gathers_of_fetchRest {bound : Nat} {answer : Delivery}
    (consumable : cursor.state = .consumable)
    (fetched : cursor.fetchRest connection environment limit bound world =
      some (answer, after, reached)) :
    Gathers connection environment (fun _ => True) cursor world answer after reached := by
  induction bound generalizing cursor world answer after reached with
  | zero => cases fetched
  | succ bound induction =>
      rw [fetchRest_succ consumable] at fetched
      exact gathers_of_drawThen trivial induction consumable fetched

theorem gathers_of_fetch {fetch : Fetch} {answer : Delivery}
    (consumable : cursor.state = .consumable)
    (fetched : cursor.fetch connection environment limit fetch world =
      some (answer, after, reached)) :
    Gathers connection environment (fetch.Wants cursor.fetchSize) cursor world answer after
      reached := by
  have allowed := (misuse?_eq_none_iff cursor.state).mpr consumable
  cases fetch with
  | one =>
      rw [fetch_one consumable] at fetched
      refine gathers_of_drawThen Nat.one_pos (fun _ nothing => ?_) consumable fetched
      cases nothing
      exact .enough (Nat.lt_irrefl 1)
  | many size =>
      simp only [fetch, fetchMany, allowed] at fetched
      exact gathers_of_fetchUpTo consumable fetched
  | all =>
      simp only [fetch, fetchAll, allowed] at fetched
      exact gathers_of_fetchRest consumable fetched

theorem fetch_cases {fetch : Fetch} {answer : Delivery}
    (fetched : cursor.fetch connection environment limit fetch world =
      some (answer, after, reached)) :
    (∃ misuse, misuse? cursor.state = some misuse ∧ answer = .error misuse.fault ∧
      after = cursor ∧ reached = world) ∨
      cursor.state = .consumable ∧
        Gathers connection environment (fetch.Wants cursor.fetchSize) cursor world answer after
          reached := by
  cases refused : misuse? cursor.state with
  | some misuse =>
      rw [fetch_of_misuse refused] at fetched
      cases fetched
      exact .inl ⟨misuse, rfl, rfl, rfl, rfl⟩
  | none =>
      have consumable := (misuse?_eq_none_iff cursor.state).mp refused
      exact .inr ⟨consumable, gathers_of_fetch consumable fetched⟩

theorem Gathers.state {wants : Nat → Prop} {answer : Delivery}
    (gathers : Gathers connection environment wants cursor world answer after reached)
    (consumable : cursor.state = .consumable) : after.state = settled answer := by
  induction gathers with
  | enough unasked => exact consumable
  | ended asked finds => exact finds.state consumable
  | failed asked finds => exact finds.state consumable
  | @row wants cursor next after world middle reached row answer asked finds rest induction =>
      rw [induction (finds.state consumable)]
      cases answer <;> rfl

theorem Gathers.exhausted {wants : Nat → Prop} {rows : List Row}
    (gathers : Gathers connection environment wants cursor world (.ok rows) after reached)
    (consumable : cursor.state = .consumable) (unmet : wants rows.length) :
    after.Exhausted := by
  generalize brought : (Except.ok rows : Delivery) = answer at gathers
  induction gathers generalizing rows with
  | enough unasked =>
      cases brought
      exact absurd unmet unasked
  | ended asked finds => exact finds.exhausted consumable
  | failed asked finds => cases brought
  | @row wants cursor next after world middle reached row answer asked finds rest induction =>
      cases answer with
      | error fault => cases brought
      | ok later =>
          cases brought
          exact induction (finds.state consumable) unmet rfl

/-! ## What no fetch changes -/

structure Preserves (cursor : Cursor σ) (world : World σ) (after : Cursor σ) (reached : World σ) :
    Prop where
  leads : world.LeadsTo reached
  token : after.token = cursor.token
  fetchSize : after.fetchSize = cursor.fetchSize

namespace Preserves

theorem refl (cursor : Cursor σ) (world : World σ) : cursor.Preserves world cursor world :=
  ⟨.refl world, rfl, rfl⟩

theorem trans (left : cursor.Preserves world next middle)
    (right : next.Preserves middle after reached) : cursor.Preserves world after reached :=
  ⟨left.leads.trans right.leads, right.token.trans left.token,
    right.fetchSize.trans left.fetchSize⟩

end Preserves

theorem takePage_token (page : Page) (pager : Pager σ) (cursor : Cursor σ) :
    (cursor.takePage page pager).token = cursor.token := by
  unfold takePage recordUpdateCount
  cases page.updateCount <;> rfl

theorem Loads.preserves {answer : Except Fault Bool}
    (loads : Loads environment cursor world answer after reached) :
    cursor.Preserves world after reached := by
  cases loads with
  | withoutPager missing => exact .refl _ _
  | behindLast atPager exhausted => exact .refl _ _
  | @page pager next page reached atPager stepped =>
      have leads := pager.next_leadsTo environment world
      rw [stepped] at leads
      exact ⟨leads, takePage_token .., takePage_fetchSize ..⟩
  | @failed pager next fault reached atPager stepped =>
      have leads := pager.next_leadsTo environment world
      rw [stepped] at leads
      exact ⟨leads, rfl, rfl⟩

theorem Finds.preserves {answer : Except Fault (Option Row)}
    (finds : Finds connection environment cursor world answer after reached) :
    cursor.Preserves world after reached := by
  induction finds with
  | row buffered cast => exact ⟨.refl _, rfl, rfl⟩
  | badRow buffered cast => exact ⟨.refl _, rfl, rfl⟩
  | nothing empty loads => exact loads.preserves
  | badPage empty loads => exact loads.preserves
  | page empty loads rest induction => exact loads.preserves.trans induction

theorem Gathers.preserves {wants : Nat → Prop} {answer : Delivery}
    (gathers : Gathers connection environment wants cursor world answer after reached) :
    cursor.Preserves world after reached := by
  induction gathers with
  | enough unasked => exact .refl _ _
  | ended asked finds => exact finds.preserves
  | failed asked finds => exact finds.preserves
  | row asked finds rest induction => exact finds.preserves.trans induction

theorem fetch_preserves {fetch : Fetch} {answer : Delivery}
    (fetched : cursor.fetch connection environment limit fetch world =
      some (answer, after, reached)) : cursor.Preserves world after reached := by
  rcases fetch_cases fetched with ⟨misuse, refused, rfl, rfl, rfl⟩ | ⟨consumable, gathers⟩
  · exact .refl _ _
  · exact gathers.preserves

/-! ## Behind the last row -/

namespace Exhausted

private theorem loadPage_eq (exhausted : cursor.Exhausted) (world : World σ) :
    cursor.loadPage environment world = (.ok false, cursor, world) := by
  unfold loadPage
  split
  · rfl
  · rename_i pager atPager
    simp only [Pager.next, exhausted.pager pager atPager, if_true]
    rw [← atPager]

private theorem nextRow_eq (exhausted : cursor.Exhausted) (world : World σ) :
    cursor.nextRow connection environment (limit + 1) world = some (.ok none, cursor, world) := by
  rw [nextRow_of_empty exhausted.empty, exhausted.loadPage_eq]

private theorem drawThen_eq (exhausted : cursor.Exhausted) (world : World σ)
    (rest : Cursor σ → World σ → Option (Delivery × Cursor σ × World σ)) :
    cursor.drawThen connection environment (limit + 1) rest world =
      some (.ok [], cursor, world) := by
  rw [drawThen, exhausted.nextRow_eq]

private theorem unable_to_step (exhausted : cursor.Exhausted) {pager next : Pager σ}
    {answer : Except Fault (Option Page)} (atPager : cursor.pager = some pager)
    (stepped : pager.next environment world = (answer, next, reached)) : answer = .ok none := by
  rw [Pager.next, if_pos (exhausted.pager pager atPager)] at stepped
  exact (Prod.mk.inj stepped).1.symm

theorem finds {answer : Except Fault (Option Row)} (exhausted : cursor.Exhausted)
    (found : Finds connection environment cursor world answer after reached) :
    answer = .ok none ∧ after = cursor := by
  cases found with
  | row buffered cast => simp [exhausted.empty] at buffered
  | badRow buffered cast => simp [exhausted.empty] at buffered
  | nothing empty loads => cases loads <;> exact ⟨rfl, rfl⟩
  | badPage empty loads =>
      cases loads with
      | failed atPager stepped => cases exhausted.unable_to_step atPager stepped
  | page empty loads rest =>
      cases loads with
      | page atPager stepped => cases exhausted.unable_to_step atPager stepped

theorem gathers {wants : Nat → Prop} {answer : Delivery} (exhausted : cursor.Exhausted)
    (gathered : Gathers connection environment wants cursor world answer after reached) :
    after = cursor := by
  cases gathered with
  | enough unasked => rfl
  | ended asked finds => exact (exhausted.finds finds).2
  | failed asked finds => cases (exhausted.finds finds).1
  | row asked finds rest => cases (exhausted.finds finds).1

theorem fetch_eq (exhausted : cursor.Exhausted) (fetch : Fetch) (world : World σ) :
    cursor.fetch connection environment (limit + 1) fetch world =
      some (.ok [], cursor, world) := by
  have allowed := (misuse?_eq_none_iff cursor.state).mpr exhausted.consumable
  cases fetch with
  | one => rw [fetch_one exhausted.consumable, exhausted.drawThen_eq]
  | many size =>
      simp only [Cursor.fetch, fetchMany, allowed]
      cases (size.getD cursor.fetchSize).toNat with
      | zero => rfl
      | succ size => rw [fetchUpTo_succ exhausted.consumable, exhausted.drawThen_eq]
  | all =>
      simp only [Cursor.fetch, fetchAll, allowed]
      rw [fetchRest_succ exhausted.consumable, exhausted.drawThen_eq]

end Exhausted

end Cursor

end RemoteQuery
