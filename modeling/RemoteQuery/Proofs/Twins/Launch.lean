import RemoteQuery.Proofs.Twins.Cursor

/-! # Launches start afresh

Nothing that was before a launch can be told from what comes behind it, however the query
ends: a cursor that has been used answers, calls and fails like any other one.
-/

namespace RemoteQuery

open Calendar (Duration Instant)

variable {σ τ : Type}

/-- No token has been fired that is still to be made. -/
def World.Minted (world : World σ) : Prop :=
  ∀ token ∈ world.fired, token.number < world.nextToken

instance (world : World σ) : Decidable world.Minted :=
  inferInstanceAs (Decidable (∀ token ∈ world.fired, token.number < world.nextToken))

inductive Launch.Alike (world : World σ) (worldTwin : World τ) : Launch → Launch → Prop
  | own : Alike world worldTwin .own .own
  | given {token tokenTwin : Token}
      (fired : worldTwin.isFired tokenTwin = world.isFired token) :
      Alike world worldTwin (.given token) (.given tokenTwin)

/-- The tokens for which two queries are run stand for each other. If they are the cursors'
own, so do the tokens that are made from then on. -/
inductive Counterparts (launch : Launch) (begun : Token × World σ) (begunTwin : Token × World τ) :
    Token → Token → Prop
  | launched : Counterparts launch begun begunTwin begun.1 begunTwin.1
  | made (isOwn : launch = .own) (ahead : Nat) :
      Counterparts launch begun begunTwin ⟨begun.2.nextToken + ahead⟩
        ⟨begunTwin.2.nextToken + ahead⟩

def Twins.ofLaunches (same : σ → τ → Prop) (cursor : Cursor σ) (world : World σ)
    (launch : Launch) (cursorTwin : Cursor τ) (worldTwin : World τ) (launchTwin : Launch) :
    Twins σ τ where
  start := world
  startTwin := worldTwin
  outside := same
  token := Counterparts launch (cursor.tokenFor world launch)
    (cursorTwin.tokenFor worldTwin launchTwin)
  making := launch = .own

namespace Cursor

/-! ## What is told behind each operation -/

structure Told where
  answer : Delivery
  view : View
  /-- The cursor's token has been fired. -/
  fired : Bool

/-- The same is told but for times that the calendar has shown. What has become of the
cursors' tokens matters only where these stand for each other. -/
structure Told.Alike (calendar : Duration → Instant) (paired : Prop) (told toldTwin : Told) :
    Prop where
  answer : toldTwin.answer = told.answer
  view : told.view.Alike calendar toldTwin.view
  fired : paired → toldTwin.fired = told.fired

def performEach (connection : Connection) (environment : Environment σ) (limit : Nat) :
    List Operation → Cursor σ → World σ → Option (List Told × World σ)
  | [], _, world => some ([], world)
  | operation :: rest, cursor, world =>
      match cursor.perform connection environment limit operation world with
      | none => none
      | some (answer, cursor, world) =>
          match performEach connection environment limit rest cursor world with
          | none => none
          | some (later, last) =>
              some ({ answer
                      view := cursor.view connection
                      fired := world.isFired cursor.token } :: later, last)

end Cursor

namespace Twins

variable {twins : Twins σ τ} {environment : Environment σ} {environmentTwin : Environment τ}
  {world : World σ} {worldTwin : World τ} {cursor : Cursor σ} {cursorTwin : Cursor τ}
  {calendar : Duration → Instant}

structure Tells (twins : Twins σ τ) (calendar : Duration → Instant)
    (made : List Cursor.Told × World σ) (madeTwin : List Cursor.Told × World τ) : Prop where
  told : List.Forall₂ (Cursor.Told.Alike calendar twins.making) made.1 madeTwin.1
  world : twins.Worlds made.2 madeTwin.2

private theorem view_alike (cursors : twins.Cursors calendar cursor cursorTwin)
    (connection : Connection) :
    (cursor.view connection).Alike calendar (cursorTwin.view connection) := by
  rcases cursor with ⟨state, record, pager, buffer, columns, token, fetchSize⟩
  rcases cursorTwin with ⟨stateTwin, recordTwin, pagerTwin, bufferTwin, columnsTwin, tokenTwin,
    fetchSizeTwin⟩
  rcases cursors with ⟨same, records, -, -, sameColumns, -, sameSize⟩
  dsimp only at same records sameColumns sameSize
  subst same sameColumns sameSize
  cases records with
  | none => exact .of .none
  | some alike =>
      rcases alike with ⟨submitted, completed⟩
      unfold Cursor.view Cursor.rowCount Cursor.scannedBytes Cursor.executionMillis Cursor.counted
      cases connection.config.reportCounters with
      | false => exact .of (.some (.of submitted completed))
      | true => exact .of (.some (.of submitted completed))

private theorem performEach_step (connection : Connection) (limit : Nat)
    {operation operationTwin : Operation} (rest : List Operation)
    (agree : twins.Agree calendar (cursor.perform connection environment limit operation world)
      (cursorTwin.perform connection environmentTwin limit operationTwin worldTwin))
    (goes : ∀ {next : Cursor σ} {nextTwin : Cursor τ} {reached : World σ}
      {reachedTwin : World τ}, twins.Cursors calendar next nextTwin →
        twins.Worlds reached reachedTwin →
        Option.Rel (twins.Tells calendar)
          (next.performEach connection environment limit rest reached)
          (nextTwin.performEach connection environmentTwin limit rest reachedTwin)) :
    Option.Rel (twins.Tells calendar)
      (cursor.performEach connection environment limit (operation :: rest) world)
      (cursorTwin.performEach connection environmentTwin limit (operationTwin :: rest)
        worldTwin) := by
  unfold Cursor.performEach
  rcases agree.cases with
    ⟨endless, endlessTwin⟩ |
    ⟨answer, next, reached, nextTwin, reachedTwin, performed, performedTwin, cursors, worlds⟩
  · rw [endless, endlessTwin]
    exact .none
  · rw [performed, performedTwin]
    have later := goes cursors worlds
    dsimp only
    generalize next.performEach connection environment limit rest reached = made? at later ⊢
    generalize nextTwin.performEach connection environmentTwin limit rest reachedTwin =
      madeTwin? at later ⊢
    cases later with
    | none => exact .none
    | some tells =>
        have first : Cursor.Told.Alike calendar twins.making
            ⟨answer, next.view connection, reached.isFired next.token⟩
            ⟨answer, nextTwin.view connection, reachedTwin.isFired nextTwin.token⟩ :=
          ⟨rfl, view_alike cursors connection,
            fun making => worlds.isFired_eq (cursors.handles making)⟩
        exact .some ⟨.cons first tells.told, tells.world⟩

theorem performEach_twin (behave : twins.Environments environment environmentTwin)
    (connection : Connection) (limit : Nat) {operations : List Operation}
    (within : ∀ operation ∈ operations, operation.isLaunch = false)
    (cursors : twins.Cursors calendar cursor cursorTwin)
    (worlds : twins.Worlds world worldTwin) :
    Option.Rel (twins.Tells calendar)
      (cursor.performEach connection environment limit operations world)
      (cursorTwin.performEach connection environmentTwin limit operations worldTwin) := by
  induction operations generalizing cursor cursorTwin world worldTwin with
  | nil => exact .some ⟨.nil, worlds⟩
  | cons operation rest induction =>
      rcases List.forall_mem_cons.mp within with ⟨here, later⟩
      exact performEach_step connection limit rest
        (perform_twin behave connection limit here cursors worlds) (induction later)

/-! ## Launches -/

private theorem unfired_of_minted (minted : world.Minted) (ahead : Nat) :
    world.isFired ⟨world.nextToken + ahead⟩ = false := by
  refine Bool.eq_false_iff.mpr fun fired => ?_
  have below := minted ⟨world.nextToken + ahead⟩ (by simpa [World.isFired] using fired)
  exact Nat.not_lt.mpr (Nat.le_add_right world.nextToken ahead) below

private theorem renewToken_unfired (minted : world.Minted) (cursor : Cursor σ) :
    (cursor.renewToken world).2.isFired (cursor.renewToken world).1.token = false := by
  unfold Cursor.renewToken
  split
  · exact unfired_of_minted minted 0
  · rename_i unfired
    exact Bool.eq_false_iff.mpr unfired

private theorem renewToken_minted (minted : world.Minted) (cursor : Cursor σ) :
    (cursor.renewToken world).2.Minted := by
  unfold Cursor.renewToken
  split
  · exact fun token fired => Nat.lt_succ_of_lt (minted token fired)
  · exact minted

section

variable {same : σ → τ → Prop} {launch launchTwin : Launch}

private theorem counterparts_fire (minted : world.Minted) (mintedTwin : worldTwin.Minted)
    (launches : launch.Alike world worldTwin launchTwin) :
    (ofLaunches same cursor world launch cursorTwin worldTwin launchTwin).Fires
      (cursor.tokenFor world launch).2.fired
      (cursorTwin.tokenFor worldTwin launchTwin).2.fired := by
  intro token tokenTwin paired
  cases launches with
  | own =>
      cases paired with
      | launched =>
          exact (renewToken_unfired mintedTwin cursorTwin).trans
            (renewToken_unfired minted cursor).symm
      | made isOwn ahead =>
          exact (unfired_of_minted (renewToken_minted mintedTwin cursorTwin) ahead).trans
            (unfired_of_minted (renewToken_minted minted cursor) ahead).symm
  | given fired =>
      cases paired with
      | launched => exact fired
      | made isOwn ahead => cases isOwn

private theorem tokenFor_begins (cursor : Cursor σ) (world : World σ) (launch : Launch) :
    ∃ nextToken, (cursor.tokenFor world launch).2 = { world with nextToken } := by
  cases launch with
  | given token => exact ⟨world.nextToken, rfl⟩
  | own =>
      rw [Cursor.tokenFor]
      cases fired : world.isFired cursor.token with
      | true => exact ⟨world.nextToken + 1, by simp only [Cursor.renewToken, fired]; rfl⟩
      | false => exact ⟨world.nextToken, by simp only [Cursor.renewToken, fired]; rfl⟩

private theorem worlds_ofLaunches (cursor : Cursor σ) (cursorTwin : Cursor τ)
    (minted : world.Minted) (mintedTwin : worldTwin.Minted)
    (launches : launch.Alike world worldTwin launchTwin)
    (outsides : same world.outside worldTwin.outside) :
    (ofLaunches same cursor world launch cursorTwin worldTwin launchTwin).Worlds
      (cursor.tokenFor world launch).2 (cursorTwin.tokenFor worldTwin launchTwin).2 := by
  rcases tokenFor_begins cursor world launch with ⟨nextToken, begins⟩
  rcases tokenFor_begins cursorTwin worldTwin launchTwin with ⟨nextTokenTwin, beginsTwin⟩
  refine ⟨?_, ?_, counterparts_fire minted mintedTwin launches, fun isOwn => .made isOwn, [], [],
    ?_, ?_, .nil⟩
  · rw [begins, beginsTwin]
    exact outsides
  · rw [begins, beginsTwin]
    exact .refl _ _
  · rw [begins]
    exact (List.append_nil _).symm
  · rw [beginsTwin]
    exact (List.append_nil _).symm

theorem launch_twin (behave : (ofLaunches same cursor world launch cursorTwin worldTwin
      launchTwin).Environments environment environmentTwin)
    (connection : Connection) (limit : Nat) (sql : String)
    (unclosed : cursor.state ≠ .closed) (unclosedTwin : cursorTwin.state ≠ .closed)
    (sizes : cursorTwin.fetchSize = cursor.fetchSize) (minted : world.Minted)
    (mintedTwin : worldTwin.Minted) (launches : launch.Alike world worldTwin launchTwin)
    (outsides : same world.outside worldTwin.outside) :
    (ofLaunches same cursor world launch cursorTwin worldTwin launchTwin).Agree
      environment.wallClock (cursor.launch connection environment limit sql launch world)
      (cursorTwin.launch connection environmentTwin limit sql launchTwin worldTwin) := by
  have worlds := worlds_ofLaunches cursor cursorTwin minted mintedTwin launches outsides
  cases launches with
  | own =>
      have sizesReady := (Cursor.renewToken_fetchSize cursorTwin worldTwin).trans
        (sizes.trans (Cursor.renewToken_fetchSize cursor world).symm)
      exact executeWith_twin behave .launched connection limit sql
        ((Cursor.renewToken_state cursor world).trans_ne unclosed)
        ((Cursor.renewToken_state cursorTwin worldTwin).trans_ne unclosedTwin) sizesReady
        (fun _ => .launched) worlds
  | given fired =>
      exact executeWith_twin behave .launched connection limit sql unclosed unclosedTwin sizes
        (fun isOwn => nomatch isOwn) worlds

end

end Twins

namespace Cursor

/-- Launches of one kind start afresh on any two cursors that are not closed and fetch as many
rows at a time. If their surroundings behave alike from then on, the launch and all that is done
behind it come to the same: the same answers and faults, the same that the cursors tell of the
query, and the same calls at the same distances in time. Cursors that launch for their own
tokens also have them fired at the same operations. -/
theorem launch_startsAfresh (connection : Connection) (environment : Environment σ)
    (environmentTwin : Environment τ) (limit : Nat) (sql : String) (operations : List Operation)
    (same : σ → τ → Prop) (cursor : Cursor σ) (world : World σ) (cursorTwin : Cursor τ)
    (worldTwin : World τ) {launch launchTwin : Launch} (unclosed : cursor.state ≠ .closed)
    (unclosedTwin : cursorTwin.state ≠ .closed)
    (sizes : cursorTwin.fetchSize = cursor.fetchSize)
    (minted : world.Minted) (mintedTwin : worldTwin.Minted)
    (launches : launch.Alike world worldTwin launchTwin)
    (outsides : same world.outside worldTwin.outside)
    (behave : (Twins.ofLaunches same cursor world launch cursorTwin worldTwin
      launchTwin).Environments environment environmentTwin)
    (within : ∀ operation ∈ operations, operation.isLaunch = false) :
    Option.Rel (fun made madeTwin =>
        List.Forall₂ (Told.Alike environment.wallClock (launch = .own)) made.1 madeTwin.1 ∧
          List.Forall₂ (Sent.Alike world.clock worldTwin.clock) (made.2.since world)
            (madeTwin.2.since worldTwin))
      (cursor.performEach connection environment limit (.launch sql launch :: operations) world)
      (cursorTwin.performEach connection environmentTwin limit
        (.launch sql launchTwin :: operations) worldTwin) := by
  let twins := Twins.ofLaunches same cursor world launch cursorTwin worldTwin launchTwin
  have launched : twins.Agree environment.wallClock
      (cursor.perform connection environment limit (.launch sql launch) world)
      (cursorTwin.perform connection environmentTwin limit (.launch sql launchTwin) worldTwin) := by
    rcases (Twins.launch_twin behave connection limit sql unclosed unclosedTwin sizes minted
      mintedTwin launches outsides).cases with
      ⟨endless, endlessTwin⟩ |
      ⟨answer, after, reached, afterTwin, reachedTwin, launched, launchedTwin, cursors, worlds⟩
    · simp only [perform, endless, endlessTwin]
      exact .none
    · simp only [perform, launched, launchedTwin]
      exact .some ⟨rfl, cursors, worlds⟩
  have tells := Twins.performEach_step connection limit operations launched
    (Twins.performEach_twin behave connection limit within)
  generalize cursor.performEach connection environment limit (.launch sql launch :: operations)
    world = made? at tells ⊢
  generalize cursorTwin.performEach connection environmentTwin limit
    (.launch sql launchTwin :: operations) worldTwin = madeTwin? at tells ⊢
  cases tells with
  | none => exact .none
  | some tells =>
      rcases tells.world.calls with ⟨calls, callsTwin, sent, sentTwin, alike⟩
      rw [← World.since_of_sent_eq sent, ← World.since_of_sent_eq sentTwin] at alike
      exact .some ⟨tells.told, alike⟩

/-! ### A cursor that has been used -/

/-- A query succeeds at once, and its results are one page of two rows. A request to end it
fires a token. -/
def tokenFiring : Environment Token :=
  { Rehearsal.deserted default with
    submit := fun _ outside => ({ outcome := .ok "q2" }, outside)
    status := fun _ outside => (.answer { outcome := .ok { state := .succeeded } }, outside)
    results := fun _ _ _ outside =>
      ({ outcome := .ok
          { columns := [{ name := "c", wireType := "integer" }]
            rows := [[some "c"], [some "1"], [some "2"]]
            nextToken := none } }, outside)
    cancel := fun _ outside => ({ outcome := .ok (), late := [outside] }, outside) }

def freshCursor : Cursor Token :=
  { token := ⟨0⟩, fetchSize := 1000 }

def usedCursor : Cursor Token :=
  { state := .consumable
    execution := some
      { queryId := "q1", sql := "SELECT d FROM t", database := "default"
        catalog := "AwsDataCatalog", submittedAt := default, state := .succeeded
        updateCount := some 3 }
    pager := some
      { source := .direct
          { subject := ⟨"q1", "default", "AwsDataCatalog"⟩, maxRows := 1000, retry := {}
            token := ⟨0⟩ }
        nextToken := some "2"
        started := true }
    buffer := [[some "stale"]]
    columns := [{ name := "d", wireType := "varchar" }]
    token := ⟨0⟩
    fetchSize := 1000 }

def freshWorld : World Token :=
  { outside := ⟨0⟩, nextToken := 1 }

def usedWorld : World Token :=
  { outside := ⟨1⟩, clock := 7 * 10 ^ 9, fired := [⟨0⟩], nextToken := 1
    sent := [⟨3, .status "q1", none⟩] }

def cancelBetween : List Operation :=
  [.fetch .one, .cancel, .fetch .all, .close]

private theorem tokenFiring_alike :
    (Twins.ofLaunches (fun outside outsideTwin => outside = ⟨0⟩ ∧ outsideTwin = ⟨1⟩) freshCursor
      freshWorld .own usedCursor usedWorld .own).Environments tokenFiring tokenFiring where
  submit := fun _ _ _ _ _ same => ⟨⟨rfl, rfl, fun _ _ _ => rfl, fun _ _ _ => rfl⟩, same⟩
  status := fun _ _ _ same => ⟨.answer ⟨rfl, rfl, fun _ _ _ => rfl, fun _ _ _ => rfl⟩, same⟩
  results := fun _ _ _ _ _ same => ⟨⟨rfl, rfl, fun _ _ _ => rfl, fun _ _ _ => rfl⟩, same⟩
  cancel := by
    rintro _ _ _ ⟨rfl, rfl⟩
    refine ⟨⟨rfl, rfl, fun _ _ _ => rfl, ?_⟩, rfl, rfl⟩
    -- The second cursor has been given a new token for its query, which is the one fired here.
    intro token tokenTwin paired
    cases paired with
    | launched => rfl
    | made isOwn ahead =>
        show [(⟨1⟩ : Token)].contains ⟨2 + ahead⟩ = [(⟨0⟩ : Token)].contains ⟨1 + ahead⟩
        simp
        omega
  schema := fun _ _ _ same => ⟨⟨rfl, rfl, fun _ _ _ => rfl, fun _ _ _ => rfl⟩, same⟩
  object := .none
  pause := fun _ _ _ same => ⟨fun _ _ _ => rfl, same⟩
  random := fun _ _ same => ⟨trivial, same⟩
  step := rfl
  wallClock := rfl

theorem launch_startsAfresh_behindFiredHandle :
    ∃ told toldTwin last lastTwin,
      freshCursor.performEach { config := {}, sentinels := {} } tokenFiring 3
          (.launch "SELECT c FROM t" .own :: cancelBetween) freshWorld = some (told, last) ∧
        usedCursor.performEach { config := {}, sentinels := {} } tokenFiring 3
          (.launch "SELECT c FROM t" .own :: cancelBetween) usedWorld =
            some (toldTwin, lastTwin) ∧
        told.map (·.answer) =
          [.ok [], .ok [[.integer 1]], .ok [], .ok [[.integer 2]], .ok []] ∧
        told.map (·.fired) = [false, false, true, true, true] ∧
        List.Forall₂ (Told.Alike tokenFiring.wallClock (Launch.own = .own)) told toldTwin ∧
        List.Forall₂ (Sent.Alike freshWorld.clock usedWorld.clock) (last.since freshWorld)
          (lastTwin.since usedWorld) := by
  have alike := launch_startsAfresh { config := {}, sentinels := {} } tokenFiring tokenFiring 3
    "SELECT c FROM t" cancelBetween _ freshCursor freshWorld usedCursor usedWorld (by decide)
    (by decide) rfl (by decide) (by decide) .own ⟨rfl, rfl⟩ tokenFiring_alike (by decide)
  have facts : (freshCursor.performEach { config := {}, sentinels := {} } tokenFiring 3
      (.launch "SELECT c FROM t" .own :: cancelBetween) freshWorld).any (fun made =>
        made.1.map (·.answer) ==
            [.ok [], .ok [[.integer 1]], .ok [], .ok [[.integer 2]], .ok []] &&
          made.1.map (·.fired) == [false, false, true, true, true]) = true := by
    decide +kernel
  rcases (Option.any_eq_true _ _).mp facts with ⟨⟨told, last⟩, ran, facts⟩
  simp only [Bool.and_eq_true, beq_iff_eq] at facts
  rcases ranTwin : usedCursor.performEach { config := {}, sentinels := {} } tokenFiring 3
    (.launch "SELECT c FROM t" .own :: cancelBetween) usedWorld with _ | ⟨toldTwin, lastTwin⟩
  · rw [ran, ranTwin] at alike
    cases alike
  · rw [ran, ranTwin] at alike
    cases alike with
    | some same => exact ⟨told, toldTwin, last, lastTwin, ran, rfl, facts.1, facts.2, same⟩

end Cursor

end RemoteQuery
