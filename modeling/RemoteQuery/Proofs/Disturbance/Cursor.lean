import Mathlib.Data.List.Forall2
import RemoteQuery.Proofs.Disturbance.Poller
import RemoteQuery.Proofs.Disturbance.Results

/-! # Fetches in disturbed surroundings

Whatever is fetched in a disturbed world, the same is fetched as in the undisturbed one, as
long as all is calm. A fetch that uses up the budget is the last one with an answer.
-/

namespace RemoteQuery

open Calendar (Duration Instant)
open RetryPolicy (Calm Keeps)

variable {σ α : Type} {calendar : Duration → Instant}

namespace Cursor

def disturbed (cursor : Cursor σ) : Cursor (Disturbed σ) :=
  { state := cursor.state
    execution := cursor.execution
    pager := cursor.pager.map Pager.disturbed
    buffer := cursor.buffer
    columns := cursor.columns
    token := cursor.token
    fetchSize := cursor.fetchSize }

/-- Two cursors stand at the same place of the same results, and the records of their queries
differ in times only. -/
inductive Alike (calendar : Duration → Instant) (cursor : Cursor σ) : Cursor (Disturbed σ) → Prop
  | of {execution : Option Execution}
      (records : Option.Rel (Execution.Alike calendar) cursor.execution execution) :
      Alike calendar cursor { cursor.disturbed with execution }

namespace Alike

variable {cursor : Cursor σ} {shadow : Cursor (Disturbed σ)} {policy : RetryPolicy}
  {subject : Subject} {token : Token}

theorem state_eq (alike : cursor.Alike calendar shadow) : shadow.state = cursor.state := by
  cases alike
  rfl

theorem buffer_eq (alike : cursor.Alike calendar shadow) : shadow.buffer = cursor.buffer := by
  cases alike
  rfl

theorem columns_eq (alike : cursor.Alike calendar shadow) :
    shadow.columns = cursor.columns := by
  cases alike
  rfl

theorem token_eq (alike : cursor.Alike calendar shadow) : shadow.token = cursor.token := by
  cases alike
  rfl

theorem fetchSize_eq (alike : cursor.Alike calendar shadow) :
    shadow.fetchSize = cursor.fetchSize := by
  cases alike
  rfl

theorem uses (alike : cursor.Alike calendar shadow)
    (uses : cursor.Uses policy subject token) : shadow.Uses policy subject token := by
  rcases alike with ⟨records⟩
  intro pager member
  rcases Option.map_eq_some_iff.mp member with ⟨original, atPager, rfl⟩
  exact Source.disturbed_uses (uses original atPager)

theorem records_updated {record recordShadow : Option Execution}
    (records : Option.Rel (Execution.Alike calendar) record recordShadow) (count : UInt64) :
    Option.Rel (Execution.Alike calendar) (record.map (·.recordUpdateCount count))
      (recordShadow.map (·.recordUpdateCount count)) := by
  cases records with
  | none => exact .none
  | some alike => exact .some (alike.recordUpdateCount count)

theorem recordUpdateCount (alike : cursor.Alike calendar shadow) (page : Page) :
    (cursor.recordUpdateCount page).Alike calendar (shadow.recordUpdateCount page) := by
  rcases alike with ⟨records⟩
  unfold Cursor.recordUpdateCount
  cases page.updateCount with
  | none => exact .of records
  | some count => exact .of (records_updated records count)

theorem filled (alike : cursor.Alike calendar shadow) (columns : List Column)
    (buffer : List RawRow) (pager : Pager σ) :
    Alike calendar { cursor with columns, buffer, pager := some pager }
      { shadow with columns, buffer, pager := some pager.disturbed } := by
  rcases alike with ⟨records⟩
  exact .of records

theorem in_state (alike : cursor.Alike calendar shadow) (state : CursorState) :
    Alike calendar { cursor with state } { shadow with state } := by
  rcases alike with ⟨records⟩
  exact .of records

theorem takePage (alike : cursor.Alike calendar shadow) (page : Page) (pager : Pager σ) :
    (cursor.takePage page pager).Alike calendar (shadow.takePage page pager.disturbed) := by
  unfold Cursor.takePage
  rw [alike.columns_eq, alike.buffer_eq]
  exact (alike.recordUpdateCount page).filled _ _ pager

end Alike

theorem alike_disturbed (cursor : Cursor σ) : cursor.Alike calendar cursor.disturbed := by
  have records : Option.Rel (Execution.Alike calendar) cursor.execution cursor.execution := by
    cases cursor.execution with
    | none => exact .none
    | some execution => exact .some (.of (.same _) (.same _))
  exact .of records

structure Agrees (calendar : Duration → Instant) (database catalog : String)
    (made : α × Cursor σ × World σ) (madeShadow : α × Cursor (Disturbed σ) × World (Disturbed σ)) :
    Prop where
  answer : madeShadow.1 = made.1
  cursor : made.2.1.Alike calendar madeShadow.2.1
  world : made.2.2.Shadows database catalog false madeShadow.2.2

/-- An operation has an end in the disturbed world, too, and if it is calm there, it has come
to the same. -/
def Transparent (policy : RetryPolicy) (step : Duration) (database catalog : String)
    (calendar : Duration → Instant) (shadow : World (Disturbed σ)) (made : α × Cursor σ × World σ)
    (ran : Option (α × Cursor (Disturbed σ) × World (Disturbed σ))) : Prop :=
  ∃ madeShadow, ran = some madeShadow ∧
    (Calm policy step database catalog none (madeShadow.2.2.since shadow) →
      Agrees calendar database catalog made madeShadow)

variable {environment : Environment σ} {policy : RetryPolicy} {subject : Subject} {token : Token}
  {connection : Connection} {cursor after : Cursor σ} {cursorShadow : Cursor (Disturbed σ)}
  {world last : World σ} {shadow middle : World (Disturbed σ)}

theorem Transparent.behind {database catalog : String} {made : α × Cursor σ × World σ}
    {ran : Option (α × Cursor (Disturbed σ) × World (Disturbed σ))}
    (keeps : policy.Keeps environment.step database catalog shadow middle none)
    (leads : ∀ madeShadow, ran = some madeShadow → middle.LeadsTo madeShadow.2.2)
    (transparent : Transparent policy environment.step database catalog calendar middle made ran) :
    Transparent policy environment.step database catalog calendar shadow made ran := by
  rcases transparent with ⟨madeShadow, ends, agrees⟩
  exact ⟨madeShadow, ends, fun calm =>
    agrees ((keeps.calm_split (leads madeShadow ends)).mp calm)⟩

theorem loadPage_shadows {more moreShadow : Except Fault Bool}
    {afterShadow : Cursor (Disturbed σ)} {lastShadow : World (Disturbed σ)}
    (uses : cursor.Uses policy subject token) (alike : cursor.Alike calendar cursorShadow)
    (shadows : world.Shadows subject.database subject.catalog false shadow)
    (loaded : cursor.loadPage environment world = (more, after, last))
    (loadedShadow : cursorShadow.loadPage environment.disturbed shadow =
      (moreShadow, afterShadow, lastShadow))
    (calm : Calm policy environment.step subject.database subject.catalog none
      (lastShadow.since shadow))
    (unfired : last.isFired token = false) :
    Agrees calendar subject.database subject.catalog (more, after, last)
      (moreShadow, afterShadow, lastShadow) := by
  have paged : cursorShadow.pager = cursor.pager.map Pager.disturbed := by
    cases alike
    rfl
  cases atPager : cursor.pager with
  | none =>
      rw [atPager] at paged
      simp only [loadPage, atPager] at loaded
      simp only [loadPage, paged, Option.map_none] at loadedShadow
      cases loaded
      cases loadedShadow
      exact ⟨rfl, alike, shadows⟩
  | some pager =>
      rw [atPager] at paged
      rcases stepped : pager.next environment world with ⟨page?, next, reached⟩
      rcases steppedShadow : pager.disturbed.next environment.disturbed shadow with
        ⟨pageShadow?, nextShadow, reachedShadow⟩
      simp only [loadPage, atPager, stepped] at loaded
      simp only [loadPage, paged, Option.map_some, steppedShadow] at loadedShadow
      have ends : reached = last := by
        rcases page? with _ | _ | _ <;> cases loaded <;> rfl
      have endsShadow : reachedShadow = lastShadow := by
        rcases pageShadow? with _ | _ | _ <;> cases loadedShadow <;> rfl
      subst ends endsShadow
      rcases Pager.next_shadows (uses pager atPager) shadows stepped steppedShadow calm unfired with
        ⟨rfl, rfl, shadowsLast⟩
      rcases pageShadow? with fault | _ | page
      · cases loaded
        cases loadedShadow
        rcases alike with ⟨records⟩
        exact ⟨rfl, .of records, shadowsLast⟩
      · cases loaded
        cases loadedShadow
        rcases alike with ⟨records⟩
        exact ⟨rfl, .of records, shadowsLast⟩
      · cases loaded
        cases loadedShadow
        exact ⟨rfl, alike.takePage page next, shadowsLast⟩

private theorem nextRow_agrees {limit more : Nat} {row : RawRow} {rest : List RawRow}
    {made : Except Fault (Option Row) × Cursor σ × World σ}
    (buffered : cursor.buffer = row :: rest) (alike : cursor.Alike calendar cursorShadow)
    (shadows : world.Shadows subject.database subject.catalog false shadow)
    (found : cursor.nextRow connection environment limit world = some made) :
    Transparent policy environment.step subject.database subject.catalog calendar shadow made
      (cursorShadow.nextRow connection environment.disturbed more shadow) := by
  rw [nextRow_of_buffered buffered] at found
  cases found
  refine ⟨_, nextRow_of_buffered (alike.buffer_eq.trans buffered), fun _ => ?_⟩
  rcases alike with ⟨records⟩
  simp only [castRow, disturbed]
  split
  · exact ⟨rfl, .of records, shadows⟩
  · exact ⟨rfl, .of records, shadows⟩

theorem nextRow_transparent {limit more : Nat}
    {made : Except Fault (Option Row) × Cursor σ × World σ} (enough : limit ≤ more)
    (consumable : cursor.state = .consumable) (uses : cursor.Uses policy subject token)
    (alike : cursor.Alike calendar cursorShadow)
    (shadows : world.Shadows subject.database subject.catalog false shadow)
    (found : cursor.nextRow connection environment limit world = some made)
    (unfired : made.2.2.isFired token = false) :
    Transparent policy environment.step subject.database subject.catalog calendar shadow made
      (cursorShadow.nextRow connection environment.disturbed more shadow) := by
  induction limit generalizing more cursor cursorShadow world shadow with
  | zero =>
      cases buffered : cursor.buffer with
      | nil => simp [nextRow.eq_def, buffered] at found
      | cons row rest => exact nextRow_agrees buffered alike shadows found
  | succ limit induction =>
      cases buffered : cursor.buffer with
      | cons row rest => exact nextRow_agrees buffered alike shadows found
      | nil =>
          rcases Nat.exists_eq_add_of_le' enough with ⟨extra, rfl⟩
          rw [nextRow_of_empty buffered] at found
          rw [← Nat.add_assoc, nextRow_of_empty (alike.buffer_eq.trans buffered)]
          have consumableShadow := alike.state_eq.trans consumable
          have usesShadow := alike.uses uses
          have goes := loadPage_goes environment consumable uses world
          have goesShadow := loadPage_goes environment.disturbed consumableShadow usesShadow shadow
          rcases loaded : cursor.loadPage environment world with ⟨loads, next, reached⟩
          rcases loadedShadow : cursorShadow.loadPage environment.disturbed shadow with
            ⟨loadsShadow, nextShadow, reachedShadow⟩
          rw [loaded] at found goes
          rw [loadedShadow] at goesShadow
          have unfiredYet : reached.isFired token = false := by
            rcases loads with fault | _ | _
            · cases found
              exact unfired
            · cases found
              exact unfired
            · exact (nextRow_goes (goes.consumable.mpr rfl) goes.uses found).keeps.leads.unfired
                unfired
          have agrees calm :=
            loadPage_shadows uses alike shadows loaded loadedShadow calm unfiredYet
          -- A page that has been read is proof enough that all has been calm so far.
          cases loadsShadow with
          | error fault =>
              refine ⟨_, rfl, fun calm => ?_⟩
              rcases agrees calm with ⟨same, alikeNext, shadowsReached⟩
              cases same
              cases found
              exact ⟨rfl, alikeNext, shadowsReached⟩
          | ok filled =>
              rcases agrees goesShadow.keeps.kept.calm with ⟨same, alikeNext, shadowsReached⟩
              cases same
              cases filled with
              | false =>
                  cases found
                  exact ⟨_, rfl, fun _ => ⟨rfl, alikeNext, shadowsReached⟩⟩
              | true =>
                  have consumableNext := goesShadow.consumable.mpr rfl
                  refine .behind goesShadow.keeps (fun madeShadow foundShadow => ?_)
                    (induction (Nat.le_add_left limit extra) (goes.consumable.mpr rfl) goes.uses
                      alikeNext shadowsReached found)
                  exact (nextRow_goes consumableNext goesShadow.uses foundShadow).keeps.leads

theorem drawThen_transparent {limit more : Nat} {made : Delivery × Cursor σ × World σ}
    {rest : Cursor σ → World σ → Option (Delivery × Cursor σ × World σ)}
    {restShadow : Cursor (Disturbed σ) → World (Disturbed σ) →
      Option (Delivery × Cursor (Disturbed σ) × World (Disturbed σ))}
    (enough : limit ≤ more)
    (leads : ∀ {next : Cursor σ} {reached : World σ} {later : Delivery × Cursor σ × World σ},
      next.state = .consumable → next.Uses policy subject token →
        rest next reached = some later → reached.LeadsTo later.2.2)
    (leadsShadow : ∀ {next : Cursor (Disturbed σ)} {reached : World (Disturbed σ)}
      {later : Delivery × Cursor (Disturbed σ) × World (Disturbed σ)},
      next.state = .consumable → next.Uses policy subject token →
        restShadow next reached = some later → reached.LeadsTo later.2.2)
    (transparent : ∀ {next : Cursor σ} {nextShadow : Cursor (Disturbed σ)} {reached : World σ}
      {reachedShadow : World (Disturbed σ)} {later : Delivery × Cursor σ × World σ},
      next.state = .consumable → next.Uses policy subject token →
        next.Alike calendar nextShadow →
        reached.Shadows subject.database subject.catalog false reachedShadow →
        rest next reached = some later → later.2.2.isFired token = false →
        Transparent policy environment.step subject.database subject.catalog calendar reachedShadow
          later
          (restShadow nextShadow reachedShadow))
    (consumable : cursor.state = .consumable) (uses : cursor.Uses policy subject token)
    (alike : cursor.Alike calendar cursorShadow)
    (shadows : world.Shadows subject.database subject.catalog false shadow)
    (found : cursor.drawThen connection environment limit rest world = some made)
    (unfired : made.2.2.isFired token = false) :
    Transparent policy environment.step subject.database subject.catalog calendar shadow made
      (cursorShadow.drawThen connection environment.disturbed more restShadow shadow) := by
  unfold drawThen at found ⊢
  rcases drawn : cursor.nextRow connection environment limit world with
    _ | ⟨row?, next, reached⟩
  · simp [drawn] at found
  · have goes := nextRow_goes consumable uses drawn
    rw [drawn] at found
    have unfiredYet : reached.isFired token = false := by
      rcases row? with fault | _ | row
      · cases found
        exact unfired
      · cases found
        exact unfired
      · rcases Option.map_eq_some_iff.mp found with ⟨later, foundLater, rfl⟩
        exact (leads (goes.consumable.mpr rfl) goes.uses foundLater).unfired unfired
    rcases nextRow_transparent enough consumable uses alike shadows drawn unfiredYet with
      ⟨⟨rowShadow?, nextShadow, reachedShadow⟩, drawnShadow, agrees⟩
    have goesShadow := nextRow_goes (alike.state_eq.trans consumable) (alike.uses uses) drawnShadow
    rw [drawnShadow]
    cases rowShadow? with
    | error fault =>
        refine ⟨_, rfl, fun calm => ?_⟩
        rcases agrees calm with ⟨same, alikeNext, shadowsReached⟩
        cases same
        cases found
        exact ⟨rfl, alikeNext, shadowsReached⟩
    | ok row? =>
        rcases agrees goesShadow.keeps.kept.calm with ⟨same, alikeNext, shadowsReached⟩
        cases same
        cases row? with
        | none =>
            cases found
            exact ⟨_, rfl, fun _ => ⟨rfl, alikeNext, shadowsReached⟩⟩
        | some row =>
            rcases Option.map_eq_some_iff.mp found with ⟨later, foundLater, rfl⟩
            rcases transparent (goes.consumable.mpr rfl) goes.uses alikeNext shadowsReached
              foundLater unfired with ⟨laterShadow, foundShadow, agreesLater⟩
            refine ⟨_, Option.map_eq_some_iff.mpr ⟨laterShadow, foundShadow, rfl⟩,
              fun calm => ?_⟩
            have leadsOn := leadsShadow (goesShadow.consumable.mpr rfl) goesShadow.uses foundShadow
            rcases agreesLater ((goesShadow.keeps.calm_split leadsOn).mp calm) with
              ⟨same, alikeLast, shadowsLast⟩
            exact ⟨congrArg (Except.map (row :: ·)) same, alikeLast, shadowsLast⟩

theorem fetchUpTo_transparent {limit more size : Nat} {made : Delivery × Cursor σ × World σ}
    (enough : limit ≤ more) (consumable : cursor.state = .consumable)
    (uses : cursor.Uses policy subject token) (alike : cursor.Alike calendar cursorShadow)
    (shadows : world.Shadows subject.database subject.catalog false shadow)
    (found : cursor.fetchUpTo connection environment limit size world = some made)
    (unfired : made.2.2.isFired token = false) :
    Transparent policy environment.step subject.database subject.catalog calendar shadow made
      (cursorShadow.fetchUpTo connection environment.disturbed more size shadow) := by
  induction size generalizing cursor cursorShadow world shadow made with
  | zero =>
      cases found
      exact ⟨_, rfl, fun _ => ⟨rfl, alike, shadows⟩⟩
  | succ size induction =>
      rw [fetchUpTo_succ consumable] at found
      rw [fetchUpTo_succ (alike.state_eq.trans consumable)]
      exact drawThen_transparent enough
        (fun consumable uses found => (fetchUpTo_goes consumable uses found).keeps.leads)
        (fun consumable uses found => (fetchUpTo_goes consumable uses found).keeps.leads)
        induction consumable uses alike shadows found unfired

theorem fetchRest_transparent {limit more bound further : Nat}
    {made : Delivery × Cursor σ × World σ} (enough : limit ≤ more) (within : bound ≤ further)
    (consumable : cursor.state = .consumable) (uses : cursor.Uses policy subject token)
    (alike : cursor.Alike calendar cursorShadow)
    (shadows : world.Shadows subject.database subject.catalog false shadow)
    (found : cursor.fetchRest connection environment limit bound world = some made)
    (unfired : made.2.2.isFired token = false) :
    Transparent policy environment.step subject.database subject.catalog calendar shadow made
      (cursorShadow.fetchRest connection environment.disturbed more further shadow) := by
  induction bound generalizing cursor cursorShadow world shadow made further with
  | zero => cases found
  | succ bound induction =>
      rcases Nat.exists_eq_add_of_le' within with ⟨extra, rfl⟩
      rw [fetchRest_succ consumable] at found
      rw [← Nat.add_assoc, fetchRest_succ (alike.state_eq.trans consumable)]
      exact drawThen_transparent enough
        (fun consumable uses found => (fetchRest_goes consumable uses found).keeps.leads)
        (fun consumable uses found => (fetchRest_goes consumable uses found).keeps.leads)
        (induction (Nat.le_add_left bound extra)) consumable uses alike shadows found unfired

theorem fetch_transparent {limit more : Nat} {fetch : Fetch}
    {made : Delivery × Cursor σ × World σ} (enough : limit ≤ more)
    (uses : cursor.Uses policy subject token) (alike : cursor.Alike calendar cursorShadow)
    (shadows : world.Shadows subject.database subject.catalog false shadow)
    (found : cursor.fetch connection environment limit fetch world = some made)
    (unfired : made.2.2.isFired token = false) :
    Transparent policy environment.step subject.database subject.catalog calendar shadow made
      (cursorShadow.fetch connection environment.disturbed more fetch shadow) := by
  have sameState := alike.state_eq
  cases allowed : misuse? cursor.state with
  | some misuse =>
      rw [fetch_of_misuse allowed] at found
      cases found
      rw [← sameState] at allowed
      exact ⟨_, fetch_of_misuse allowed _ _, fun _ => ⟨rfl, alike, shadows⟩⟩
  | none =>
      have consumable := (misuse?_eq_none_iff _).mp allowed
      have consumableShadow := sameState.trans consumable
      have allowedShadow := (misuse?_eq_none_iff _).mpr consumableShadow
      cases fetch with
      | one =>
          simp only [Cursor.fetch, fetchOne_of_consumable consumable, Option.map_eq_some_iff]
            at found
          rcases found with ⟨⟨row?, next, reached⟩, drawn, rfl⟩
          rcases nextRow_transparent enough consumable uses alike shadows drawn unfired with
            ⟨⟨rowShadow?, nextShadow, reachedShadow⟩, drawnShadow, agrees⟩
          rw [Cursor.fetch, fetchOne_of_consumable consumableShadow, drawnShadow]
          refine ⟨_, rfl, fun calm => ?_⟩
          rcases agrees calm with ⟨same, alikeNext, shadowsReached⟩
          exact ⟨congrArg (Except.map Option.toList) same, alikeNext, shadowsReached⟩
      | many size =>
          simp only [Cursor.fetch, fetchMany, allowed] at found
          simp only [Cursor.fetch, fetchMany, allowedShadow, alike.fetchSize_eq]
          exact fetchUpTo_transparent enough consumable uses alike shadows found unfired
      | all =>
          simp only [Cursor.fetch, fetchAll, allowed] at found
          simp only [Cursor.fetch, fetchAll, allowedShadow]
          exact fetchRest_transparent enough enough consumable uses alike shadows found unfired

/-! ## Many fetches -/

def Delivered (calendar : Duration → Instant) :
    List (Delivery × Cursor σ) → List (Delivery × Cursor (Disturbed σ)) → Prop :=
  List.Forall₂ fun delivery deliveryShadow =>
    deliveryShadow.1 = delivery.1 ∧ delivery.2.Alike calendar deliveryShadow.2

theorem delivered_of_misuse (alike : cursor.Alike calendar cursorShadow)
    (answer : Delivery) (fetches : List Fetch) :
    Delivered calendar (fetches.map fun _ => (answer, cursor))
      (fetches.map fun _ => (answer, cursorShadow)) := by
  induction fetches with
  | nil => exact .nil
  | cons fetch rest induction => exact .cons ⟨rfl, alike⟩ induction

theorem fetchEach_transparent {limit more : Nat} {fetches : List Fetch}
    {deliveries : List (Delivery × Cursor σ)} (enough : limit ≤ more)
    (uses : cursor.Uses policy subject token) (alike : cursor.Alike calendar cursorShadow)
    (shadows : world.Shadows subject.database subject.catalog false shadow)
    (found : cursor.fetchEach connection environment limit fetches world =
      some (deliveries, last))
    (unfired : last.isFired token = false) :
    ∃ deliveriesShadow lastShadow,
      cursorShadow.fetchEach connection environment.disturbed more fetches shadow =
        some (deliveriesShadow, lastShadow) ∧
      (Calm policy environment.step subject.database subject.catalog none
        (lastShadow.since shadow) →
        Delivered calendar deliveries deliveriesShadow ∧
          last.Shadows subject.database subject.catalog false lastShadow) := by
  induction fetches generalizing cursor cursorShadow world shadow deliveries with
  | nil =>
      cases found
      exact ⟨[], shadow, rfl, fun _ => ⟨.nil, shadows⟩⟩
  | cons fetch rest induction =>
      unfold fetchEach at found ⊢
      rcases first : cursor.fetch connection environment limit fetch world with
        _ | ⟨answer, next, middle⟩
      · simp [first] at found
      · have goes := fetch_goes uses first
        rw [first] at found
        rcases later : next.fetchEach connection environment limit rest middle with
          _ | ⟨others, settled⟩
        · simp [later] at found
        · simp only [later, Option.some.injEq, Prod.mk.injEq] at found
          rcases found with ⟨rfl, rfl⟩
          have leads := (fetchEach_keeps goes.uses later).leads
          rcases fetch_transparent enough uses alike shadows first (leads.unfired unfired) with
            ⟨⟨answerShadow, nextShadow, middleShadow⟩, firstShadow, agrees⟩
          have goesShadow := fetch_goes (alike.uses uses) firstShadow
          rw [firstShadow]
          cases answerShadow with
          | ok rows =>
              rcases agrees goesShadow.keeps.kept.calm with ⟨same, alikeNext, shadowsMiddle⟩
              cases same
              rcases induction goes.uses alikeNext shadowsMiddle later with
                ⟨othersShadow, lastShadow, laterShadow, agreesLater⟩
              refine ⟨(.ok rows, nextShadow) :: othersShadow, lastShadow, ?_, fun calm => ?_⟩
              · simp only [laterShadow]
              · have leadsOn := (fetchEach_keeps goesShadow.uses laterShadow).leads
                rcases agreesLater ((goesShadow.keeps.calm_split leadsOn).mp calm) with
                  ⟨delivered, shadowsLast⟩
                exact ⟨.cons ⟨rfl, alikeNext⟩ delivered, shadowsLast⟩
          | error fault =>
              have unable : nextShadow.state ≠ .consumable := fun able => by
                cases goesShadow.consumable.mp able
              rcases Option.ne_none_iff_exists'.mp
                (mt (misuse?_eq_none_iff nextShadow.state).mp unable) with ⟨misuse, refused⟩
              refine ⟨(.error fault, nextShadow) :: rest.map fun _ =>
                (.error misuse.fault, nextShadow), middleShadow, ?_, fun calm => ?_⟩
              · simp only [fetchEach_of_misuse refused]
              · rcases agrees calm with ⟨same, alikeNext, shadowsMiddle⟩
                cases same
                rw [alikeNext.state_eq] at refused
                rw [fetchEach_of_misuse refused] at later
                cases later
                exact ⟨.cons ⟨rfl, alikeNext⟩ (delivered_of_misuse alikeNext _ rest),
                  shadowsMiddle⟩

end Cursor

end RemoteQuery
