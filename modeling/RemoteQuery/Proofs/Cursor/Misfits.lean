import RemoteQuery.Proofs.Cell.Rows
import RemoteQuery.Proofs.Cursor.Metadata
import RemoteQuery.Proofs.Results.Resumption

/-! # Rows that do not fit

A cursor reads the rows of all its pages by columns that are counted from one. Pages fail in
other ways than rows do, so that a conversion fault always names a cell of a row that has come
on some page.
-/

namespace RemoteQuery

variable {σ : Type}

def Fault.isConversion : Fault → Bool
  | .conversion .. => true
  | _ => false

/-! ## Pages do not fail as rows do -/

theorem RetryPolicy.isConversion_of_run {α : Type} {environment : Environment σ}
    {policy : RetryPolicy} {scope : Scope} {token : Token}
    {attempt : World σ → Outcome α × World σ} {world last : World σ} {fault : Fault}
    (failed : policy.run environment scope token attempt world = (.error fault, last)) :
    fault.isConversion = false := by
  have attempted := run_attempted environment policy scope token attempt world
  rw [failed] at attempted
  rcases attempted.fault with ⟨_, rfl⟩ | untimely
  · rfl
  · cases fault <;> first | rfl | cases untimely

theorem DirectSource.isConversion_of_fetch {environment : Environment σ}
    {source after : DirectSource} {token : Option String} {world reached : World σ}
    {fault : Fault}
    (failed : source.fetch environment token world = (.error fault, after, reached)) :
    fault.isConversion = false := by
  unfold fetch at failed
  split at failed
  · rename_i ran
    cases failed
    exact RetryPolicy.isConversion_of_run ran
  · cases failed

namespace BulkSource

variable {environment : Environment σ} {source after : BulkSource σ} {token : Option String}
  {world reached : World σ} {stream : FileStream} {fault : Fault} {page : Page}

theorem isConversion_of_nextPage (proper : ResultFile.Proper stream.toCome)
    (failed : source.nextPage stream = (.error fault, after)) : fault.isConversion = false := by
  generalize coming : stream.toCome = batches at proper
  cases proper with
  | nothing =>
      rw [nextPage_of_nothing source coming] at failed
      cases failed
  | rows something behind =>
      rw [nextPage_of_rows source coming] at failed
      cases failed
  | broken message =>
      rw [nextPage_of_error source coming] at failed
      cases failed
      rfl

theorem isConversion_of_fetch (proper : source.FileProper)
    (failed : source.fetch environment token world = (.error fault, after, reached)) :
    fault.isConversion = false := by
  cases token with
  | none =>
      rcases asked : source.askFile environment world with ⟨refused | download, settled⟩
      · rw [fetch_none_of_error asked] at failed
        cases failed
        exact RetryPolicy.isConversion_of_run asked
      · rw [fetch_none asked] at failed
        rcases turned : source.nextPage (source.opened download) with ⟨answer, next⟩
        rw [turned] at failed
        cases failed
        have proper : ResultFile.Proper (source.opened download).toCome :=
          ResultFile.proper_batches _ _ _
        exact isConversion_of_nextPage proper turned
  | some token =>
      by_cases latest : source.stream.map (·.pageToken) = some token
      · rcases Option.map_eq_some_iff.mp latest with ⟨stream, isOpen, rfl⟩
        rw [fetch_latest isOpen] at failed
        rcases turned : source.nextPage stream with ⟨answer, next⟩
        rw [turned] at failed
        cases failed
        exact isConversion_of_nextPage (proper stream isOpen) turned
      · rw [fetch_stale latest] at failed
        cases failed
        rfl

theorem columns_of_nextPage (turned : source.nextPage stream = (.ok page, after)) :
    page.columns = source.columns := by
  cases coming : stream.toCome with
  | nil =>
      rw [nextPage_of_nothing source coming] at turned
      cases turned
      rfl
  | cons batch rest =>
      cases batch with
      | ok rows =>
          rw [nextPage_of_rows source coming] at turned
          cases turned
          rfl
      | error fault =>
          rw [nextPage_of_error source coming] at turned
          cases turned

theorem columns_of_fetch
    (fetched : source.fetch environment token world = (.ok page, after, reached)) :
    page.columns = source.columns := by
  rcases fetch_cases fetched with ⟨fault, isFault, -⟩ | ⟨stream, turned, -⟩
  · cases isFault
  · exact columns_of_nextPage turned

end BulkSource

/-! ## Walks of a launch -/

/-- A source that no page has been asked for. Its columns are counted from one as soon as they
are known. -/
inductive Source.Fresh : Source σ → Prop
  | direct {source : DirectSource} (unknown : source.columns = none) : Fresh (.direct source)
  | bulk {source : BulkSource σ} {given : List Column}
      (named : source.columns = Column.normalize given) (closed : source.stream = none) :
      Fresh (.bulk source)

namespace Pager

variable {environment : Environment σ} {source : Source σ} {pager after : Pager σ}
  {taken : List Turn} {world reached : World σ} {page other : Page} {fault : Fault}

/-- Where a walk through a file stands, and what is the same for all its pages. -/
structure AtFile (source : BulkSource σ) (taken : List Turn) (pager : Pager σ) : Prop where
  current : ∃ current, pager.source = .bulk current ∧ current.SameFile source ∧
    current.FileProper
  columns : ∀ page ∈ pagesOf taken, page.columns = source.columns

theorem Turns.atFile {source : BulkSource σ} (closed : source.stream = none)
    (turns : Turns environment { source := .bulk source } taken pager) :
    AtFile source taken pager := by
  induction turns with
  | nothing =>
      refine ⟨⟨source, rfl, rfl, fun stream isOpen => ?_⟩, fun page member => nomatch member⟩
      cases closed.symm.trans isOpen
  | @next taken pager after world reached answer earlier asked induction =>
      obtain ⟨⟨current, atSource, same, proper⟩, columns⟩ := induction
      cases ended : pager.exhausted with
      | true =>
          rw [next_of_exhausted ended] at asked
          cases asked
          refine ⟨⟨current, atSource, same, proper⟩, fun page member => ?_⟩
          rw [pagesOf_concat] at member
          exact (List.mem_append.mp member).elim (columns page) fun here => nomatch here
      | false =>
          obtain ⟨fetched, next, fetches, atNext, which⟩ := next_cases atSource ended asked
          have sameNext := (BulkSource.fetch_sameFile fetches).trans same
          refine ⟨⟨next, atNext, sameNext, BulkSource.fetch_proper proper fetches⟩,
            fun page member => ?_⟩
          rw [pagesOf_concat] at member
          rcases List.mem_append.mp member with before | here
          · exact columns page before
          · rcases which with ⟨page, rfl, rfl, -⟩ | ⟨fault, rfl, rfl, -⟩
            · cases List.mem_singleton.mp here
              rw [BulkSource.columns_of_fetch fetches]
              exact same.congr BulkSource.columns fun _ => rfl
            · cases here

theorem Turns.columns (fresh : source.Fresh) (turns : Turns environment { source } taken pager) :
    ∃ given, ∀ page ∈ pagesOf taken, page.columns = Column.normalize given := by
  cases fresh with
  | bulk named closed =>
      exact ⟨_, fun page member => ((turns.atFile closed).columns page member).trans named⟩
  | direct unknown =>
      rcases List.eq_nil_or_concat' (pagesOf taken) with none | ⟨front, page, some⟩
      · exact ⟨[], fun page member => by rw [none] at member; cases member⟩
      · have member : page ∈ pagesOf taken := by
          rw [some]
          exact List.mem_concat_self
        obtain ⟨first, later, parts, -⟩ := turns.walked.first unknown member
        refine ⟨first.columns, fun page member => ?_⟩
        obtain ⟨again, others, partsAgain, columns⟩ := turns.walked.first unknown member
        cases parts.symm.trans partsAgain
        exact columns

theorem isConversion_of_next (fresh : source.Fresh)
    (turns : Turns environment { source } taken pager)
    (failed : pager.next environment world = (.error fault, after, reached)) :
    fault.isConversion = false := by
  have goesOn : pager.exhausted = false := by
    cases ended : pager.exhausted with
    | false => rfl
    | true => cases (next_of_exhausted ended).symm.trans failed
  cases fresh with
  | bulk named closed =>
      obtain ⟨current, atSource, -, proper⟩ := (turns.atFile closed).current
      obtain ⟨fetched, next, fetches, -, which⟩ := next_cases atSource goesOn failed
      rcases which with ⟨page, -, isPage, -⟩ | ⟨other, rfl, same, -⟩
      · cases isPage
      · cases same
        exact BulkSource.isConversion_of_fetch proper fetches
  | @direct source unknown =>
      rw [next, goesOn, if_neg Bool.false_ne_true, turns.walked.atSource, Source.fetch] at failed
      rcases fetched : DirectSource.fetch environment
          { source with columns := knownColumns source (partsOf taken) } pager.pageToken world with
        ⟨refused | page, next, settled⟩
      · rw [fetched] at failed
        cases failed
        exact DirectSource.isConversion_of_fetch fetched
      · rw [fetched] at failed
        cases failed

end Pager

/-! ## Rows of a cursor -/

namespace Cursor

section

variable (environment : Environment σ) (source : Source σ)

/-- Some requests for pages have come to where a walk stands now, and they have made the last of
all calls. -/
structure Walks (calls : List Sent) (taken : List Pager.Turn) (walk : Option (Pager σ)) : Prop where
  walk : ∃ pager, walk = some pager ∧ Pager.Turns environment { source } taken pager
  last : taken.flatMap (·.calls) <:+ calls

def Comes (raw : RawRow) (calls : List Sent) (cursor : Cursor σ) : Prop :=
  ∃ taken, Walks environment source calls taken cursor.pager ∧
    raw ∈ (Pager.pagesOf taken).flatMap (·.rows)

structure ReadsWalk (columns : List Column) (calls : List Sent) (cursor : Cursor σ) : Prop where
  same : cursor.columns = columns
  walks : ∃ taken, Walks environment source calls taken cursor.pager ∧
    (∃ page ∈ Pager.pagesOf taken, page.columns = columns) ∧
    cursor.buffer ⊆ (Pager.pagesOf taken).flatMap (·.rows)

end

variable {connection : Connection} {environment : Environment σ} {source : Source σ}
  {columns : List Column} {limit : Nat} {sql : String} {launch : Launch}
  {cursor opened after : Cursor σ} {world reached : World σ} {calls later : List Sent}
  {raw : RawRow}

theorem Walks.step {taken : List Pager.Turn} {pager next : Pager σ}
    {answer : Except Fault (Option Page)}
    (walks : Walks environment source calls taken cursor.pager)
    (atPager : cursor.pager = some pager)
    (stepped : pager.next environment world = (answer, next, reached)) :
    Walks environment source (calls ++ reached.since world)
      (taken ++ [⟨answer, reached.since world⟩]) (some next) := by
  obtain ⟨⟨other, isPager, turns⟩, earlier, rfl⟩ := walks
  cases isPager.symm.trans atPager
  refine ⟨⟨next, rfl, turns.next stepped⟩, earlier, ?_⟩
  rw [List.flatMap_append, List.flatMap_singleton, List.append_assoc]

private theorem Comes.step {pager next : Pager σ} {answer : Except Fault (Option Page)}
    (comes : Comes environment source raw calls cursor) (atPager : cursor.pager = some pager)
    (stepped : pager.next environment world = (answer, next, reached))
    (atNext : after.pager = some next) :
    Comes environment source raw (calls ++ reached.since world) after := by
  obtain ⟨taken, walks, member⟩ := comes
  refine ⟨_, atNext ▸ walks.step atPager stepped, ?_⟩
  rw [Pager.pagesOf_concat, List.flatMap_append]
  exact List.mem_append_left _ member

theorem carried_comes (environment : Environment σ) (source : Source σ) (raw : RawRow) :
    Carried environment (Comes environment source raw) where
  drawn _ _ comes := comes
  page comes atPager stepped := comes.step atPager stepped rfl
  failed comes atPager stepped := comes.step atPager stepped rfl

theorem carried_readsWalk (fresh : source.Fresh) :
    Carried environment (ReadsWalk environment source columns) where
  drawn _ fewer reads := by
    obtain ⟨same, taken, walks, named, inPages⟩ := reads
    exact ⟨same, taken, walks, named, List.Subset.trans fewer inPages⟩
  page {calls cursor pager next page world reached} reads atPager stepped := by
    obtain ⟨same, taken, walks, ⟨first, isFirst, named⟩, inPages⟩ := reads
    have walksOn := walks.step atPager stepped
    have pages : Pager.pagesOf (taken ++ [⟨.ok (some page), reached.since world⟩]) =
        Pager.pagesOf taken ++ [page] := Pager.pagesOf_concat ..
    obtain ⟨pager, -, turns⟩ := walksOn.walk
    obtain ⟨given, alike⟩ := turns.columns fresh
    rw [pages] at alike
    have samePage : page.columns = columns := by
      rw [alike page List.mem_concat_self, ← alike first (List.mem_append_left _ isFirst), named]
    refine ⟨?_, _, walksOn, ⟨page, pages ▸ List.mem_concat_self, samePage⟩, ?_⟩
    · change (if page.columns.isEmpty then cursor.columns else page.columns) = columns
      rw [same, samePage, ite_self]
    · rw [pages, List.flatMap_append, List.flatMap_singleton]
      exact List.append_subset.mpr
        ⟨List.subset_append_of_subset_left _ inPages, List.subset_append_right _ _⟩
  failed {calls cursor pager next fault world reached} reads atPager stepped := by
    obtain ⟨same, taken, walks, named, inPages⟩ := reads
    have pages : Pager.pagesOf (taken ++ [⟨.error fault, reached.since world⟩]) =
        Pager.pagesOf taken := by
      rw [Pager.pagesOf_concat]
      exact List.append_nil _
    refine ⟨same, _, walks.step atPager stepped, ?_, ?_⟩
    · rw [pages]
      exact named
    · rw [pages]
      exact inPages

theorem ReadsWalk.comes (reads : ReadsWalk environment source columns calls cursor)
    (buffered : raw ∈ cursor.buffer) : Comes environment source raw calls cursor := by
  obtain ⟨-, taken, walks, -, inPages⟩ := reads
  exact ⟨taken, walks, inPages buffered⟩

theorem ReadsWalk.isConversion_of_loads {fault : Fault} (fresh : source.Fresh)
    (reads : ReadsWalk environment source columns calls cursor)
    (loads : Loads environment cursor world (.error fault) after reached) :
    fault.isConversion = false := by
  obtain ⟨-, taken, ⟨⟨pager, isPager, turns⟩, -⟩, -⟩ := reads
  cases loads with
  | failed atPager stepped =>
      cases isPager.symm.trans atPager
      exact Pager.isConversion_of_next fresh turns stepped

/-- What a request for a row makes of one, a row of values or a fault of its own, it makes of a
row that has come. -/
theorem ReadsWalk.finds {answer : Except Fault (Option Row)} (found : Except Fault Row)
    (fresh : source.Fresh) (reads : ReadsWalk environment source columns calls cursor)
    (finds : Finds connection environment cursor world answer after reached)
    (isFound : answer = found.map some)
    (ofRow : ∀ fault, found = .error fault → fault.isConversion = true) :
    ∃ raw, Comes environment source raw (calls ++ reached.since world) after ∧
      Column.castRow connection.sentinels columns raw = found := by
  induction finds generalizing calls with
  | @row cursor world raw rest values buffered cast =>
      have member : raw ∈ cursor.buffer := by
        rw [buffered]
        exact List.mem_cons_self
      have comes := reads.comes member
      rw [reads.same] at cast
      rw [World.since_self, List.append_nil]
      cases found with
      | error fault => cases isFound
      | ok row =>
          cases isFound
          exact ⟨raw, comes, cast⟩
  | @badRow cursor world raw rest fault buffered cast =>
      have member : raw ∈ cursor.buffer := by
        rw [buffered]
        exact List.mem_cons_self
      have comes := reads.comes member
      rw [reads.same] at cast
      rw [World.since_self, List.append_nil]
      cases found with
      | error fault =>
          cases isFound
          exact ⟨raw, comes, cast⟩
      | ok row => cases isFound
  | nothing empty loads => cases found <;> cases isFound
  | @badPage cursor after world reached fault empty loads =>
      cases found with
      | error other =>
          cases isFound
          cases (ofRow fault rfl).symm.trans (reads.isConversion_of_loads fresh loads)
      | ok row => cases isFound
  | page empty loads rest induction =>
      rw [loads.preserves.leads.since_eq_append rest.preserves.leads, ← List.append_assoc]
      exact induction ((carried_readsWalk fresh).loads reads loads) isFound

structure Delivers (connection : Connection) (environment : Environment σ) (source : Source σ)
    (columns : List Column) (calls : List Sent) (cursor : Cursor σ) (answer : Delivery) :
    Prop where
  rows (rows : List Row) : answer = .ok rows → ∀ row ∈ rows, ∃ raw,
    Comes environment source raw calls cursor ∧
      Column.castRow connection.sentinels columns raw = .ok row
  fault (fault : Fault) : answer = .error fault → fault.isConversion = true → ∃ raw,
    Comes environment source raw calls cursor ∧
      Column.castRow connection.sentinels columns raw = .error fault

theorem ReadsWalk.gathers {wants : Nat → Prop} {answer : Delivery} (fresh : source.Fresh)
    (reads : ReadsWalk environment source columns calls cursor)
    (gathers : Gathers connection environment wants cursor world answer after reached) :
    Delivers connection environment source columns (calls ++ reached.since world) after
      answer := by
  induction gathers generalizing calls with
  | enough unasked | ended asked finds =>
      refine ⟨fun rows isRows row member => ?_, nofun⟩
      cases isRows
      cases member
  | @failed wants cursor after world reached fault asked finds =>
      refine ⟨nofun, fun _ isFault ofRow => ?_⟩
      cases isFault
      refine reads.finds (.error fault) fresh finds rfl fun other same => ?_
      cases same
      exact ofRow
  | @row wants cursor next after world middle reached row answer asked finds rest induction =>
      obtain ⟨raw, comes, cast⟩ := reads.finds (.ok row) fresh finds rfl nofun
      have later := induction ((carried_readsWalk fresh).finds reads finds)
      have comesStill := (carried_comes environment source raw).gathers comes rest
      rw [finds.preserves.leads.since_eq_append rest.preserves.leads, ← List.append_assoc]
      cases answer with
      | error fault =>
          exact ⟨nofun,
            fun other isFault => later.fault other (congrArg _ (Except.error.inj isFault))⟩
      | ok others =>
          refine ⟨fun rows isRows => ?_, nofun⟩
          cases isRows
          exact List.forall_mem_cons.mpr ⟨⟨raw, comesStill, cast⟩, later.rows others rfl⟩

theorem ReadsWalk.fetch {fetch : Fetch} {answer : Delivery} (fresh : source.Fresh)
    (reads : ReadsWalk environment source columns calls cursor)
    (fetched : cursor.fetch connection environment limit fetch world =
      some (answer, after, reached)) :
    Delivers connection environment source columns (calls ++ reached.since world) after
      answer := by
  rcases fetch_cases fetched with ⟨misuse, -, rfl, -, -⟩ | ⟨-, gathers⟩
  · refine ⟨nofun, fun fault isFault ofRow => ?_⟩
    cases isFault
    cases ofRow
  · exact reads.gathers fresh gathers

/-! ## Launches -/

theorem selectSource_fresh {token : Token} {execution : Execution}
    (selected : selectSource connection environment token execution world =
      (.ok source, reached)) : source.Fresh := by
  rcases selectSource_cases selected with ⟨file, rfl⟩ | ⟨service, rfl, unknown, -⟩
  · unfold selectSource BulkSource.prepare at selected
    dsimp only at selected
    split at selected
    · rename_i location object _ _ _
      rcases asked : BulkSource.askColumns environment location execution.subject
          connection.config.retryPolicy token world with ⟨fault | given, settled⟩
      · rw [asked] at selected
        cases selected
      · rw [asked] at selected
        cases selected
        exact .bulk rfl rfl
    · cases selected
  · exact .direct unknown

theorem readsWalk_of_launch
    (launched : cursor.launch connection environment limit sql launch world =
      some (.ok (), opened, reached)) :
    ∃ source : Source σ, source.Fresh ∧ ∃ given, opened.columns = Column.normalize given ∧
      ReadsWalk environment source opened.columns (reached.since world) opened := by
  obtain @⟨ready, inner, token, last, source, settled, middle, reached, settles, selected,
    isRecord, opens⟩ := opening_of_launch launched
  have fresh := selectSource_fresh selected
  obtain ⟨page, pager, stepped, rfl⟩ := openResults_cases opens
  have turns := Pager.Turns.nothing.next stepped
  have pages : Pager.pagesOf ([] ++ [⟨.ok (some page), reached.since middle⟩]) = [page] := rfl
  obtain ⟨given, named⟩ := turns.columns fresh
  have leads := openResults_reads environment source ready middle
  rw [opens] at leads
  have selects := selectSource_reads connection environment token last settled
  rw [selected] at selects
  have calls : reached.since world = middle.since world ++ reached.since middle :=
    (settles.leads.trans selects.leads).since_eq_append leads.leads
  refine ⟨source, fresh, given, named page List.mem_cons_self, rfl, _, ⟨⟨pager, rfl, turns⟩, ?_⟩,
    ⟨page, List.mem_cons_self, rfl⟩, ?_⟩
  · rw [calls, List.nil_append, List.flatMap_singleton]
    exact List.suffix_append _ _
  · rw [pages, List.flatMap_singleton]
    exact List.Subset.refl _

structure ReadsRows (connection : Connection) (environment : Environment σ) : Prop where
  exact (sentinels : Sentinels) (columns : List Column) (cells : RawRow)
    (answer : Except Fault Row) :
    Column.castRow sentinels columns cells = answer ↔
      Column.RowRead sentinels columns cells answer
  padded (sentinels : Sentinels) (columns : List Column) (cells : RawRow) (row : Row)
    (position : Nat) :
    Column.castRow sentinels columns cells = .ok row → cells.length ≤ position →
      position < columns.length → row[position]? = some .null
  named (sentinels : Sentinels) (given : List Column) (cells : RawRow) (fault : Fault) :
    Column.castRow sentinels (Column.normalize given) cells = .error fault →
      Column.NamesCell sentinels (Column.normalize given) cells fault
  /-- A fault of a row that is fetched names a cell of a row that has come. -/
  fetched : ∀ {limit sql launch cursor opened} {world reached : World σ},
    Cursor.launch connection environment limit sql launch cursor world =
      some (.ok (), opened, reached) →
    ∃ source : Source σ, ∀ {later fetchLimit fetch answer after final} {middle last : World σ},
      Fetched connection environment opened later after →
      after.fetch connection environment fetchLimit fetch middle = some (answer, final, last) →
        Delivers connection environment source opened.columns
          (reached.since world ++ later ++ last.since middle) final answer ∧
        ∀ fault, answer = .error fault → fault.isConversion = true → ∃ cells,
          Comes environment source cells (reached.since world ++ later ++ last.since middle)
            final ∧
          Column.NamesCell connection.sentinels opened.columns cells fault

theorem readsRows (connection : Connection) (environment : Environment σ) :
    ReadsRows connection environment where
  exact _ _ _ _ := Column.castRow_eq_iff
  padded sentinels columns cells row position isRow missing isColumn := by
    cases Column.castRow_eq_iff.mp isRow with
    | row fits casts => exact casts.padded missing isColumn
  named _ _ _ _ := Column.namesCell_of_castRow
  fetched launched := by
    obtain ⟨source, fresh, given, columns, reads⟩ := readsWalk_of_launch launched
    refine ⟨source, fun fetched answers => ?_⟩
    have readsStill := (carried_readsWalk fresh).fetched reads fetched
    have delivers := readsStill.fetch fresh answers
    refine ⟨delivers, fun fault isFault ofRow => ?_⟩
    obtain ⟨cells, comes, failed⟩ := delivers.fault fault isFault ofRow
    rw [columns] at failed ⊢
    exact ⟨cells, comes, Column.namesCell_of_castRow failed⟩

/-- The first row has a cell too few, and the second cell of the second row is no date. -/
def unevenWorld : World Rehearsal.Script :=
  { outside :=
      { submissions := [{ outcome := .ok "q1" }]
        statuses := [{ outcome := .ok { state := .succeeded } }]
        pages :=
          [(none,
            { columns := [.ofType "a" "integer", .ofType "a" "date"]
              rows := [[some "1"], [some "2", some "x"]]
              nextToken := none })] }
    nextToken := 1 }

theorem readsRows_uneven :
    ∃ opened reached after middle final last reason,
      Cursor.launch { config := {}, sentinels := {} } (Rehearsal.environment false default) 1
        "SELECT a, a FROM t" .own { token := ⟨0⟩, fetchSize := 1000 } unevenWorld =
          some (.ok (), opened, reached) ∧
      opened.fetch { config := {}, sentinels := {} } (Rehearsal.environment false default) 3 .one
        reached = some (.ok [[.integer 1, .null]], after, middle) ∧
      after.fetch { config := {}, sentinels := {} } (Rehearsal.environment false default) 3 .one
        middle = some (.error (.conversion 2 "date" "x" reason), final, last) ∧
      ∃ cells, Column.NamesCell {} opened.columns cells (.conversion 2 "date" "x" reason) := by
  have session : ∃ opened reached after middle final last reason,
      Cursor.launch { config := {}, sentinels := {} } (Rehearsal.environment false default) 1
        "SELECT a, a FROM t" .own { token := ⟨0⟩, fetchSize := 1000 } unevenWorld =
          some (.ok (), opened, reached) ∧
      opened.fetch { config := {}, sentinels := {} } (Rehearsal.environment false default) 3 .one
        reached = some (.ok [[.integer 1, .null]], after, middle) ∧
      after.fetch { config := {}, sentinels := {} } (Rehearsal.environment false default) 3 .one
        middle = some (.error (.conversion 2 "date" "x" reason), final, last) :=
    ⟨_, _, _, _, _, _, _, rfl, rfl, rfl⟩
  obtain ⟨opened, reached, after, middle, final, last, reason, launched, fetched, fails⟩ := session
  obtain ⟨source, reads⟩ := (readsRows _ _).fetched launched
  obtain ⟨cells, -, names⟩ := (reads (.fetch .nothing fetched) fails).2 _ rfl rfl
  exact ⟨opened, reached, after, middle, final, last, reason, launched, fetched, fails, cells, names⟩

end Cursor

end RemoteQuery
