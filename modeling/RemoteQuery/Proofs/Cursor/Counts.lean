import RemoteQuery.Proofs.Cursor.Opening
import RemoteQuery.Proofs.Cursor.Reading
import RemoteQuery.Proofs.Lifecycle
import RemoteQuery.Proofs.Results.Passage

/-! # Counts of changed rows

How many rows a query has changed can be told by the news of its state and by each part of
its results. A cursor shows the greatest count that it was told, wherever that came from.
Where the columns of a result file are asked for by a part of the results, the count of this
part is lost.
-/

namespace RemoteQuery

open Calendar (Duration Instant)

variable {σ : Type}

/-! ## Counts in calls -/

def Sent.status? (sent : Sent) : Option Status :=
  sent.news?.map Prod.snd

/-- The news up to the end of the query. -/
def Status.upToEnd : List Status → List Status
  | [] => []
  | status :: later => if status.state.isTerminal then [status] else status :: upToEnd later

def countsOfNews (calls : List Sent) : List UInt64 :=
  (Status.upToEnd (calls.filterMap Sent.status?)).filterMap (·.updateCount)

def countsOfParts (calls : List Sent) : List UInt64 :=
  (calls.filterMap Sent.part?).filterMap (·.updateCount)

@[simp] theorem countsOfParts_nil : countsOfParts [] = [] := rfl

@[simp] theorem countsOfParts_append (left right : List Sent) :
    countsOfParts (left ++ right) = countsOfParts left ++ countsOfParts right := by
  simp [countsOfParts]

namespace Execution

theorem max?_concat (counts : List UInt64) (count : UInt64) :
    (counts ++ [count]).max? = some (greatest count counts.max?) := by
  cases counts with
  | nil => rfl
  | cons first later =>
      rw [List.cons_append, List.max?_cons', List.max?_cons', List.foldl_append]
      rfl

variable {execution : Execution} {wallClock : Duration → Instant}

theorem updateCount_of_ended (ended : execution.isTerminal = true)
    (news : List (Duration × Status)) :
    (news.foldl (fun execution news => execution.applyStatus news.2 (wallClock news.1))
      execution).updateCount = execution.updateCount := by
  induction news generalizing execution with
  | nil => rfl
  | cons news later induction =>
      have stays : execution.applyStatus news.2 (wallClock news.1) =
          { execution with location := execution.location.or news.2.location } :=
        if_pos ended
      rw [List.foldl_cons, stays]
      have endedToo : ({ execution with location := execution.location.or news.2.location } :
          Execution).isTerminal = true := ended
      exact induction endedToo

theorem updateCount_foldl {counts : List UInt64} (undecided : execution.isTerminal = false)
    (known : execution.updateCount = counts.max?) (news : List (Duration × Status)) :
    (news.foldl (fun execution news => execution.applyStatus news.2 (wallClock news.1))
      execution).updateCount =
      (counts ++ (Status.upToEnd (news.map Prod.snd)).filterMap (·.updateCount)).max? := by
  induction news generalizing execution counts with
  | nil => simp [Status.upToEnd, known]
  | cons first later induction =>
      obtain ⟨time, status⟩ := first
      have advances : execution.applyStatus status (wallClock time) =
          execution.advance status (wallClock time) :=
        if_neg (Bool.eq_false_iff.mp undecided)
      have counted : (execution.advance status (wallClock time)).updateCount =
          (counts ++ status.updateCount.toList).max? := by
        rw [advance, known]
        cases status.updateCount with
        | none => rw [Option.toList_none, List.append_nil]
        | some count => exact (max?_concat counts count).symm
      have decided : (execution.advance status (wallClock time)).isTerminal =
          status.state.isTerminal := rfl
      have split (later : List Status) : (status :: later).filterMap (·.updateCount) =
          status.updateCount.toList ++ later.filterMap (·.updateCount) := by
        cases found : status.updateCount <;> simp [found]
      rw [List.foldl_cons, advances, List.map_cons, Status.upToEnd]
      cases ended : status.state.isTerminal with
      | true =>
          rw [updateCount_of_ended (decided.trans ended), counted, if_pos rfl, split,
            List.filterMap_nil, List.append_nil]
      | false =>
          rw [induction (decided.trans ended) counted, if_neg Bool.false_ne_true, split,
            List.append_assoc]

theorem updateCount_told (undecided : execution.isTerminal = false)
    (unknown : execution.updateCount = none) (calls : List Sent) :
    (execution.told wallClock calls).updateCount = (countsOfNews calls).max? := by
  have statuses : (calls.filterMap Sent.news?).map Prod.snd = calls.filterMap Sent.status? :=
    List.map_filterMap
  have none : execution.updateCount = ([] : List UInt64).max? := unknown
  rw [told, updateCount_foldl undecided none, statuses, List.nil_append]
  rfl

end Execution

/-! ## Counts of pages -/

theorem countsOfParts_of_unasked {calls : List Sent}
    (unasked : ∀ sent ∈ calls, ∀ queryId token maxRows,
      sent.call ≠ .results queryId token maxRows) : countsOfParts calls = [] := by
  rw [countsOfParts, Sent.parts_of_unasked unasked, List.filterMap_nil]

theorem statuses_of_unchecked {calls : List Sent}
    (unchecked : ∀ sent ∈ calls, ∀ queryId, sent.call ≠ .status queryId) :
    calls.filterMap Sent.status? = [] := by
  rw [List.filterMap_eq_nil_iff]
  intro sent member
  have other := unchecked sent member
  unfold Sent.status? Sent.news?
  split
  · exact absurd rfl (other _)
  · rfl

theorem countsOfNews_append {left right : List Sent}
    (unchecked : ∀ sent ∈ right, ∀ queryId, sent.call ≠ .status queryId) :
    countsOfNews (left ++ right) = countsOfNews left := by
  rw [countsOfNews, List.filterMap_append, statuses_of_unchecked unchecked, List.append_nil]
  rfl

theorem World.Reads.unchecked {earlier later : World σ} (reads : earlier.Reads later) :
    ∀ sent ∈ later.since earlier, ∀ queryId, sent.call ≠ .status queryId := by
  intro sent member queryId same
  have isRead := reads.calls sent.call (List.mem_map_of_mem member)
  rw [same] at isRead
  cases isRead

theorem BulkSource.fetch_calls {environment : Environment σ} {source after : BulkSource σ}
    {token : Option String} {world reached : World σ} {answer : Except Fault Page}
    (fetched : source.fetch environment token world = (answer, after, reached)) :
    ∀ sent ∈ reached.since world, sent.call = .object source.location.uri := by
  cases token with
  | none =>
      have tried : ∀ sent ∈ (source.askFile environment world).2.since world,
          sent.call = .object source.location.uri :=
        (source.retry.run_tried environment source.subject.scope source.token
          (.object source.location.uri) (source.object source.location.uri) world).call_eq
      rcases asked : source.askFile environment world with ⟨fault | download, settled⟩
      · rw [fetch_none_of_error asked] at fetched
        cases fetched
        rwa [asked] at tried
      · rw [fetch_none asked] at fetched
        cases fetched
        rwa [asked] at tried
  | some token =>
      have silent : reached = world := by
        by_cases latest : source.stream.map (·.pageToken) = some token
        · rcases Option.map_eq_some_iff.mp latest with ⟨stream, isOpen, rfl⟩
          rw [fetch_latest isOpen] at fetched
          exact (Prod.mk.inj (Prod.mk.inj fetched).2).2.symm
        · rw [fetch_stale latest] at fetched
          exact (Prod.mk.inj (Prod.mk.inj fetched).2).2.symm
      rw [silent, World.since_self]
      intro sent member
      cases member

theorem BulkSource.fetch_counts {environment : Environment σ} {source after : BulkSource σ}
    {token : Option String} {world reached : World σ} {answer : Except Fault Page}
    (fetched : source.fetch environment token world = (answer, after, reached)) :
    countsOfParts (reached.since world) = [] ∧
      ∀ page, answer = .ok page → page.updateCount = none := by
  constructor
  · apply countsOfParts_of_unasked
    intro sent member queryId token maxRows same
    cases (fetch_calls fetched sent member).symm.trans same
  · rintro page rfl
    rcases fetch_cases fetched with ⟨fault, wrong, -⟩ | ⟨stream, turned, -⟩
    · cases wrong
    · cases coming : stream.toCome with
      | nil =>
          rw [nextPage_of_nothing source coming] at turned
          cases turned
          rfl
      | cons batch rest =>
          cases batch with
          | ok rows =>
              rw [nextPage_of_rows source coming] at turned
              cases turned
              rfl
          | error fault =>
              rw [nextPage_of_error source coming] at turned
              cases turned

namespace Pager

variable {environment : Environment σ} {pager after : Pager σ} {world reached : World σ}

theorem fetch_counts {source next : Source σ} {token : Option String}
    {answer : Except Fault Page}
    (fetched : source.fetch environment token world = (answer, next, reached)) :
    countsOfParts (reached.since world) = (answer.toOption.bind (·.updateCount)).toList := by
  cases source with
  | direct source =>
      rcases settled : source.fetch environment token world with ⟨result, other, last⟩
      rw [Source.fetch, settled] at fetched
      cases fetched
      rcases DirectSource.fetch_cases settled with ⟨part, rfl, -, tried⟩ | ⟨fault, rfl, -, tried⟩
      · rw [countsOfParts, tried.parts]
        change [part].filterMap (·.updateCount) = part.updateCount.toList
        cases found : part.updateCount <;> simp [found]
      · rw [countsOfParts, tried.parts]
        rfl
  | bulk source =>
      rcases settled : source.fetch environment token world with ⟨result, other, last⟩
      rw [Source.fetch, settled] at fetched
      cases fetched
      obtain ⟨noParts, noCount⟩ := BulkSource.fetch_counts settled
      rw [noParts]
      cases answer with
      | error fault => rfl
      | ok page =>
          change [] = page.updateCount.toList
          rw [noCount page rfl, Option.toList_none]

theorem next_counts {answer : Except Fault (Option Page)}
    (stepped : pager.next environment world = (answer, after, reached)) :
    countsOfParts (reached.since world) =
      (answer.toOption.join.bind (·.updateCount)).toList := by
  unfold next at stepped
  split at stepped
  · cases stepped
    rw [World.since_self]
    rfl
  · split at stepped
    · rename_i page source settled fetched
      cases stepped
      exact fetch_counts fetched
    · rename_i fault source settled fetched
      cases stepped
      exact fetch_counts fetched

end Pager

/-! ## Counts of a cursor -/

namespace Cursor

variable {connection : Connection} {environment : Environment σ} {limit : Nat} {sql : String}
  {launch : Launch} {cursor opened before after : Cursor σ} {world reached : World σ}
  {start : Execution} {counts : List UInt64} {calls more : List Sent}

/-- A cursor's record has come of an earlier one, and its count is the greatest of some counts
and of those in the calls for parts of the results. -/
def Tells (start : Execution) (counts : List UInt64) (calls : List Sent) (cursor : Cursor σ) :
    Prop :=
  ∃ execution, cursor.execution = some execution ∧ start.Continues execution ∧
    execution.location = start.location ∧
    execution.updateCount = (counts ++ countsOfParts calls).max?

theorem Tells.page (tells : Tells start counts calls cursor) {page : Page}
    (brought : countsOfParts more = page.updateCount.toList) :
    Tells start counts (calls ++ more) (cursor.recordUpdateCount page) := by
  obtain ⟨execution, isRecord, continues, sameLocation, known⟩ := tells
  rw [Tells, countsOfParts_append, brought]
  unfold recordUpdateCount
  split
  · rename_i count told
    refine ⟨execution.recordUpdateCount count, ?_,
      continues.trans (Execution.continues_recordUpdateCount count), sameLocation, ?_⟩
    · rw [isRecord, Option.map_some]
    · rw [told, Option.toList_some, ← List.append_assoc, Execution.max?_concat, ← known]
      rfl
  · rename_i untold
    refine ⟨execution, isRecord, continues, sameLocation, ?_⟩
    rw [untold, Option.toList_none, List.append_nil, known]

theorem carried_tells (environment : Environment σ) (start : Execution) (counts : List UInt64) :
    Carried environment (Tells (σ := σ) start counts) where
  drawn _ _ tells := tells
  page tells _ stepped := tells.page (Pager.next_counts stepped)
  failed {calls cursor pager next fault world reached} tells _ stepped := by
    have noCounts : countsOfParts (reached.since world) = [] := Pager.next_counts stepped
    rw [Tells, countsOfParts_append, noCounts, List.append_nil]
    exact tells

theorem openResults_tells {source : Source σ} (tells : Tells start counts calls cursor)
    (opens : openResults environment source cursor world = (.ok (), opened, reached)) :
    Tells start counts (calls ++ reached.since world) opened := by
  obtain ⟨page, pager, stepped, rfl⟩ := openResults_cases opens
  exact tells.page (Pager.next_counts stepped)

/-! ## Launches -/

/-- The rows come from a file, and the columns from a part of the results, as the file
belongs to no table. -/
structure ReadsBareFile (connection : Connection) (environment : Environment σ)
    (execution : Execution) : Prop where
  wanted : connection.config.resultFormat = .bulk
  possible : environment.object.isSome = true
  noTable : ∃ location, execution.location = some location ∧ location.table = none

theorem Settles.known {last : Execution} {settled : World σ}
    (settles : Settles environment world last settled) :
    last.updateCount = (countsOfNews (settled.since world)).max? := by
  obtain ⟨fresh, undecided, uncounted, rfl⟩ := settles.record
  exact Execution.updateCount_told undecided uncounted _

theorem Settles.noCounts {last : Execution} {settled : World σ}
    (settles : Settles environment world last settled) :
    countsOfParts (settled.since world) = [] := by
  rw [countsOfParts, settles.noParts, List.filterMap_nil]

private theorem selectSource_counts {token : Token} {execution : Execution}
    {source : Except Fault (Source σ)}
    (selected : selectSource connection environment token execution world = (source, reached))
    (notBare : ¬ReadsBareFile connection environment execution) :
    countsOfParts (reached.since world) = [] := by
  unfold selectSource at selected
  dsimp only at selected
  split at selected
  · rename_i location object wanted atLocation store
    have noneBare : ∀ table, location.table = table → table ≠ none := by
      rintro table isTable rfl
      exact notBare ⟨wanted, by rw [store]; rfl, location, atLocation, isTable⟩
    cases isTable : location.table with
    | none => exact absurd rfl (noneBare none isTable)
    | some table =>
        have tried := (connection.config.retryPolicy.run_tried environment
          execution.subject.scope token (.schema table) (environment.schema table) world).call_eq
        apply countsOfParts_of_unasked
        intro sent member queryId given maxRows same
        have asked : reached = (BulkSource.askColumns environment location execution.subject
          connection.config.retryPolicy token world).2 := by cases selected; rfl
        rw [asked, BulkSource.askColumns, isTable] at member
        cases (tried sent member).symm.trans same
  · cases selected
    rw [World.since_self, countsOfParts_nil]

private theorem selectSource_bare {token : Token} {execution : Execution} {source : Source σ}
    (selected : selectSource connection environment token execution world = (.ok source, reached))
    (bare : ReadsBareFile connection environment execution) : ∃ file, source = .bulk file := by
  rcases selectSource_cases selected with isFile | ⟨-, -, -, -, impossible⟩
  · exact isFile
  · obtain ⟨location, atLocation, -⟩ := bare.noTable
    exact absurd ⟨bare.wanted, by rw [atLocation]; rfl, bare.possible⟩ impossible

/-! ## Files -/

def Files (calls : List Sent) (cursor : Cursor σ) : Prop :=
  countsOfParts calls = [] ∧ ∃ pager file, cursor.pager = some pager ∧ pager.source = .bulk file

private theorem next_files {pager next : Pager σ} {file : BulkSource σ}
    {answer : Except Fault (Option Page)} (atSource : pager.source = .bulk file)
    (stepped : pager.next environment world = (answer, next, reached)) :
    countsOfParts (reached.since world) = [] ∧ ∃ file, next.source = .bulk file := by
  cases ended : pager.exhausted with
  | true =>
      rw [Pager.next_of_exhausted ended] at stepped
      cases stepped
      exact ⟨by rw [World.since_self, countsOfParts_nil], file, atSource⟩
  | false =>
      obtain ⟨fetched, other, fetches, atNext, -⟩ := Pager.next_cases atSource ended stepped
      exact ⟨(BulkSource.fetch_counts fetches).1, other, atNext⟩

private theorem Files.step (files : Files calls cursor) {pager next : Pager σ}
    {answer : Except Fault (Option Page)} (atPager : cursor.pager = some pager)
    (stepped : pager.next environment world = (answer, next, reached))
    (atNext : after.pager = some next) : Files (calls ++ reached.since world) after := by
  obtain ⟨noCounts, same, file, isPager, atSource⟩ := files
  cases isPager.symm.trans atPager
  obtain ⟨noMore, other, stillFile⟩ := next_files atSource stepped
  refine ⟨?_, next, other, atNext, stillFile⟩
  rw [countsOfParts_append, noCounts, noMore, List.append_nil]

theorem carried_files (environment : Environment σ) :
    Carried environment (Files (σ := σ)) where
  drawn _ _ files := files
  page files atPager stepped := files.step atPager stepped rfl
  failed files atPager stepped := files.step atPager stepped rfl

private theorem openResults_files {file : BulkSource σ}
    (opens : openResults environment (.bulk file) cursor world = (.ok (), opened, reached)) :
    Files (reached.since world) opened := by
  obtain ⟨page, pager, stepped, rfl⟩ := openResults_cases opens
  obtain ⟨noCounts, other, atNext⟩ := next_files rfl stepped
  exact ⟨noCounts, pager, other, rfl, atNext⟩

/-! ## All counts -/

structure Counted (connection : Connection) (environment : Environment σ)
    (execution : Execution) (calls : List Sent) (before after : Cursor σ) : Prop where
  isRecord : before.execution = some execution
  /-- The greatest count that any news or any part told. -/
  all : ¬ReadsBareFile connection environment execution →
    before.rowCount connection = (countsOfNews calls ++ countsOfParts calls).max?
  /-- The part by which the columns of a file are asked for is left out. -/
  news : ReadsBareFile connection environment execution →
    before.rowCount connection = (countsOfNews calls).max?
  grows : ∀ count, before.rowCount connection = some count →
    ∃ greater, after.rowCount connection = some greater ∧ count ≤ greater

theorem rowCount_of_execution (reports : connection.config.reportCounters = true)
    {execution : Execution} (isRecord : cursor.execution = some execution) :
    cursor.rowCount connection = execution.updateCount := by
  rw [rowCount, counted, if_pos reports, isRecord, Option.bind_some]

theorem Fetched.unchecked (fetched : Fetched connection environment opened calls after) :
    ∀ sent ∈ calls, ∀ queryId, sent.call ≠ .status queryId := by
  have reads {pager next : Pager σ} {world reached : World σ}
      {answer : Except Fault (Option Page)} {calls : List Sent}
      (earlier : ∀ sent ∈ calls, ∀ queryId, sent.call ≠ .status queryId)
      (stepped : pager.next environment world = (answer, next, reached)) :
      ∀ sent ∈ calls ++ reached.since world, ∀ queryId, sent.call ≠ .status queryId := by
    intro sent member
    have steps := Pager.next_reads environment pager world
    rw [stepped] at steps
    exact (List.mem_append.mp member).elim (earlier sent) (steps.unchecked sent)
  have carried : Carried environment fun (calls : List Sent) (_ : Cursor σ) =>
      ∀ sent ∈ calls, ∀ queryId, sent.call ≠ .status queryId :=
    ⟨fun _ _ holds => holds, fun holds _ stepped => reads holds stepped,
      fun holds _ stepped => reads holds stepped⟩
  have nothing : ∀ sent ∈ ([] : List Sent), ∀ queryId, sent.call ≠ .status queryId :=
    fun sent member => nomatch member
  exact carried.fetched nothing fetched

theorem Fetched.grows {execution : Execution}
    (fetched : Fetched connection environment before more after)
    (reports : connection.config.reportCounters = true)
    (isRecord : before.execution = some execution) (known : execution.updateCount = counts.max?) :
    ∀ count, before.rowCount connection = some count →
      ∃ greater, after.rowCount connection = some greater ∧ count ≤ greater := by
  have tells : Tells execution counts [] before :=
    ⟨execution, isRecord, .refl execution, rfl, by
      rw [countsOfParts_nil, List.append_nil, known]⟩
  obtain ⟨later, isLater, continues, -⟩ := (carried_tells environment _ _).fetched tells fetched
  rw [rowCount_of_execution reports isRecord, rowCount_of_execution reports isLater]
  exact continues.updateCount

/-- Behind the end of the query there is no news, and before it there are no parts. -/
private theorem counts_of_settles {last : Execution} {settled middle : World σ}
    {later : List Sent} (settles : Settles environment world last settled)
    (selects : settled.Reads middle) (reads : middle.Reads reached)
    (unchecked : ∀ sent ∈ later, ∀ queryId, sent.call ≠ .status queryId) :
    countsOfNews (reached.since world ++ later) = countsOfNews (settled.since world) ∧
      countsOfParts (reached.since world ++ later) =
        countsOfParts (middle.since settled) ++ countsOfParts (reached.since middle ++ later) := by
  have calls : reached.since world ++ later =
      settled.since world ++ (middle.since settled ++ (reached.since middle ++ later)) := by
    rw [settles.leads.since_eq_append (selects.trans reads).leads,
      selects.leads.since_eq_append reads.leads]
    simp only [List.append_assoc]
  rw [calls]
  constructor
  · apply countsOfNews_append
    intro sent member
    rcases List.mem_append.mp member with selecting | reading
    · exact selects.unchecked sent selecting
    · exact (List.mem_append.mp reading).elim (reads.unchecked sent) (unchecked sent)
  · rw [countsOfParts_append, settles.noCounts, List.nil_append, countsOfParts_append]

/-- However a query is run and its rows are fetched, the cursor tells the greatest of all
counts of changed rows that it was told, but for that of the part by which the columns of a
file without a table are asked for. -/
theorem rowCount_counted {later : List Sent} (reports : connection.config.reportCounters = true)
    (launched : cursor.launch connection environment limit sql launch world =
      some (.ok (), opened, reached))
    (fetched : Fetched connection environment opened later before)
    (further : Fetched connection environment before more after) :
    ∃ execution, Counted connection environment execution (reached.since world ++ later) before
      after := by
  obtain @⟨ready, inner, token, last, source, settled, middle, reached, settles, selected,
    isRecord, opens⟩ := opening_of_launch launched
  have selects := selectSource_reads connection environment token last settled
  have reads := openResults_reads environment source ready middle
  rw [selected] at selects
  rw [opens] at reads
  obtain ⟨sameNews, sameParts⟩ := counts_of_settles settles selects reads fetched.unchecked
  have begins : Tells last (countsOfNews (settled.since world)) [] ready :=
    ⟨last, isRecord, .refl last, rfl, by rw [countsOfParts_nil, List.append_nil, settles.known]⟩
  have opening := (carried_tells environment _ _).drawn .consumable (List.Subset.refl _)
    (openResults_tells begins opens)
  obtain ⟨execution, isCurrent, continues, sameLocation, counts⟩ :=
    (carried_tells environment _ _).fetched opening fetched
  have bareIff : ReadsBareFile connection environment execution ↔
      ReadsBareFile connection environment last := by
    constructor <;> rintro ⟨wanted, possible, noTable⟩ <;>
      exact ⟨wanted, possible, sameLocation ▸ noTable⟩
  refine ⟨execution, isCurrent, ?_, ?_, further.grows reports isCurrent counts⟩
  · intro notBare
    rw [rowCount_of_execution reports isCurrent, counts, sameNews, sameParts,
      selectSource_counts selected (mt bareIff.mpr notBare)]
    rfl
  · intro bare
    obtain ⟨file, rfl⟩ := selectSource_bare selected (bareIff.mp bare)
    have opening := (carried_files environment).drawn .consumable (List.Subset.refl _)
      (openResults_files opens)
    have files := (carried_files environment).fetched opening fetched
    rw [rowCount_of_execution reports isCurrent, counts, sameNews, List.nil_append, files.1,
      List.append_nil]

/-! ### Counts in the news and in two parts, and a count that is lost -/

/-- The news tells a count of two, the first part one of five and the second part of three. -/
def changedRows : World Rehearsal.Script :=
  { outside :=
      { submissions := [{ outcome := .ok "q1" }]
        statuses := [{ outcome := .ok { state := .succeeded, updateCount := some 2 } }]
        pages := [
          (none, { columns := [], rows := [], nextToken := some "2", updateCount := some 5 }),
          (some "2", { columns := [], rows := [], nextToken := none, updateCount := some 3 })] }
    nextToken := 1 }

theorem rowCount_counted_twoParts :
    ∃ opened reached after last,
      Cursor.launch { config := {}, sentinels := {} } (Rehearsal.environment false default) 1
        "UPDATE t" .own { token := ⟨0⟩, fetchSize := 1000 } changedRows =
          some (.ok (), opened, reached) ∧
      opened.fetch { config := {}, sentinels := {} } (Rehearsal.environment false default) 2 .all
        reached = some (.ok [], after, last) ∧
      after.rowCount { config := {}, sentinels := {} } = some 5 ∧
      ∃ execution, Counted { config := {}, sentinels := {} } (Rehearsal.environment false default)
        execution (reached.since changedRows ++ ([] ++ last.since reached)) after after := by
  have session : ∃ opened reached after last,
      Cursor.launch { config := {}, sentinels := {} } (Rehearsal.environment false default) 1
        "UPDATE t" .own { token := ⟨0⟩, fetchSize := 1000 } changedRows =
          some (.ok (), opened, reached) ∧
      opened.fetch { config := {}, sentinels := {} } (Rehearsal.environment false default) 2 .all
        reached = some (.ok [], after, last) ∧
      after.rowCount { config := {}, sentinels := {} } = some 5 :=
    ⟨_, _, _, _, rfl, rfl, rfl⟩
  obtain ⟨opened, reached, after, last, launched, fetched, shown⟩ := session
  exact ⟨opened, reached, after, last, launched, fetched, shown,
    rowCount_counted rfl launched (.fetch .nothing fetched) .nothing⟩

/-- The rows are in a file without a table, and the part that names its columns tells a count. -/
def changedRowsInFile : World Rehearsal.Script :=
  { outside :=
      { submissions := [{ outcome := .ok "q1" }]
        statuses := [{ outcome := .ok { state := .succeeded, location := some (.ofUri "q.csv") } }]
        pages := [
          (none, { columns := [], rows := [], nextToken := none, updateCount := some 3 })]
        objects := [("q.csv", { pieces := [] })] }
    nextToken := 1 }

theorem rowCount_lost :
    let connection : Connection := { config := { resultFormat := .bulk }, sentinels := {} }
    ∃ opened reached,
      Cursor.launch connection (Rehearsal.environment true default) 1
        "CREATE TABLE t AS SELECT 1" .own { token := ⟨0⟩, fetchSize := 1000 } changedRowsInFile =
          some (.ok (), opened, reached) ∧
      connection.config.reportCounters = true ∧
      countsOfParts (reached.since changedRowsInFile) = [3] ∧
      opened.rowCount connection = none :=
  ⟨_, _, rfl, rfl, rfl, rfl⟩

end Cursor

end RemoteQuery
