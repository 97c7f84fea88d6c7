import RemoteQuery.Proofs.Cursor.Delivery
import RemoteQuery.Proofs.Results.Table

/-! # The file and the service bring the same rows

If the service and the store have the same table, then it does not matter to a cursor from
which of them the rows are read: fetching all rows gives the same values, or fails on the
same row.
-/

namespace RemoteQuery

variable {σ : Type}

/-! ## All rows of a feed -/

private theorem mapM_append {ε α : Type} (rows : List α) (rest : List (Except ε α)) :
    (rows.map Except.ok ++ rest).mapM id = (rest.mapM id).map (rows ++ ·) := by
  induction rows with
  | nil =>
      rw [List.map_nil, List.nil_append]
      cases rest.mapM id <;> rfl
  | cons row rows induction =>
      rw [List.map_cons, List.cons_append, List.mapM_cons, induction]
      cases rest.mapM id <;> rfl

theorem Feed.Serves.eq_mapM {wants : Nat → Prop} {feed : Feed} {answer : Delivery}
    {left : Option Feed} (serves : feed.Serves wants answer left) (all : ∀ before, wants before)
    (ends : feed.ending = none) : answer = feed.rows.mapM id := by
  cases serves with
  | @rows rows rest ending asked whole =>
      rcases whole (all _) with ⟨rfl, rfl⟩
      rw [mapM_append]
      exact congrArg Except.ok (List.append_nil rows).symm
  | @fault feed rows fault rest asked reached =>
      rw [items, ends, Option.toList_none, List.map_nil, List.append_nil] at reached
      rw [reached, mapM_append]
      rfl

namespace Cursor

variable {connection : Connection} {environment : Environment σ} {limit : Nat}

theorem openResults_of_readAll {source : Source σ} {world : World σ} {page : Page}
    {later : List Page} {ending : Option Fault}
    (read : Pager.readAll environment limit { source } world = some (page :: later, ending))
    (cursor : Cursor σ) :
    ∃ after reached, openResults environment source cursor world = (.ok (), after, reached) := by
  cases limit with
  | zero => cases read
  | succ limit =>
      unfold Pager.readAll at read
      unfold openResults
      rcases stepped : Pager.next environment { source } world with
        ⟨fault | _ | page, pager, settled⟩
      · rw [stepped] at read
        cases read
      · rw [stepped] at read
        cases read
      · exact ⟨_, _, rfl⟩

theorem launch_of_openResults {sql : String} {launch : Launch} {cursor : Cursor σ}
    {world sourced : World σ} {source : Source σ} {execution : Option Execution}
    (notClosed : cursor.state ≠ .closed)
    (found : reachResults connection environment limit sql (cursor.tokenFor world launch).1
      (cursor.tokenFor world launch).2 = some (.ok source, execution, sourced)) :
    ∃ fresh : Cursor σ, (fresh.buffer = [] ∧ fresh.columns = []) ∧
      ∀ after reached, openResults environment source fresh sourced = (.ok (), after, reached) →
        cursor.launch connection environment limit sql launch world =
          some (.ok (), { after with state := .consumable }, reached) := by
  rcases cursor.launch_eq connection environment limit sql launch world with
    ⟨ready, sameState, -, same⟩
  refine ⟨{ ready.reset with state := .executing, execution := execution }, ⟨rfl, rfl⟩, ?_⟩
  intro after reached opened
  rw [same, executeWith, if_neg (by rwa [sameState]), run, found]
  simp only [opened]

theorem fetchAll_of_walk {sql : String} {launch : Launch} {cursor : Cursor σ}
    {world sourced : World σ} {source : Source σ} {execution : Option Execution}
    {columns : List Column} {pages : List Page} (notClosed : cursor.state ≠ .closed)
    (found : reachResults connection environment limit sql (cursor.tokenFor world launch).1
      (cursor.tokenFor world launch).2 = some (.ok source, execution, sourced))
    (walk : Walk (Source.Fetches environment) source none sourced pages none)
    (something : columns ≠ []) (sameColumns : ∀ page ∈ pages, page.columns = columns) :
    ∃ enough, ∀ fetchLimit ≥ enough, ∃ opened reached after last,
      cursor.launch connection environment limit sql launch world =
        some (.ok (), opened, reached) ∧
      opened.fetch connection environment fetchLimit .all reached =
        some (((pages.flatMap (·.rows)).map (Column.castRow connection.sentinels columns)).mapM id,
          after, last) := by
  have isPage : ∃ first later, pages = first :: later := by
    cases walk with
    | last => exact ⟨_, _, rfl⟩
    | onward => exact ⟨_, _, rfl⟩
  rcases Pager.readAll_of_walk walk (show ({ source } : Pager σ).source = source from rfl) rfl rfl
    with ⟨pageLimit, read⟩
  rcases launch_of_openResults notClosed found with ⟨fresh, empty, launched⟩
  rcases isPage with ⟨first, later, rfl⟩
  rcases openResults_of_readAll read fresh with ⟨after, reached, opened⟩
  have holds : Leaves connection environment pageLimit fresh.fetchSize
      (some (.ofPages connection.sentinels (first :: later) none))
      { after with state := .consumable } reached :=
    openResults_holds empty opened read
  refine ⟨max pageLimit ((castPages connection.sentinels [] (first :: later)).length + 1),
    fun fetchLimit enough => ?_⟩
  have holdsHere := holds.mono (Nat.le_trans (Nat.le_max_left _ _) enough)
  rcases fetch_serves holdsHere (Nat.le_trans (Nat.le_max_right _ _) enough) with
    ⟨answer, behind, last, left, fetched, serves, -⟩
  refine ⟨_, reached, behind, last, launched after reached opened, ?_⟩
  rw [fetched, serves.eq_mapM (fun _ => trivial) rfl,
    ← castPages_of_columns something sameColumns []]
  rfl

end Cursor

/-! ## The same table in two places -/

/-- The service has a table as the results of a query, names its columns, and has written it
to a file of the store behind some names. -/
structure HasTable (environment : Environment σ) (queryId : String) (location : Location)
    (maxRows : Nat) (columns : List Column) (names : List String) (rows : List RawRow) :
    Prop where
  pages : ∃ first later, HasPages environment queryId maxRows none (first :: later) ∧
    first.columns = columns ∧ first.rows ≠ [] ∧
    (first :: later).flatMap (·.rows) = (columns.map fun column => some column.name) :: rows
  reported :
    match location.table with
    | some table => ∀ outside, (environment.schema table outside).1.outcome = .ok columns
    | none => ∀ outside, ∃ part,
        (environment.results queryId none 1 outside).1.outcome = .ok part ∧
          part.columns = columns
  file : ∃ object, environment.object = some object ∧ HasFile object location names rows

def Connection.reading (format : ResultFormat) (connection : Connection) : Connection :=
  { connection with config := { connection.config with resultFormat := format } }

section

variable {environment : Environment σ} {queryId : String} {location : Location} {maxRows : Nat}
  {columns : List Column} {names : List String} {rows : List RawRow}

theorem HasTable.askColumns (table : HasTable environment queryId location maxRows columns names rows)
    (subject : Subject) (same : subject.queryId = queryId) (retry : RetryPolicy) (token : Token)
    (world : World σ) :
    ∃ reached, BulkSource.askColumns environment location subject retry token world =
      (.ok columns, reached) := by
  subst same
  have reported := table.reported
  unfold BulkSource.askColumns
  cases tabled : location.table with
  | some name =>
      rw [tabled] at reported
      rcases RetryPolicy.run_of_answered environment retry subject.scope token (.schema name) world
        (fun outside => ⟨columns, reported outside, rfl⟩) with ⟨_, reached, ran, rfl⟩
      exact ⟨reached, ran⟩
  | none =>
      rw [tabled] at reported
      rcases RetryPolicy.run_of_answered environment retry subject.scope token
        (.results subject.queryId none 1) world reported with ⟨part, reached, ran, rfl⟩
      have asked : retry.run environment subject.scope token
        (environment.askResults subject.queryId none 1) world = (.ok part, reached) := ran
      refine ⟨reached, ?_⟩
      simp only [asked]
      rfl

theorem HasTable.selectSource_bulk
    (table : HasTable environment queryId location maxRows columns names rows)
    {connection : Connection} {execution : Execution} (same : execution.queryId = queryId)
    (located : execution.location = some location) (token : Token) (world : World σ) :
    ∃ source reached,
      Cursor.selectSource (connection.reading .bulk) environment token execution world =
        (.ok (.bulk source), reached) ∧
      HasFile source.object source.location names rows ∧ source.location = location ∧
      source.pageSize = connection.config.maxRowsPerPage.toNat ∧
      source.columns = Column.normalize columns := by
  rcases table.file with ⟨object, stored, file⟩
  rcases table.askColumns execution.subject same connection.config.retryPolicy token world with
    ⟨reached, asked⟩
  refine ⟨{ object, location, token
            subject := execution.subject
            pageSize := connection.config.maxRowsPerPage.toNat
            retry := connection.config.retryPolicy
            columns := Column.normalize columns }, reached, ?_, file, rfl, rfl, rfl⟩
  unfold Cursor.selectSource BulkSource.prepare
  simp only [located, stored, show (connection.reading .bulk).config.resultFormat = .bulk from rfl,
    show BulkSource.askColumns environment location execution.subject
      (connection.reading .bulk).config.retryPolicy token world = _ from asked]
  rfl

theorem HasTable.walk
    (table : HasTable environment queryId location maxRows columns names rows)
    {connection : Connection} {execution : Execution} (same : execution.queryId = queryId)
    (located : execution.location = some location)
    (sameSize : connection.config.maxRowsPerPage.toNat = maxRows) (positive : 0 < maxRows)
    (room : ResultFile.hasRoom maxRows = true) (something : columns ≠ []) (named : names ≠ [])
    (legible : Legible location.format rows) (format : ResultFormat) (token : Token)
    (world : World σ) :
    ∃ source sourced walked,
      Cursor.selectSource (connection.reading format) environment token execution world =
        (.ok source, sourced) ∧
      Walk (Source.Fetches environment) source none sourced walked none ∧
      (∀ page ∈ walked, page.columns = Column.normalize columns) ∧
      ∀ sentinels,
        (walked.flatMap (·.rows)).map (Column.castRow sentinels (Column.normalize columns)) =
          rows.map (Column.castRow sentinels (Column.normalize columns)) := by
  cases format with
  | direct =>
      subst same sameSize
      rcases table.pages with ⟨first, later, pages, rfl, begun, headed⟩
      rcases @DirectSource.walk_pages σ environment
        { subject := execution.subject
          maxRows := connection.config.maxRowsPerPage.toNat
          retry := connection.config.retryPolicy
          token } first later rows pages rfl something begun headed world with
        ⟨walked, walk, sameColumns, sameRows⟩
      exact ⟨_, world, walked, rfl, walk, sameColumns, fun _ => by rw [sameRows]⟩
  | bulk =>
      rcases table.selectSource_bulk same located token world with
        ⟨source, reached, selected, file, sameLocation, isSize, isColumns⟩
      rw [← sameSize, ← isSize] at positive room
      rw [← sameLocation] at legible
      rcases source.walk_file environment positive room named file legible reached with
        ⟨walked, walk, sameColumns, sameRows⟩
      rw [isColumns] at sameColumns
      refine ⟨_, reached, walked, selected, walk, sameColumns, fun sentinels => ?_⟩
      rw [sameRows, List.map_map]
      exact List.map_congr_left fun row _ => Column.castRow_readCell row

end

namespace Cursor

/-- A query has succeeded, and the service and the store have the same table as its results.
From whichever of them the rows are read, fetching all rows gives the values of the table,
or fails on its first row that has none. -/
theorem fetchAll_agrees (connection : Connection) (environment : Environment σ) (limit : Nat)
    (sql : String) (launch : Launch) (cursor : Cursor σ) (world : World σ)
    {submitted execution : Execution} {asked polled : World σ} {location : Location}
    {columns : List Column} {names : List String} {rows : List RawRow}
    (notClosed : cursor.state ≠ .closed)
    (accepted : submit environment connection.config sql (cursor.tokenFor world launch).2 =
      (.ok submitted, asked))
    (succeeded : connection.config.poller.pollUntilTerminal environment
      (cursor.tokenFor world launch).1 limit submitted asked = some ⟨.ok (), execution, polled⟩)
    (located : execution.location = some location)
    (table : HasTable environment execution.queryId location
      connection.config.maxRowsPerPage.toNat columns names rows)
    (positive : 0 < connection.config.maxRowsPerPage.toNat)
    (room : ResultFile.hasRoom connection.config.maxRowsPerPage.toNat = true)
    (something : columns ≠ []) (named : names ≠ []) (legible : Legible location.format rows) :
    ∃ enough, ∀ fetchLimit ≥ enough, ∀ format, ∃ opened reached after last,
      cursor.launch (connection.reading format) environment limit sql launch world =
        some (.ok (), opened, reached) ∧
      opened.fetch (connection.reading format) environment fetchLimit .all reached =
        some (rows.mapM (Column.castRow connection.sentinels (Column.normalize columns)), after,
          last) := by
  have each (format : ResultFormat) : ∃ enough, ∀ fetchLimit ≥ enough,
      ∃ opened reached after last,
        cursor.launch (connection.reading format) environment limit sql launch world =
          some (.ok (), opened, reached) ∧
        opened.fetch (connection.reading format) environment fetchLimit .all reached =
          some ((rows.map (Column.castRow connection.sentinels (Column.normalize columns))).mapM id,
            after, last) := by
    rcases table.walk rfl located rfl positive room something named legible format
      (cursor.tokenFor world launch).1 polled with
      ⟨source, sourced, walked, selected, walk, sameColumns, sameValues⟩
    have found : reachResults (connection.reading format) environment limit sql
        (cursor.tokenFor world launch).1 (cursor.tokenFor world launch).2 =
          some (.ok source, some execution, sourced) := by
      rw [reachResults, show submit environment (connection.reading format).config sql
        (cursor.tokenFor world launch).2 = _ from accepted]
      simp only [show (connection.reading format).config.poller.pollUntilTerminal environment
        (cursor.tokenFor world launch).1 limit submitted asked = _ from succeeded, selected]
    have normalized : Column.normalize columns ≠ [] := by
      rcases List.exists_cons_of_ne_nil something with ⟨first, others, rfl⟩
      exact List.cons_ne_nil _ _
    rw [← sameValues]
    exact fetchAll_of_walk notClosed found walk normalized sameColumns
  simp only [List.mapM_map, Function.id_comp] at each
  rcases each .direct with ⟨direct, ofDirect⟩
  rcases each .bulk with ⟨bulk, ofBulk⟩
  refine ⟨max direct bulk, fun fetchLimit enough format => ?_⟩
  cases format with
  | direct => exact ofDirect fetchLimit (Nat.le_trans (Nat.le_max_left _ _) enough)
  | bulk => exact ofBulk fetchLimit (Nat.le_trans (Nat.le_max_right _ _) enough)

/-! ### A table of two columns, and one of a single column -/

def fileLocation : Location :=
  { uri := "s3://results/q1.csv", format := .csv }

/-- A query succeeds at once. Its results are one page, and a file with some bytes. -/
def tableEnvironment (part : ResultPart) (bytes : List UInt8) : Environment Unit :=
  { Rehearsal.deserted default with
    submit := fun _ outside => ({ outcome := .ok "q1" }, outside)
    status := fun _ outside =>
      (.answer { outcome := .ok { state := .succeeded, location := some fileLocation } }, outside)
    results := fun _ _ _ outside => ({ outcome := .ok part }, outside)
    object := some fun _ outside => ({ outcome := .ok { pieces := [bytes] } }, outside) }

def pairColumns : List Column :=
  [{ name := "c", wireType := "varchar" }, { name := "d", wireType := "integer" }]

def pairRows : List RawRow :=
  [[some "", some "1"], [some "x", none]]

def pairPage : ResultPart :=
  { columns := pairColumns, rows := [some "c", some "d"] :: pairRows, nextToken := none }

def pairEnvironment : Environment Unit :=
  tableEnvironment pairPage (ResultFile.writtenFile .csv ["c", "d"] pairRows)

theorem fetchAll_agrees_pairs :
    ∃ enough, ∀ fetchLimit ≥ enough, ∀ format, ∃ opened reached after last,
      launch (Connection.reading format { config := {}, sentinels := {} }) pairEnvironment 1
        "SELECT c, d FROM t" .own { token := ⟨0⟩, fetchSize := 1000 }
        { outside := (), nextToken := 1 } = some (.ok (), opened, reached) ∧
      opened.fetch (Connection.reading format { config := {}, sentinels := {} }) pairEnvironment
        fetchLimit .all reached =
          some (.ok [[.null, .integer 1], [.text "x", .null]], after, last) := by
  have table : HasTable pairEnvironment "q1" fileLocation 1000 pairColumns ["c", "d"] pairRows :=
    { pages := ⟨pairPage, [], .last (fun _ => rfl) rfl, rfl, List.cons_ne_nil _ _, rfl⟩
      reported := fun _ => ⟨pairPage, rfl, rfl⟩
      file := ⟨_, rfl, fun _ => ⟨_, rfl, rfl, List.append_nil _⟩⟩ }
  have legible : Legible .csv pairRows :=
    { writable := fun _ _ isTsv => nomatch isTsv
      visible := by decide +kernel
      unmarked := fun isTsv => nomatch isTsv }
  exact fetchAll_agrees { config := {}, sentinels := {} } pairEnvironment 1 "SELECT c, d FROM t"
    .own { token := ⟨0⟩, fetchSize := 1000 } { outside := (), nextToken := 1 } (by decide) rfl rfl
    rfl table (by decide) (by decide) (by decide) (by decide) legible

def nothingEnvironment : Environment Unit :=
  tableEnvironment
    { columns := [{ name := "c", wireType := "varchar" }]
      rows := [[some "c"], [none]]
      nextToken := none }
    (ResultFile.writtenFile .csv ["c"] [[none]])

/-- A row that is written as an empty line is a row of the service and none of the file. -/
theorem emptyLine_disagrees :
    (∃ opened reached after last,
      launch (Connection.reading .direct { config := {}, sentinels := {} }) nothingEnvironment 1
        "SELECT c FROM t" .own { token := ⟨0⟩, fetchSize := 1000 }
        { outside := (), nextToken := 1 } = some (.ok (), opened, reached) ∧
      opened.fetch (Connection.reading .direct { config := {}, sentinels := {} })
        nothingEnvironment 3 .all reached = some (.ok [[.null]], after, last)) ∧
    ∃ opened reached after last,
      launch (Connection.reading .bulk { config := {}, sentinels := {} }) nothingEnvironment 1
        "SELECT c FROM t" .own { token := ⟨0⟩, fetchSize := 1000 }
        { outside := (), nextToken := 1 } = some (.ok (), opened, reached) ∧
      opened.fetch (Connection.reading .bulk { config := {}, sentinels := {} })
        nothingEnvironment 3 .all reached = some (.ok [], after, last) :=
  ⟨⟨_, _, _, _, rfl, rfl⟩, ⟨_, _, _, _, rfl, rfl⟩⟩

end Cursor

end RemoteQuery
