import RemoteQuery.Proofs.Cursor.Feed
import RemoteQuery.Proofs.ResultFile.Written
import RemoteQuery.Proofs.Results.Failure

/-! # The rows of a table, read in two ways

A service has a table if its pages bring the rows behind a row of names, and a store has it
if its file is what is written of the rows. Either way a walk through all pages comes to the
same rows, but that an empty cell is absent in the file.
-/

namespace RemoteQuery

variable {σ α : Type}

theorem RetryPolicy.run_of_answered (environment : Environment σ) (policy : RetryPolicy)
    (scope : Scope) (token : Token) (call : Call) {Right : call.Response → Prop}
    {answering : σ → Answer (Outcome call.Response) × σ} (world : World σ)
    (answered : ∀ outside, ∃ value, (answering outside).1.outcome = .ok value ∧ Right value) :
    ∃ value reached,
      policy.run environment scope token (fun world => world.ask call answering) world =
        (.ok value, reached) ∧ Right value := by
  rcases answered (world.now environment).2.outside with ⟨value, outcome, right⟩
  have made : (world.now environment).2.ask call answering =
      (.ok value, ((world.now environment).2.ask call answering).2) :=
    Prod.ext outcome rfl
  exact ⟨value, _, run_eq (.succeeded made), right⟩

/-! ## All pages of a source -/

def Source.Fetches (environment : Environment σ) (source : Source σ) (pageToken : Option String)
    (world : World σ) (answer : Except Fault Page) (after : Source σ) (reached : World σ) :
    Prop :=
  source.fetch environment pageToken world = (answer, after, reached)

theorem BulkSource.Fetches.atSource {environment : Environment σ} {source after : BulkSource σ}
    {token : Option String} {world reached : World σ} {answer : Except Fault Page}
    (fetched : source.Fetches environment token world answer after reached) :
    (Source.bulk source).Fetches environment token world answer (.bulk after) reached := by
  rw [Source.Fetches, Source.fetch, show source.fetch environment token world = _ from fetched]

namespace Pager

variable {environment : Environment σ} {pager : Pager σ} {world reached : World σ}
  {after : Source σ}

theorem next_of_page {page : Page} (goesOn : pager.exhausted = false)
    (fetched : pager.source.Fetches environment pager.pageToken world (.ok page) after reached) :
    pager.next environment world =
      (.ok (some page), { pager with source := after }.advance page, reached) := by
  rw [next, goesOn, if_neg Bool.false_ne_true,
    show pager.source.fetch environment pager.pageToken world = _ from fetched]

theorem next_of_fault {fault : Fault} (goesOn : pager.exhausted = false)
    (fetched :
      pager.source.Fetches environment pager.pageToken world (.error fault) after reached) :
    pager.next environment world = (.error fault, { pager with source := after }, reached) := by
  rw [next, goesOn, if_neg Bool.false_ne_true,
    show pager.source.fetch environment pager.pageToken world = _ from fetched]

theorem exists_fetch {next : Pager σ} {answer : Except Fault (Option Page)}
    (asked : pager.next environment world = (answer, next, reached)) :
    next = pager ∨ ∃ result,
      pager.source.fetch environment pager.pageToken world = (result, next.source, reached) ∧
        ∀ fault, result = .error fault → next.pageToken = pager.pageToken := by
  cases ended : pager.exhausted with
  | true =>
      rw [next_of_exhausted ended] at asked
      cases asked
      exact .inl rfl
  | false =>
      rcases fetched : pager.source.fetch environment pager.pageToken world with
        ⟨fault | page, after, settled⟩
      · rw [next_of_fault ended fetched] at asked
        cases asked
        exact .inr ⟨_, rfl, fun _ _ => rfl⟩
      · rw [next_of_page ended fetched] at asked
        cases asked
        refine .inr ⟨_, rfl, fun fault failed => ?_⟩
        cases failed

theorem readAll_of_walk {source : Source σ} {token : Option String} {pages : List Page}
    {ending : Option Fault}
    (walk : Walk (Source.Fetches environment) source token world pages ending)
    (atSource : pager.source = source) (atToken : pager.pageToken = token)
    (goesOn : pager.exhausted = false) :
    ∃ limit, pager.readAll environment limit world = some (pages, ending) := by
  induction walk generalizing pager with
  | @last source after token world reached page fetched nothing =>
      subst atSource atToken
      have ended : ({ pager with source := after }.advance page).next environment reached =
          (.ok none, { pager with source := after }.advance page, reached) := by
        rw [next, if_pos (by rw [advance, Page.isLast, nothing]; rfl)]
      refine ⟨2, ?_⟩
      rw [readAll, next_of_page goesOn fetched]
      simp only [readAll, ended, Option.map_some]
  | @onward source after token world reached page more later ending fetched isMore rest
      induction =>
      subst atSource atToken
      rcases @induction ({ pager with source := after }.advance page) rfl
        ((pageToken_advance _ page).trans isMore)
        (by rw [advance, Page.isLast, isMore]; rfl) with ⟨limit, read⟩
      refine ⟨limit + 1, ?_⟩
      rw [readAll, next_of_page goesOn fetched]
      simp only [read, Option.map_some]
  | @broken source after token world reached fault fetched =>
      subst atSource atToken
      refine ⟨1, ?_⟩
      rw [readAll, next_of_fault goesOn fetched]

end Pager

/-! ## Pages of the service -/

/-- The service answers with these pages of a query's results, each behind the continuation
token of the page before, whatever has happened. -/
inductive HasPages (environment : Environment σ) (queryId : String) (maxRows : Nat) :
    Option String → List ResultPart → Prop
  | last {token : Option String} {part : ResultPart}
      (answers : ∀ outside,
        (environment.results queryId token maxRows outside).1.outcome = .ok part)
      (nothing : part.nextToken = none) : HasPages environment queryId maxRows token [part]
  | onward {token : Option String} {part : ResultPart} {next : String}
      {later : List ResultPart}
      (answers : ∀ outside,
        (environment.results queryId token maxRows outside).1.outcome = .ok part)
      (more : part.nextToken = some next) (named : next.isEmpty = false)
      (rest : HasPages environment queryId maxRows (some next) later) :
      HasPages environment queryId maxRows token (part :: later)

namespace DirectSource

variable {environment : Environment σ} {source : DirectSource}

section

variable {pageToken : Option String} {world reached : World σ}

theorem fetch_of_part {part : ResultPart}
    (asked : source.retry.run environment source.subject.scope source.token
      (·.ask (.results source.subject.queryId pageToken source.maxRows)
        (environment.results source.subject.queryId pageToken source.maxRows)) world =
        (.ok part, reached)) :
    (Source.direct source).fetch environment pageToken world =
      (.ok (.of (pageColumns source.columns pageToken.isNone part)
        (dataRows pageToken.isNone part) part.nextToken part.updateCount),
        .direct { source with
          columns := some (pageColumns source.columns pageToken.isNone part) }, reached) := by
  have asked : source.retry.run environment source.subject.scope source.token
      (environment.askResults source.subject.queryId pageToken source.maxRows) world =
        (.ok part, reached) := asked
  rw [Source.fetch, fetch, asked]

theorem fetch_of_fault {fault : Fault}
    (asked : source.retry.run environment source.subject.scope source.token
      (·.ask (.results source.subject.queryId pageToken source.maxRows)
        (environment.results source.subject.queryId pageToken source.maxRows)) world =
        (.error fault, reached)) :
    (Source.direct source).fetch environment pageToken world =
      (.error fault, .direct source, reached) := by
  have asked : source.retry.run environment source.subject.scope source.token
      (environment.askResults source.subject.queryId pageToken source.maxRows) world =
        (.error fault, reached) := asked
  rw [Source.fetch, fetch, asked]

end

theorem fetch_of_answered {pageToken : Option String} {part : ResultPart}
    (answers : ∀ outside,
      (environment.results source.subject.queryId pageToken source.maxRows outside).1.outcome =
        .ok part) (world : World σ) :
    ∃ reached, (Source.direct source).Fetches environment pageToken world
      (.ok (.of (pageColumns source.columns pageToken.isNone part)
        (dataRows pageToken.isNone part) part.nextToken part.updateCount))
      (.direct { source with
        columns := some (pageColumns source.columns pageToken.isNone part) }) reached := by
  rcases RetryPolicy.run_of_answered environment source.retry source.subject.scope source.token
    (.results source.subject.queryId pageToken source.maxRows) world
    (fun outside => ⟨part, answers outside, rfl⟩) with ⟨_, reached, ran, rfl⟩
  exact ⟨reached, fetch_of_part ran⟩

theorem dataRows_later (part : ResultPart) : dataRows false part = part.rows := by
  unfold dataRows
  cases part.rows <;> rfl

private theorem nextToken_of (columns : List Column) (rows : List RawRow) {next : String}
    (named : next.isEmpty = false) (updateCount : Option UInt64) :
    (Page.of columns rows (some next) updateCount).nextToken = some next := by
  simp [Page.of, Option.filter, named]

private theorem walk_later (source : DirectSource) {queryId : String} {maxRows : Nat} {token : Option String}
    {parts : List ResultPart} {columns : List Column}
    (pages : HasPages environment queryId maxRows token parts)
    (sameQuery : source.subject.queryId = queryId) (sameSize : source.maxRows = maxRows)
    (behind : token.isNone = false) (known : source.columns = some columns)
    (world : World σ) :
    ∃ walked, Walk (Source.Fetches environment) (.direct source) token world walked none ∧
      (∀ page ∈ walked, page.columns = columns) ∧
      walked.flatMap (·.rows) = parts.flatMap (·.rows) := by
  induction pages generalizing source world with
  | @last token part answers nothing =>
      subst sameQuery sameSize
      rcases fetch_of_answered answers world with ⟨reached, fetched⟩
      rw [behind, dataRows_later, nothing] at fetched
      refine ⟨_, .last fetched rfl, ?_, by simp [Page.of]⟩
      simp [Page.of, pageColumns, known]
  | @onward token part next later answers more named rest induction =>
      subst sameQuery sameSize
      rcases fetch_of_answered answers world with ⟨reached, fetched⟩
      have sameColumns : pageColumns source.columns token.isNone part = columns := by
        simp [pageColumns, known, behind]
      rw [sameColumns, behind, dataRows_later, more] at fetched
      rcases induction { source with columns := some columns } rfl rfl rfl rfl reached with
        ⟨walked, walk, allColumns, sameRows⟩
      refine ⟨_, .onward fetched (nextToken_of _ _ named _) walk, ?_, ?_⟩
      · intro page member
        rcases List.mem_cons.mp member with rfl | member
        · rfl
        · exact allColumns page member
      · rw [List.flatMap_cons, List.flatMap_cons, sameRows]
        rfl

theorem dataRows_first {part : ResultPart} {rows : List RawRow} (something : part.columns ≠ [])
    (headed : part.rows = (part.columns.map fun column => some column.name) :: rows) :
    dataRows true part = rows := by
  have filled : part.columns.isEmpty = false := by simpa using something
  simp [dataRows, headed, isHeader, filled]

theorem walk_pages {first : ResultPart} {later : List ResultPart} {rows : List RawRow}
    (pages : HasPages environment source.subject.queryId source.maxRows none (first :: later))
    (fresh : source.columns = none) (something : first.columns ≠ []) (begun : first.rows ≠ [])
    (headed : (first :: later).flatMap (·.rows) =
      (first.columns.map fun column => some column.name) :: rows) (world : World σ) :
    ∃ walked, Walk (Source.Fetches environment) (.direct source) none world walked none ∧
      (∀ page ∈ walked, page.columns = Column.normalize first.columns) ∧
      walked.flatMap (·.rows) = rows := by
  rcases List.exists_cons_of_ne_nil begun with ⟨header, firstRows, isFirst⟩
  rw [List.flatMap_cons, isFirst, List.cons_append, List.cons.injEq] at headed
  rcases headed with ⟨rfl, rfl⟩
  have sameColumns : pageColumns source.columns true first = Column.normalize first.columns := by
    rw [fresh, pageColumns]
  cases pages with
  | last answers nothing =>
      rcases fetch_of_answered answers world with ⟨reached, fetched⟩
      rw [Option.isNone_none, sameColumns, dataRows_first something isFirst, nothing] at fetched
      exact ⟨_, .last fetched rfl, by simp [Page.of], by simp [Page.of]⟩
  | @onward _ _ next _ answers more named rest =>
      rcases fetch_of_answered answers world with ⟨reached, fetched⟩
      rw [Option.isNone_none, sameColumns, dataRows_first something isFirst, more] at fetched
      rcases walk_later { source with columns := some (Column.normalize first.columns) } rest rfl rfl rfl rfl
        reached with ⟨walked, walk, allColumns, sameRows⟩
      refine ⟨_, .onward fetched (nextToken_of _ _ named _) walk, ?_, ?_⟩
      · intro page member
        rcases List.mem_cons.mp member with rfl | member
        · rfl
        · exact allColumns page member
      · rw [List.flatMap_cons, sameRows]
        rfl

end DirectSource

/-! ## The file of a store -/

/-- The store has a file, whatever has happened, and the file is what is written of some rows
behind some names. -/
def HasFile (object : String → σ → Answer (Outcome Download) × σ) (location : Location)
    (names : List String) (rows : List RawRow) : Prop :=
  ∀ outside, ∃ download, (object location.uri outside).1.outcome = .ok download ∧
    download.failure = none ∧
    download.pieces.flatten = ResultFile.writtenFile location.format names rows

structure Legible (format : FileFormat) (rows : List RawRow) : Prop where
  writable : ∀ row ∈ rows, ResultFile.Writable format row
  visible : ∀ row ∈ rows, ¬ResultFile.Invisible format row
  unmarked : ResultFile.Unmarked format rows

theorem BulkSource.walk_file (environment : Environment σ) (source : BulkSource σ)
    {names : List String} {rows : List RawRow} (positive : 0 < source.pageSize)
    (room : ResultFile.hasRoom source.pageSize = true) (named : names ≠ [])
    (file : HasFile source.object source.location names rows)
    (legible : Legible source.location.format rows) (world : World σ) :
    ∃ walked, Walk (Source.Fetches environment) (.bulk source) none world walked none ∧
      (∀ page ∈ walked, page.columns = source.columns) ∧
      walked.flatMap (·.rows) = rows.map (List.map ResultFile.readCell) := by
  rcases RetryPolicy.run_of_answered environment source.retry source.subject.scope source.token
    (.object source.location.uri) world file with ⟨download, reached, ran, whole, written⟩
  have asked : source.askFile environment world = (.ok download, reached) := ran
  have walk := walk_pagesFrom source (fetch_none asked) rfl
  have reading := ResultFile.read_written named legible.writable legible.visible
    legible.unmarked whole written
  have batched := ResultFile.batched_batches source.location.format download positive room
  rw [reading] at batched
  rcases @pagesFrom_complete source.columns _ _ _ positive batched 0 with ⟨ending, inOrder, -⟩
  have coming : (source.opened download).toCome =
      ResultFile.batches source.location.format source.pageSize download := rfl
  rw [coming, show (source.opened download).handedOut = 0 from rfl, ending] at walk
  exact ⟨_, walk.map Source.bulk BulkSource.Fetches.atSource, columns_of_pagesFrom _ _, inOrder⟩

/-! ## Rows of values -/

namespace Column

variable {sentinels : Sentinels} {columns : List Column}

/-- A cell that is empty means the same as one that is absent. -/
theorem cast_readCell (column : Column) (cell : Option String) :
    cast sentinels column (ResultFile.readCell cell) = cast sentinels column cell := by
  cases cell with
  | none => rfl
  | some text =>
      cases empty : text.isEmpty <;>
        simp [ResultFile.readCell, Option.filter, cast, Sentinels.isNull, empty]

private theorem castCells_readCell (columns : List Column) (cells : RawRow) :
    castCells sentinels columns (cells.map ResultFile.readCell) =
      castCells sentinels columns cells := by
  induction columns generalizing cells with
  | nil => rfl
  | cons column columns induction =>
      have first : (cells.map ResultFile.readCell).headD none =
          ResultFile.readCell (cells.headD none) := by
        cases cells <;> rfl
      rw [castCells, castCells, first, cast_readCell, ← List.map_tail, induction]

private theorem surplus_readCell (cells : RawRow) :
    surplus columns (cells.map ResultFile.readCell) = surplus columns cells := by
  have raw : ((cells.map ResultFile.readCell)[columns.length]?.join).getD "" =
      (cells[columns.length]?.join).getD "" := by
    rw [List.getElem?_map]
    rcases cells[columns.length]? with _ | _ | text
    · rfl
    · rfl
    · cases empty : text.isEmpty with
      | false => simp [ResultFile.readCell, Option.filter, empty]
      | true => simp [ResultFile.readCell, Option.filter, String.isEmpty_iff.mp empty]
  rw [surplus, surplus, raw, List.length_map]

theorem castRow_readCell (row : RawRow) :
    castRow sentinels columns (row.map ResultFile.readCell) = castRow sentinels columns row := by
  rw [castRow, castRow, castCells_readCell, surplus_readCell, List.length_map]

end Column

theorem castPages_of_columns {sentinels : Sentinels} {columns : List Column}
    (something : columns ≠ []) {pages : List Page}
    (same : ∀ page ∈ pages, page.columns = columns) (known : List Column) :
    castPages sentinels known pages =
      (pages.flatMap (·.rows)).map (Column.castRow sentinels columns) := by
  induction pages generalizing known with
  | nil => rfl
  | cons page pages induction =>
      have filled : page.columns.isEmpty = false := by
        rw [same page List.mem_cons_self]
        simpa using something
      rw [castPages, filled, List.flatMap_cons, List.map_append, same page List.mem_cons_self,
        induction fun other member => same other (List.mem_cons_of_mem _ member)]
      rfl

end RemoteQuery
