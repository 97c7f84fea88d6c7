import RemoteQuery.Proofs.ResultFile.Batches
import RemoteQuery.Proofs.Results.Stream
import RemoteQuery.Rehearsal

/-! # Walks through the pages of a file

A walk asks for the first page and then for the page behind each continuation token, up to a
page without one. Through a file it comes to all rows that can be read, and where the file
cannot be read to its end, the walk ends with a failure.
-/

namespace RemoteQuery

open ResultFile (Batch Reading Batched)

variable {σ : Type}

/-! ## Walks -/

/-- The pages from a request on, each asked for by the token of the page before, and the
failure that ends the walk, unless it ends with a page that has no token. -/
inductive Walk {S W : Type} (fetches : S → Option String → W → Except Fault Page → S → W → Prop) :
    S → Option String → W → List Page → Option Fault → Prop
  | last {source after : S} {token : Option String} {world reached : W} {page : Page}
      (fetched : fetches source token world (.ok page) after reached)
      (nothing : page.nextToken = none) : Walk fetches source token world [page] none
  | onward {source after : S} {token : Option String} {world reached : W} {page : Page}
      {next : String} {later : List Page} {ending : Option Fault}
      (fetched : fetches source token world (.ok page) after reached)
      (more : page.nextToken = some next)
      (rest : Walk fetches after (some next) reached later ending) :
      Walk fetches source token world (page :: later) ending
  | broken {source after : S} {token : Option String} {world reached : W} {fault : Fault}
      (fetched : fetches source token world (.error fault) after reached) :
      Walk fetches source token world [] (some fault)

def BulkSource.Fetches (environment : Environment σ) (source : BulkSource σ)
    (pageToken : Option String) (world : World σ) (answer : Except Fault Page)
    (after : BulkSource σ) (reached : World σ) : Prop :=
  source.fetch environment pageToken world = (answer, after, reached)

namespace Walk

theorem map {S T W : Type} {fetches : S → Option String → W → Except Fault Page → S → W → Prop}
    {others : T → Option String → W → Except Fault Page → T → W → Prop} (change : S → T)
    (fetched : ∀ {source : S} {token : Option String} {world : W} {answer : Except Fault Page}
      {after : S} {reached : W}, fetches source token world answer after reached →
        others (change source) token world answer (change after) reached)
    {source : S} {token : Option String} {world : W} {pages : List Page}
    {ending : Option Fault} (walk : Walk fetches source token world pages ending) :
    Walk others (change source) token world pages ending := by
  induction walk with
  | last here nothing => exact .last (fetched here) nothing
  | onward here more rest induction => exact .onward (fetched here) more induction
  | broken here => exact .broken (fetched here)

section

variable {environment : Environment σ}

theorem unique {source : BulkSource σ} {token : Option String} {world : World σ}
    {left right : List Page} {leftEnding rightEnding : Option Fault}
    (leftWalk : Walk (BulkSource.Fetches environment) source token world left leftEnding)
    (rightWalk : Walk (BulkSource.Fetches environment) source token world right rightEnding) :
    left = right ∧ leftEnding = rightEnding := by
  induction leftWalk generalizing right rightEnding with
  | last fetched nothing =>
      cases rightWalk with
      | last again none =>
          cases fetched.symm.trans again
          exact ⟨rfl, rfl⟩
      | onward again more rest =>
          cases fetched.symm.trans again
          cases nothing.symm.trans more
      | broken again => cases fetched.symm.trans again
  | onward fetched more rest induction =>
      cases rightWalk with
      | last again nothing =>
          cases fetched.symm.trans again
          cases nothing.symm.trans more
      | onward again moreAgain restAgain =>
          cases fetched.symm.trans again
          cases more.symm.trans moreAgain
          rcases induction restAgain with ⟨rfl, rfl⟩
          exact ⟨rfl, rfl⟩
      | broken again => cases fetched.symm.trans again
  | broken fetched =>
      cases rightWalk with
      | last again nothing => cases fetched.symm.trans again
      | onward again more rest => cases fetched.symm.trans again
      | broken again =>
          cases fetched.symm.trans again
          exact ⟨rfl, rfl⟩

theorem settled {live : LiveSource σ} {token : Option String} {world : World σ}
    {pages : List Page} {ending : Option Fault}
    (walk : Walk (LiveSource.Fetches environment) live token world pages ending) :
    Walk (BulkSource.Fetches environment) live.settled token world pages ending :=
  walk.map LiveSource.settled LiveSource.Fetches.settled

theorem exists_live {source : BulkSource σ} {token : Option String} {world : World σ}
    {pages : List Page} {ending : Option Fault}
    (walk : Walk (BulkSource.Fetches environment) source token world pages ending)
    {live : LiveSource σ} (same : live.settled = source) :
    Walk (LiveSource.Fetches environment) live token world pages ending := by
  induction walk generalizing live with
  | @last source after token world reached page fetched nothing =>
      subst same
      rcases live.exists_fetches environment token world with ⟨answer, next, settled, fetches⟩
      cases fetched.symm.trans fetches.settled
      exact .last fetches nothing
  | @onward source after token world reached page more later ending fetched isMore rest induction =>
      subst same
      rcases live.exists_fetches environment token world with ⟨answer, next, settled, fetches⟩
      cases fetched.symm.trans fetches.settled
      exact .onward fetches isMore (induction rfl)
  | @broken source after token world reached fault fetched =>
      subst same
      rcases live.exists_fetches environment token world with ⟨answer, next, settled, fetches⟩
      cases fetched.symm.trans fetches.settled
      exact .broken fetches

end

end Walk

/-! ## Pages of batches -/

/-- The pages that batches are handed out on behind a number of pages, and the failure
behind them. Without any batch there is one empty page. -/
def pagesFrom (columns : List Column) : (handedOut : Nat) → List Batch → List Page × Option Fault
  | _, [] => ([.of columns [] none none], none)
  | _, .error fault :: _ => ([], some fault)
  | _, [.ok rows] => ([.of columns rows none none], none)
  | handedOut, .ok rows :: next :: rest =>
      let later := pagesFrom columns (handedOut + 1) (next :: rest)
      (.of columns rows (some (Number.text (handedOut + 1))) none :: later.1, later.2)

private theorem text_not_isEmpty (value : Nat) : (Number.text value).isEmpty = false := by
  simp [Number.text, Number.digits]

theorem nextToken_of_text (columns : List Column) (rows : List RawRow) (value : Nat) :
    (Page.of columns rows (some (Number.text value)) none).nextToken =
      some (Number.text value) := by
  simp [Page.of, Option.filter, text_not_isEmpty]

theorem walk_pagesFrom {environment : Environment σ} {source : BulkSource σ}
    (start : BulkSource σ) {stream : FileStream} {token : Option String} {world reached : World σ}
    {batches : List Batch}
    (fetched : source.fetch environment token world =
      ((start.nextPage stream).1, (start.nextPage stream).2, reached))
    (coming : stream.toCome = batches) :
    Walk (BulkSource.Fetches environment) source token world
      (pagesFrom start.columns stream.handedOut batches).1
      (pagesFrom start.columns stream.handedOut batches).2 := by
  induction batches generalizing source start stream token world reached with
  | nil =>
      rw [start.nextPage_of_nothing coming] at fetched
      exact .last fetched rfl
  | cons batch rest induction =>
      cases batch with
      | error fault =>
          rw [start.nextPage_of_error coming] at fetched
          exact .broken fetched
      | ok rows =>
          rw [start.nextPage_of_rows coming] at fetched
          cases rest with
          | nil => exact .last fetched rfl
          | cons next rest =>
              refine .onward fetched (nextToken_of_text _ _ _) ?_
              exact induction _
                (@BulkSource.fetch_latest _ _ { start with stream := some _ } _ _ rfl) rfl

section

variable {columns : List Column} {size : Nat}

theorem columns_of_pagesFrom (handedOut : Nat) (batches : List Batch) :
    ∀ page ∈ (pagesFrom columns handedOut batches).1, page.columns = columns := by
  fun_induction pagesFrom columns handedOut batches with
  | case1 handedOut => simp [Page.of]
  | case2 handedOut fault rest => simp
  | case3 handedOut rows => simp [Page.of]
  | case4 handedOut rows next rest later induction =>
      intro page member
      rcases List.mem_cons.mp member with rfl | member
      · rfl
      · exact induction page member

theorem nextToken_of_pagesFrom (handedOut : Nat) (batches : List Batch) :
    ∀ (index : Nat) (page : Page) (token : String),
      (pagesFrom columns handedOut batches).1[index]? = some page →
      page.nextToken = some token → token = Number.text (handedOut + index + 1) := by
  fun_induction pagesFrom columns handedOut batches with
  | case1 handedOut =>
      rintro (_ | index) page token found isNext <;> cases found
      cases isNext
  | case2 handedOut fault rest => rintro index page token ⟨⟩
  | case3 handedOut rows =>
      rintro (_ | index) page token found isNext <;> cases found
      cases isNext
  | case4 handedOut rows next rest later induction =>
      rintro (_ | index) page token found isNext
      · cases found
        rw [nextToken_of_text] at isNext
        exact (Option.some.inj isNext).symm
      · rw [induction index page token found isNext]
        congr 1
        omega

/-- The pages of some rows: full pages with a token, and behind them a last page that has
something on it if there is anything. -/
structure Complete (size : Nat) (rows : List RawRow) (pages : List Page) : Prop where
  inOrder : pages.flatMap (·.rows) = rows
  shape : ∃ earlier last, pages = earlier ++ [last] ∧
    (∀ page ∈ earlier, page.rows.length = size ∧ page.nextToken.isSome) ∧
    last.nextToken = none ∧ last.rows.length ≤ size ∧
    (last.rows = [] → rows = [] ∧ earlier = [])

/-- The pages of rows with a failure behind them: as many full pages as there are, each
with a token. -/
structure Partial (size : Nat) (rows : List RawRow) (pages : List Page) : Prop where
  inOrder : pages.flatMap (·.rows) <+: rows
  count : pages.length = rows.length / size
  full : ∀ page ∈ pages, page.rows.length = size ∧ page.nextToken.isSome

private theorem eq_nil_of_batched {batches : List Batch} (positive : 0 < size)
    (batched : Batched size none [] batches) : batches = [] := by
  generalize nothing : ([] : List RawRow) = rows at batched
  cases batched with
  | @full rows rest batches filled behind =>
      have empty : rows = [] := (List.append_eq_nil_iff.mp nothing.symm).1
      rw [empty] at filled
      exact absurd filled (Nat.ne_of_lt positive)
  | broken few broken => cases broken
  | rest few something whole => exact absurd nothing.symm something
  | done whole => rfl

theorem pagesFrom_complete {rows : List RawRow} {batches : List Batch} (positive : 0 < size)
    (batched : Batched size none rows batches) (handedOut : Nat) :
    (pagesFrom columns handedOut batches).2 = none ∧
      Complete size rows (pagesFrom columns handedOut batches).1 := by
  generalize whole : (none : Option String) = failure at batched
  induction batched generalizing handedOut with
  | @full rows rest batches filled behind induction =>
      subst whole
      cases batches with
      | nil =>
          cases behind
          refine ⟨rfl, ⟨by simp [pagesFrom, Page.of], [], _, rfl, by simp, rfl, ?_, ?_⟩⟩
          · exact Nat.le_of_eq filled
          · intro empty
            rw [show rows = [] from empty] at filled
            exact absurd filled (Nat.ne_of_lt positive)
      | cons next batches =>
          rcases induction (handedOut + 1) with
            ⟨ending, same, earlier, last, pages, full, isLast, fits, ends⟩
          refine ⟨ending, ⟨?_, _ :: earlier, last, congrArg (_ :: ·) pages, ?_, isLast, fits, ?_⟩⟩
          · exact congrArg (rows ++ ·) same
          · intro page member
            rcases List.mem_cons.mp member with rfl | member
            · exact ⟨filled, by rw [nextToken_of_text]; rfl⟩
            · exact full page member
          · intro empty
            rcases ends empty with ⟨rfl, -⟩
            cases eq_nil_of_batched positive behind
  | broken few broken => cases whole.trans broken
  | @rest rest few something whole =>
      refine ⟨rfl, ⟨by simp [pagesFrom, Page.of], [], _, rfl, by simp, rfl, ?_, ?_⟩⟩
      · exact Nat.le_of_lt few
      · exact fun empty => absurd empty something
  | done whole =>
      refine ⟨rfl, ⟨rfl, [], _, rfl, by simp, rfl, Nat.zero_le _, fun _ => ⟨rfl, rfl⟩⟩⟩

theorem pagesFrom_partial {rows : List RawRow} {batches : List Batch} {message : String}
    (positive : 0 < size) (batched : Batched size (some message) rows batches)
    (handedOut : Nat) :
    (pagesFrom columns handedOut batches).2 = some (.resultFile message) ∧
      Partial size rows (pagesFrom columns handedOut batches).1 := by
  generalize broken : some message = failure at batched
  induction batched generalizing handedOut with
  | @full rows rest batches filled behind induction =>
      subst broken
      cases batches with
      | nil => cases behind with | done whole => cases whole
      | cons next batches =>
          rcases induction (handedOut + 1) with ⟨ending, within, count, full⟩
          refine ⟨ending, ⟨?_, ?_, ?_⟩⟩
          · exact (List.prefix_append_right_inj rows).mpr within
          · rw [List.length_append, filled, Nat.add_div_left _ positive, ← count]
            rfl
          · intro page member
            rcases List.mem_cons.mp member with rfl | member
            · exact ⟨filled, by rw [nextToken_of_text]; rfl⟩
            · exact full page member
  | broken few isBroken =>
      cases broken.trans isBroken
      refine ⟨rfl, ⟨List.nil_prefix, ?_, by simp [pagesFrom]⟩⟩
      exact (Nat.div_eq_of_lt few).symm
  | rest few something whole => cases broken.trans whole
  | done whole => cases broken.trans whole

structure Paged (columns : List Column) (size : Nat) (reading : Reading) (pages : List Page)
    (ending : Option Fault) : Prop where
  columns : ∀ page ∈ pages, page.columns = columns
  numbered : ∀ (index : Nat) (page : Page) (token : String), pages[index]? = some page →
    page.nextToken = some token → token = Number.text (index + 1)
  whole : reading.failure = none → ending = none ∧ Complete size reading.rows pages
  broken : ∀ message, reading.failure = some message →
    ending = some (.resultFile message) ∧ Partial size reading.rows pages

theorem paged_pagesFrom {reading : Reading} {batches : List Batch} (positive : 0 < size)
    (batched : Batched size reading.failure reading.rows batches) :
    Paged columns size reading (pagesFrom columns 0 batches).1 (pagesFrom columns 0 batches).2 where
  columns := columns_of_pagesFrom 0 batches
  numbered := by
    intro index page token found isNext
    rw [nextToken_of_pagesFrom 0 batches index page token found isNext, Nat.zero_add]
  whole := fun whole => pagesFrom_complete positive (whole ▸ batched) 0
  broken := fun message broken => pagesFrom_partial positive (broken ▸ batched) 0

end

/-! ## Walks through a file -/

section

variable {environment : Environment σ} (live : LiveSource σ) {world reached : World σ}
  {download : Download}

theorem LiveSource.walk_of_askFile
    (asked : live.source.askFile environment world = (.ok download, reached)) :
    Walk (BulkSource.Fetches environment) live.settled none world
      (pagesFrom live.source.columns 0
        (ResultFile.batches live.source.location.format live.source.pageSize download)).1
      (pagesFrom live.source.columns 0
        (ResultFile.batches live.source.location.format live.source.pageSize download)).2 :=
  walk_pagesFrom live.settled (BulkSource.fetch_none asked) rfl

/-- Whenever the parser of a file goes on, a walk from the first page comes to an end, and
brings on its pages the records of the file in their order, up to one that is no text. How the
file came in pieces does not matter, unless there was a cut in a byte order mark at its start, or
right behind it. -/
theorem LiveSource.walk_paged (positive : 0 < live.source.pageSize)
    (room : ResultFile.hasRoom live.source.pageSize = true)
    (asked : live.source.askFile environment world = (.ok download, reached)) :
    (∃ pages ending, Walk (LiveSource.Fetches environment) live none world pages ending) ∧
    (∀ pages ending, Walk (LiveSource.Fetches environment) live none world pages ending →
      Paged live.source.columns live.source.pageSize
        (ResultFile.read live.source.location.format download) pages ending) ∧
    ResultFile.Reads (ResultFile.contents download).broken
      (ResultFile.dataRecords live.source.location.format
        (ResultFile.contents download).broken.isNone (ResultFile.contents download).bytes)
      (ResultFile.read live.source.location.format download) ∧
    (ResultFile.MarkUncut download.pieces → ¬ResultFile.MarkAlone download.pieces →
      ResultFile.contents download =
        ⟨ResultFile.withoutMark download.pieces.flatten, download.failure⟩) ∧
    (¬ResultFile.MarkUncut download.pieces →
      ResultFile.contents download = ⟨download.pieces.flatten, download.failure⟩) ∧
    (ResultFile.MarkAlone download.pieces →
      ResultFile.contents download = { bytes := [] }) := by
  have walk := live.walk_of_askFile asked
  refine ⟨⟨_, _, walk.exists_live rfl⟩, ?_, ResultFile.reads_rowsOf _ _,
    ResultFile.contents_of_markUncut, ResultFile.contents_of_markCut,
    ResultFile.contents_of_markAlone⟩
  intro pages ending through
  rcases through.settled.unique walk with ⟨rfl, rfl⟩
  exact paged_pagesFrom positive (ResultFile.batched_batches _ _ positive room)

end

/-! ### A file that breaks off, and a byte order mark -/

def fileWorld (pieces : List (List UInt8)) (failure : Option String) :
    World Rehearsal.Script :=
  { outside := { objects := [("s3://results/q1.tsv", { pieces, failure })] } }

def fileColumns : List Column :=
  [{ name := "c", wireType := "varchar" }]

def fileSource (pageSize : Nat) : BulkSource Rehearsal.Script :=
  { object := Rehearsal.object
    location := { uri := "s3://results/q1.tsv", format := .tsv }
    columns := fileColumns
    subject := { queryId := "q1", database := "db", catalog := "cat" }
    pageSize
    retry := {}
    token := ⟨0⟩ }

theorem askFile_fileWorld (pageSize : Nat) (pieces : List (List UInt8))
    (failure : Option String) :
    ∃ reached, (fileSource pageSize).askFile (Rehearsal.environment true default)
      (fileWorld pieces failure) = (.ok { pieces, failure }, reached) :=
  ⟨_, rfl⟩

def brokenPieces : List (List UInt8) :=
  [[97, 10, 98], [10, 99, 10, 100]]

/-- A walk on pages of two through three rows with a failure behind them. -/
theorem walk_paged_brokenOff :
    ∃ pages ending,
      Walk (LiveSource.Fetches (Rehearsal.environment true default))
        { source := fileSource 2 } none (fileWorld brokenPieces (some "connection lost"))
        pages ending ∧
      Paged fileColumns 2
        { rows := [[some "a"], [some "b"], [some "c"]], failure := some "connection lost" }
        pages ending := by
  rcases askFile_fileWorld 2 brokenPieces (some "connection lost") with ⟨reached, asked⟩
  rcases LiveSource.walk_paged { source := fileSource 2 } Nat.two_pos rfl asked with
    ⟨⟨pages, ending, walk⟩, paged, -⟩
  exact ⟨pages, ending, walk, paged pages ending walk⟩

/-- A byte order mark and a row, in one piece. -/
def wholeMark : List (List UInt8) :=
  [[0xEF, 0xBB, 0xBF, 120, 10]]

/-- The same bytes, cut inside the mark. -/
def cutMark : List (List UInt8) :=
  [[0xEF], [0xBB, 0xBF, 120, 10]]

/-- The same bytes, cut behind the mark. -/
def loneMark : List (List UInt8) :=
  [[0xEF, 0xBB, 0xBF], [120, 10]]

/-- The same bytes make different rows if the byte order mark in front of them is cut, and none
if it is cut off. -/
theorem walks_of_cutMark :
    cutMark.flatten = wholeMark.flatten ∧ loneMark.flatten = wholeMark.flatten ∧
    Walk (LiveSource.Fetches (Rehearsal.environment true default))
      { source := fileSource 2 } none (fileWorld wholeMark none)
      [.of fileColumns [[some "x"]] none none] none ∧
    Walk (LiveSource.Fetches (Rehearsal.environment true default))
      { source := fileSource 2 } none (fileWorld cutMark none)
      [.of fileColumns [[some "\uFEFFx"]] none none] none ∧
    Walk (LiveSource.Fetches (Rehearsal.environment true default))
      { source := fileSource 2 } none (fileWorld loneMark none)
      [.of fileColumns [] none none] none := by
  rcases askFile_fileWorld 2 wholeMark none with ⟨wholeReached, wholeAsked⟩
  rcases askFile_fileWorld 2 cutMark none with ⟨cutReached, cutAsked⟩
  rcases askFile_fileWorld 2 loneMark none with ⟨loneReached, loneAsked⟩
  refine ⟨rfl, rfl, ?_, ?_, ?_⟩
  · exact (LiveSource.walk_of_askFile { source := fileSource 2 } wholeAsked).exists_live rfl
  · exact (LiveSource.walk_of_askFile { source := fileSource 2 } cutAsked).exists_live rfl
  · exact (LiveSource.walk_of_askFile { source := fileSource 2 } loneAsked).exists_live rfl

end RemoteQuery
