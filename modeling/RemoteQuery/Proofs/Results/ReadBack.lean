import RemoteQuery.Proofs.ResultFile.Written
import RemoteQuery.Proofs.Results.Walk

/-! # Written rows, page by page

A walk through a file that was written of some rows comes to these rows again, whatever its header
says and whatever its lines end with.
-/

namespace RemoteQuery

variable {σ : Type}

namespace ResultFile

theorem batchesFrom_zero (failure : Option String) (waiting rows : List RawRow) :
    batchesFrom 0 failure waiting rows = batchesFrom 1 failure waiting rows := by
  induction rows generalizing waiting with
  | nil => rfl
  | cons row rows induction =>
      rw [batchesFrom, batchesFrom, if_pos (Nat.zero_le _), if_pos (Nat.le_add_left 1 _),
        induction]

theorem readCell_some (text : String) :
    readCell (some text) = if text.isEmpty then none else some text := by
  cases empty : text.isEmpty <;> simp [readCell, Option.filter, empty]

theorem exists_batched {format : FileFormat} {size : Nat} {download : Download}
    {rows : List RawRow} (room : hasRoom size = true)
    (reading : read format download = ⟨rows, none⟩) :
    ∃ count, 0 < count ∧ Batched count none rows (batches format size download) := by
  rw [batches, if_pos room, reading]
  rcases Nat.eq_zero_or_pos size with rfl | positive
  · rw [batchesFrom_zero]
    exact ⟨1, Nat.one_pos, @batched_batchesFrom _ _ rows [] Nat.one_pos⟩
  · exact ⟨size, positive, @batched_batchesFrom _ _ rows [] positive⟩

end ResultFile

section

variable {environment : Environment σ} (live : LiveSource σ) {world reached : World σ}
  {download : Download} {rows : List RawRow}

def LiveSource.pagesOf (live : LiveSource σ) (rows : List RawRow) : List Page :=
  (pagesFrom live.source.columns 0
    (ResultFile.batchesFrom live.source.pageSize none [] rows)).1

theorem LiveSource.walk_of_read (room : ResultFile.hasRoom live.source.pageSize = true)
    (asked : live.source.askFile environment world = (.ok download, reached))
    (reading : ResultFile.read live.source.location.format download = ⟨rows, none⟩) :
    Walk (BulkSource.Fetches environment) live.settled none world (live.pagesOf rows) none ∧
      (live.pagesOf rows).flatMap (·.rows) = rows := by
  have walk := live.walk_of_askFile asked
  rcases ResultFile.exists_batched room reading with ⟨count, positive, batched⟩
  rcases @pagesFrom_complete live.source.columns _ _ _ positive batched 0 with
    ⟨ending, complete⟩
  have batches : ResultFile.batches live.source.location.format live.source.pageSize download =
      ResultFile.batchesFrom live.source.pageSize none [] rows := by
    rw [ResultFile.batches, if_pos room, reading]
  rw [ending, batches] at walk
  rw [batches] at complete
  exact ⟨walk, complete.inOrder⟩

/-- A walk through a file comes to the rows that the file was written of, an empty cell being
absent, and to its end. Files of the same rows have the same pages, whatever their headers are. -/
theorem LiveSource.readsBack {texts : List (List String)}
    (room : ResultFile.hasRoom live.source.pageSize = true)
    (asked : live.source.askFile environment world = (.ok download, reached))
    (whole : download.failure = none)
    (spells : ResultFile.Spells live.source.location.format download.pieces texts) :
    (∃ pages, Walk (LiveSource.Fetches environment) live none world pages none) ∧
    (∀ pages ending, Walk (LiveSource.Fetches environment) live none world pages ending →
      ending = none ∧ (∀ page ∈ pages, page.columns = live.source.columns) ∧
      pages.flatMap (·.rows) =
        texts.map (List.map fun text => if text.isEmpty then none else some text)) ∧
    ∀ again behind other, live.source.askFile environment again = (.ok other, behind) →
      other.failure = none →
      ResultFile.Spells live.source.location.format other.pieces texts →
      ∀ pages ending otherPages otherEnding,
        Walk (LiveSource.Fetches environment) live none world pages ending →
        Walk (LiveSource.Fetches environment) live none again otherPages otherEnding →
        otherPages = pages := by
  have cells : (texts.map (List.map some)).map (List.map ResultFile.readCell) =
      texts.map (List.map fun text => if text.isEmpty then none else some text) := by
    simp only [List.map_map, Function.comp_def, ResultFile.readCell_some]
  have reading := ResultFile.read_of_holds whole spells.holds
  rw [cells] at reading
  rcases live.walk_of_read room asked reading with ⟨walk, inOrder⟩
  refine ⟨⟨_, walk.exists_live rfl⟩, ?_, ?_⟩
  · intro pages ending through
    rcases through.settled.unique walk with ⟨rfl, rfl⟩
    exact ⟨rfl, columns_of_pagesFrom _ _, inOrder⟩
  · intro again behind other askedAgain wholeToo spellsToo pages ending otherPages otherEnding
      through throughOther
    have readingToo := ResultFile.read_of_holds wholeToo spellsToo.holds
    rw [cells] at readingToo
    have walkToo := (live.walk_of_read room askedAgain readingToo).1
    rw [(through.settled.unique walk).1, (throughOther.settled.unique walkToo).1]

end

/-! ### Quotes, line ends, and a page without room -/

def headedWorld (pieces : List (List UInt8)) : World Rehearsal.Script :=
  { outside := { objects := [("s3://results/q1.csv", { pieces })] } }

def headedSource (pageSize : Nat) : LiveSource Rehearsal.Script :=
  { source :=
      { fileSource pageSize with location := { uri := "s3://results/q1.csv", format := .csv } } }

/-- A file of the text `x",` and an empty one, behind the name `a`. Its lines end in two ways, and
the last one does not end. -/
def quotedPieces : List (List UInt8) :=
  [[97, 13, 10, 34, 120, 34], [34, 44, 34, 10, 34, 34]]

theorem spells_quotedPieces :
    ResultFile.Spells .csv quotedPieces [["x\","], [""]] := by
  have header : (ResultFile.Layout.ofFormat .csv).WritesRecord [97] [[97]] := by
    refine .last (.plain fun byte member => ?_)
    rw [List.mem_singleton.mp member]
    constructor <;> decide
  have first : ResultFile.textLine .csv ["x\","] = [34, 120, 34, 34, 44, 34] := by decide +kernel
  have second : ResultFile.textLine .csv [""] = [34, 34] := by decide +kernel
  refine .csv header (by decide) (by decide) (by decide) ?_
  rw [List.map_cons, List.map_singleton, first, second]
  exact .returned (.ended .unended)

theorem readsBack_quotedPieces :
    ∃ download reached,
      (headedSource 1).source.askFile (Rehearsal.environment true default)
        (headedWorld quotedPieces) = (.ok download, reached) ∧
      download.failure = none ∧
      (∃ pages, Walk (LiveSource.Fetches (Rehearsal.environment true default)) (headedSource 1)
        none (headedWorld quotedPieces) pages none) ∧
      ∀ pages ending, Walk (LiveSource.Fetches (Rehearsal.environment true default))
          (headedSource 1) none (headedWorld quotedPieces) pages ending →
        ending = none ∧ pages.flatMap (·.rows) = [[some "x\","], [none]] := by
  have asked : (headedSource 1).source.askFile (Rehearsal.environment true default)
      (headedWorld quotedPieces) = (.ok { pieces := quotedPieces }, _) := rfl
  have readsBack := (headedSource 1).readsBack (by decide) asked rfl spells_quotedPieces
  refine ⟨_, _, asked, rfl, readsBack.1, fun pages ending walk => ?_⟩
  rcases readsBack.2.1 pages ending walk with ⟨ended, -, inOrder⟩
  exact ⟨ended, inOrder.trans (by decide +kernel)⟩

/-- Where there is no room for a page of rows, a file looks as if it had no rows. -/
theorem readsNothing_withoutRoom :
    ∃ download reached,
      (headedSource (10 ^ 18)).source.askFile (Rehearsal.environment true default)
        (headedWorld quotedPieces) = (.ok download, reached) ∧
      download.failure = none ∧
      ResultFile.Spells .csv download.pieces [["x\","], [""]] ∧
      Walk (LiveSource.Fetches (Rehearsal.environment true default)) (headedSource (10 ^ 18)) none
        (headedWorld quotedPieces) [.of fileColumns [] none none] none := by
  have asked : (headedSource (10 ^ 18)).source.askFile (Rehearsal.environment true default)
      (headedWorld quotedPieces) = (.ok { pieces := quotedPieces }, _) := rfl
  have walk := (headedSource (10 ^ 18)).walk_of_askFile asked
  have nothing : ResultFile.batches .csv (10 ^ 18) { pieces := quotedPieces } = [] := by
    rw [ResultFile.batches, if_neg (by decide)]
  exact ⟨_, _, asked, rfl, spells_quotedPieces, (nothing ▸ walk).exists_live rfl⟩

/-- A header of nothing but a byte order mark is none, and the first row is taken for it. -/
example :
    ResultFile.read .csv { pieces := [[0xEF, 0xBB, 0xBF, 10, 34, 49, 34, 10]] } = ⟨[], none⟩ := by
  decide +kernel

end RemoteQuery
