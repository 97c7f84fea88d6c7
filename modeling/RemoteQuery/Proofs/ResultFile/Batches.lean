import Mathlib.Data.List.Forall2
import RemoteQuery.ResultFile.Reading

/-! # What is read of a file

The rows of a file are its data records in their order, up to the first one that is no text.
They depend on the bytes alone, and not on the pieces in which these come, as long as a byte
order mark at the start comes in one piece with what is behind it. Batches cut the rows every so
many of them.
-/

namespace RemoteQuery.ResultFile

/-! ## Rows -/

/-- A row has one cell for each field of a record. An empty field is an absent cell. -/
def RowOf : Record → RawRow → Prop :=
  List.Forall₂ fun field cell =>
    ∃ text, Text.Utf8.decode? field = some text ∧ cell = if text.isEmpty then none else some text

/-- All records have been read, or all in front of one that is no text. -/
structure Reads (broken : Option String) (records : List Record) (reading : Reading) :
    Prop where
  rows : List.Forall₂ RowOf (records.take reading.rows.length) reading.rows
  ended : (reading.rows.length = records.length ∧ reading.failure = broken) ∨
    ∃ record field, records[reading.rows.length]? = some record ∧ field ∈ record ∧
      Text.Utf8.decode? field = none ∧ reading.failure = some notText

private theorem rowOf_of_mapM {record : Record} {row : RawRow}
    (read : record.mapM cell? = some row) : RowOf record row := by
  induction record generalizing row with
  | nil =>
      cases read
      exact .nil
  | cons field rest induction =>
      simp only [List.mapM_cons, Option.bind_eq_bind, Option.bind_eq_some_iff, Option.pure_def,
        Option.some.injEq] at read
      rcases read with ⟨cell, isCell, cells, areCells, rfl⟩
      rcases Option.map_eq_some_iff.mp isCell with ⟨text, decoded, same⟩
      exact .cons ⟨text, decoded, same.symm⟩ (induction areCells)

private theorem exists_undecodable {record : Record} (unread : record.mapM cell? = none) :
    ∃ field ∈ record, Text.Utf8.decode? field = none := by
  induction record with
  | nil => cases unread
  | cons field rest induction =>
      cases decoded : Text.Utf8.decode? field with
      | none => exact ⟨field, List.mem_cons_self, decoded⟩
      | some text =>
          have later : rest.mapM cell? = none := by
            cases read : rest.mapM cell? with
            | none => rfl
            | some cells => simp [List.mapM_cons, cell?, decoded, read] at unread
          rcases induction later with ⟨other, member, undecodable⟩
          exact ⟨other, List.mem_cons_of_mem _ member, undecodable⟩

theorem reads_rowsOf (broken : Option String) (records : List Record) :
    Reads broken records (rowsOf broken records) := by
  induction records with
  | nil => exact ⟨.nil, .inl ⟨rfl, rfl⟩⟩
  | cons record rest induction =>
      unfold rowsOf
      cases read : record.mapM cell? with
      | none =>
          rcases exists_undecodable read with ⟨field, member, undecodable⟩
          exact ⟨.nil, .inr ⟨record, field, rfl, member, undecodable, rfl⟩⟩
      | some row =>
          refine ⟨.cons (rowOf_of_mapM read) induction.rows, ?_⟩
          rcases induction.ended with ⟨all, same⟩ | stopped
          · exact .inl ⟨congrArg (· + 1) all, same⟩
          · exact .inr stopped

/-! ## Pieces -/

def MarkUncut (pieces : List (List UInt8)) : Prop :=
  byteOrderMark.isPrefixOf pieces.flatten = true →
    (pieces.find? (!·.isEmpty)).any byteOrderMark.isPrefixOf = true

/-- A byte order mark is the first piece with something in it, and nothing else is in it. -/
def MarkAlone (pieces : List (List UInt8)) : Prop :=
  pieces.find? (!·.isEmpty) = some byteOrderMark

instance (pieces : List (List UInt8)) : Decidable (MarkAlone pieces) :=
  inferInstanceAs (Decidable (_ = _))

def withoutMark (bytes : List UInt8) : List UInt8 :=
  if byteOrderMark.isPrefixOf bytes then bytes.drop 3 else bytes

private theorem find?_of_filter {pieces rest : List (List UInt8)} {first : List UInt8}
    (filled : pieces.filter (!·.isEmpty) = first :: rest) :
    pieces.find? (!·.isEmpty) = some first := by
  rw [← List.head?_filter, filled, List.head?_cons]

private theorem flatten_of_filter_eq_nil {pieces : List (List UInt8)}
    (empty : pieces.filter (!·.isEmpty) = []) : pieces.flatten = [] := by
  simpa [List.filter_eq_nil_iff] using empty

private theorem isPrefixOf_flatten {pieces rest : List (List UInt8)} {first : List UInt8}
    (filled : pieces.filter (!·.isEmpty) = first :: rest)
    (marked : byteOrderMark.isPrefixOf first = true) :
    byteOrderMark.isPrefixOf pieces.flatten = true := by
  have same : pieces.flatten = (pieces.filter (!·.isEmpty)).flatten :=
    (List.flatten_filter_not_isEmpty).symm
  rw [same, filled, List.flatten_cons]
  rw [List.isPrefixOf_iff_prefix] at marked ⊢
  exact marked.trans (List.prefix_append _ _)

theorem MarkAlone.isPrefixOf {pieces : List (List UInt8)} (alone : MarkAlone pieces) :
    byteOrderMark.isPrefixOf pieces.flatten = true := by
  cases filled : pieces.filter (!·.isEmpty) with
  | nil =>
      rw [MarkAlone, ← List.head?_filter, filled] at alone
      cases alone
  | cons first rest =>
      rw [MarkAlone, find?_of_filter filled] at alone
      refine isPrefixOf_flatten filled ?_
      rw [Option.some.inj alone]
      decide

theorem contents_of_markAlone {download : Download} (alone : MarkAlone download.pieces) :
    contents download = { bytes := [] } := by
  unfold contents
  cases filled : download.pieces.filter (!·.isEmpty) with
  | nil =>
      rw [MarkAlone, ← List.head?_filter, filled] at alone
      cases alone
  | cons first rest =>
      rw [MarkAlone, find?_of_filter filled] at alone
      exact if_pos (Option.some.inj alone)

theorem contents_of_markUncut {download : Download} (uncut : MarkUncut download.pieces)
    (joined : ¬MarkAlone download.pieces) :
    contents download = ⟨withoutMark download.pieces.flatten, download.failure⟩ := by
  unfold contents withoutMark
  cases filled : download.pieces.filter (!·.isEmpty) with
  | nil => rw [flatten_of_filter_eq_nil filled]; rfl
  | cons first rest =>
      rw [MarkUncut, find?_of_filter filled] at uncut
      rw [MarkAlone, find?_of_filter filled] at joined
      dsimp only
      rw [if_neg fun same => joined (congrArg some same)]
      by_cases marked : byteOrderMark.isPrefixOf first = true
      · rw [if_pos marked, if_pos (isPrefixOf_flatten filled marked)]
      · rw [if_neg marked, if_neg fun whole => marked (uncut whole)]

theorem contents_of_unmarked {download : Download}
    (unmarked : byteOrderMark.isPrefixOf download.pieces.flatten = false) :
    contents download = ⟨download.pieces.flatten, download.failure⟩ := by
  have noMark : ¬byteOrderMark.isPrefixOf download.pieces.flatten = true := by
    rw [unmarked]
    exact Bool.false_ne_true
  rw [contents_of_markUncut (fun marked => absurd marked noMark) fun alone =>
    noMark alone.isPrefixOf, withoutMark, if_neg noMark]

theorem contents_of_markCut {download : Download} (cut : ¬MarkUncut download.pieces) :
    contents download = ⟨download.pieces.flatten, download.failure⟩ := by
  unfold contents
  cases filled : download.pieces.filter (!·.isEmpty) with
  | nil => rw [flatten_of_filter_eq_nil filled]
  | cons first rest =>
      have unmarked : ¬byteOrderMark.isPrefixOf first = true := by
        refine fun marked => cut fun _ => ?_
        rw [find?_of_filter filled]
        exact marked
      have other : first ≠ byteOrderMark := by
        rintro rfl
        exact unmarked (by decide)
      dsimp only
      rw [if_neg other, if_neg unmarked]

/-! ## Batches -/

/-- Batches that hold some rows in their order: full ones, and behind them what is left of a
whole file, or what broke the reading. -/
inductive Batched (size : Nat) (failure : Option String) : List RawRow → List Batch → Prop
  | full {rows rest : List RawRow} {batches : List Batch} (filled : rows.length = size)
      (behind : Batched size failure rest batches) :
      Batched size failure (rows ++ rest) (.ok rows :: batches)
  | broken {rest : List RawRow} {message : String} (few : rest.length < size)
      (broken : failure = some message) :
      Batched size failure rest [.error (.resultFile message)]
  | rest {rest : List RawRow} (few : rest.length < size) (something : rest ≠ [])
      (whole : failure = none) : Batched size failure rest [.ok rest]
  | done (whole : failure = none) : Batched size failure [] []

variable {size : Nat} {failure : Option String}

theorem batched_batchesFrom (rows : List RawRow) {waiting : List RawRow}
    (few : waiting.length < size) :
    Batched size failure (waiting.reverse ++ rows) (batchesFrom size failure waiting rows) := by
  induction rows generalizing waiting with
  | nil =>
      rw [List.append_nil]
      unfold batchesFrom
      cases failure with
      | some message => exact .broken (by simpa using few) rfl
      | none =>
          cases waiting with
          | nil => exact .done rfl
          | cons row earlier => exact .rest (by simpa using few) (by simp) rfl
  | cons row rest induction =>
      have shifted : waiting.reverse ++ row :: rest = (row :: waiting).reverse ++ rest := by
        simp
      rw [shifted]
      unfold batchesFrom
      split
      · rename_i filled
        refine .full ?_ (@induction [] (Nat.zero_lt_of_lt few))
        rw [List.length_reverse, List.length_cons]
        omega
      · rename_i unfilled
        exact induction (Nat.lt_of_not_le unfilled)

theorem batched_batches (format : FileFormat) (download : Download) (positive : 0 < size)
    (room : hasRoom size = true) :
    Batched size (read format download).failure (read format download).rows
      (batches format size download) := by
  rw [batches, if_pos room]
  exact @batched_batchesFrom _ _ _ [] positive

theorem Batched.behind_error {rows : List RawRow} {batches before after : List Batch}
    {fault : Fault} (batched : Batched size failure rows batches)
    (fails : batches = before ++ .error fault :: after) :
    after = [] ∧ ∃ message, failure = some message ∧ fault = .resultFile message := by
  induction batched generalizing before with
  | full filled behind induction =>
      cases before with
      | nil => cases fails
      | cons first before =>
          rw [List.cons_append, List.cons.injEq] at fails
          exact induction fails.2
  | broken few broken =>
      cases before with
      | nil =>
          cases fails
          exact ⟨rfl, _, broken, rfl⟩
      | cons first before => simp at fails
  | rest few something whole =>
      cases before with
      | nil => cases fails
      | cons first before => simp at fails
  | done whole => simp at fails

end RemoteQuery.ResultFile
