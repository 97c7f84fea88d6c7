import RemoteQuery.Proofs.Cell.Nulls

/-! # Rows of cells

A row is read cell by cell, and it is read as a whole or not at all: there is a value for every
column, or the first cell that cannot be read is named. A row with too many cells is not looked
into.
-/

namespace RemoteQuery.Column

variable {sentinels : Sentinels} {column : Column} {columns : List Column}
  {cells : List (Option String)} {row : Row} {position : Nat} {fault : Fault}
  {answer other : Except Fault Row}

def cellAt (cells : List (Option String)) (position : Nat) : Option String :=
  cells[position]?.join

theorem cellAt_of_ge (behind : cells.length ≤ position) : cellAt cells position = none := by
  rw [cellAt, List.getElem?_eq_none behind]
  rfl

theorem cellAt_zero (cells : List (Option String)) : cellAt cells 0 = cells.headD none := by
  cases cells <;> rfl

theorem cellAt_succ (cells : List (Option String)) (position : Nat) :
    cellAt cells (position + 1) = cellAt cells.tail position := by
  rw [cellAt, cellAt, List.getElem?_tail]

/-! ## Cells one by one -/

section

variable (sentinels : Sentinels) (columns : List Column) (cells : List (Option String))

structure Casts (row : Row) : Prop where
  width : row.length = columns.length
  value (position : Nat) (column : Column) : columns[position]? = some column →
    ∃ value, row[position]? = some value ∧
      cast sentinels column (cellAt cells position) = .ok value

/-- All cells in front of one can be read, and this one cannot. -/
structure FirstMisfit (position : Nat) (fault : Fault) : Prop where
  earlier (before : Nat) (column : Column) : before < position → columns[before]? = some column →
    ∃ value, cast sentinels column (cellAt cells before) = .ok value
  here : ∃ column, columns[position]? = some column ∧
    cast sentinels column (cellAt cells position) = .error fault

inductive RowRead : Except Fault Row → Prop
  | surplus {extra : Option String} (isExtra : cells[columns.length]? = some extra) :
      RowRead (.error (.conversion (columns.length + 1) "<none>" (extra.getD "")
        ("row has " ++ Number.text cells.length ++ " cells but the result has " ++
          Number.text columns.length ++ " columns")))
  | row {row : Row} (fits : cells.length ≤ columns.length)
      (casts : Casts sentinels columns cells row) : RowRead (.ok row)
  | misfit {position : Nat} {fault : Fault} (fits : cells.length ≤ columns.length)
      (misfit : FirstMisfit sentinels columns cells position fault) : RowRead (.error fault)

end

theorem Casts.padded (casts : Casts sentinels columns cells row)
    (missing : cells.length ≤ position) (isColumn : position < columns.length) :
    row[position]? = some .null := by
  obtain ⟨value, isValue, cast⟩ := casts.value position _ (List.getElem?_eq_getElem isColumn)
  rw [cellAt_of_ge missing] at cast
  rw [isValue, ← Except.ok.inj cast]

theorem Casts.cons {value : Value}
    (first : cast sentinels column (cells.headD none) = .ok value)
    (casts : Casts sentinels columns cells.tail row) :
    Casts sentinels (column :: columns) cells (value :: row) where
  width := congrArg (· + 1) casts.width
  value position other isColumn := by
    cases position with
    | zero =>
        cases isColumn
        exact ⟨value, rfl, cellAt_zero cells ▸ first⟩
    | succ position =>
        obtain ⟨value, isValue, cast⟩ := casts.value position other isColumn
        exact ⟨value, isValue, cellAt_succ cells position ▸ cast⟩

theorem FirstMisfit.cons {value : Value}
    (first : cast sentinels column (cells.headD none) = .ok value)
    (misfit : FirstMisfit sentinels columns cells.tail position fault) :
    FirstMisfit sentinels (column :: columns) cells (position + 1) fault where
  earlier before other inFront isColumn := by
    cases before with
    | zero =>
        cases isColumn
        exact ⟨value, cellAt_zero cells ▸ first⟩
    | succ before =>
        rw [cellAt_succ]
        exact misfit.earlier before other (Nat.lt_of_succ_lt_succ inFront) isColumn
  here := by
    obtain ⟨other, isColumn, fails⟩ := misfit.here
    exact ⟨other, isColumn, cellAt_succ cells position ▸ fails⟩

theorem castCells_cases (sentinels : Sentinels) (columns : List Column)
    (cells : List (Option String)) :
    (∃ row, castCells sentinels columns cells = .ok row ∧ Casts sentinels columns cells row) ∨
      ∃ position fault, castCells sentinels columns cells = .error fault ∧
        FirstMisfit sentinels columns cells position fault := by
  induction columns generalizing cells with
  | nil => exact .inl ⟨[], rfl, rfl, fun _ _ isColumn => nomatch isColumn⟩
  | cons column columns induction =>
      rw [castCells]
      cases first : cast sentinels column (cells.headD none) with
      | error fault =>
          refine .inr ⟨0, fault, rfl, ⟨fun _ _ inFront => absurd inFront (Nat.not_lt_zero _), ?_⟩⟩
          exact ⟨column, rfl, cellAt_zero cells ▸ first⟩
      | ok value =>
          rcases induction cells.tail with ⟨row, read, casts⟩ | ⟨position, fault, read, misfit⟩
          · rw [read]
            exact .inl ⟨value :: row, rfl, casts.cons first⟩
          · rw [read]
            exact .inr ⟨position + 1, fault, rfl, misfit.cons first⟩

/-! ## Rows -/

theorem rowRead_castRow (sentinels : Sentinels) (columns : List Column)
    (cells : List (Option String)) :
    RowRead sentinels columns cells (castRow sentinels columns cells) := by
  unfold castRow
  split
  · rename_i many
    have isExtra := List.getElem?_eq_getElem many
    have read := @RowRead.surplus sentinels _ _ _ isExtra
    rw [surplus, isExtra]
    exact read
  · rename_i few
    have fits := Nat.not_lt.mp few
    rcases castCells_cases sentinels columns cells with
      ⟨row, read, casts⟩ | ⟨position, fault, read, misfit⟩
    · rw [read]
      exact .row fits casts
    · rw [read]
      exact .misfit fits misfit

theorem Casts.unique {again : Row} (casts : Casts sentinels columns cells row)
    (castsAgain : Casts sentinels columns cells again) : row = again := by
  apply List.ext_getElem? fun position => ?_
  by_cases within : position < columns.length
  · obtain ⟨value, isValue, cast⟩ := casts.value position _ (List.getElem?_eq_getElem within)
    obtain ⟨same, isSame, castSame⟩ :=
      castsAgain.value position _ (List.getElem?_eq_getElem within)
    rw [isValue, isSame, Except.ok.inj (cast.symm.trans castSame)]
  · rw [List.getElem?_eq_none (casts.width ▸ Nat.not_lt.mp within),
      List.getElem?_eq_none (castsAgain.width ▸ Nat.not_lt.mp within)]

theorem FirstMisfit.not_casts (misfit : FirstMisfit sentinels columns cells position fault) :
    ¬Casts sentinels columns cells row := by
  intro casts
  obtain ⟨column, isColumn, fails⟩ := misfit.here
  obtain ⟨value, -, cast⟩ := casts.value position column isColumn
  cases cast.symm.trans fails

theorem FirstMisfit.unique {again : Nat} {faultAgain : Fault}
    (misfit : FirstMisfit sentinels columns cells position fault)
    (misfitAgain : FirstMisfit sentinels columns cells again faultAgain) :
    position = again ∧ fault = faultAgain := by
  obtain ⟨column, isColumn, fails⟩ := misfit.here
  obtain ⟨other, isOther, failsAgain⟩ := misfitAgain.here
  obtain rfl : position = again := by
    rcases Nat.lt_trichotomy position again with inFront | same | behind
    · obtain ⟨value, cast⟩ := misfitAgain.earlier position column inFront isColumn
      cases cast.symm.trans fails
    · exact same
    · obtain ⟨value, cast⟩ := misfit.earlier again other behind isOther
      cases cast.symm.trans failsAgain
  cases isColumn.symm.trans isOther
  exact ⟨rfl, Except.error.inj (fails.symm.trans failsAgain)⟩

theorem RowRead.unique (read : RowRead sentinels columns cells answer)
    (again : RowRead sentinels columns cells other) : answer = other := by
  have few {extra : Option String} (isExtra : cells[columns.length]? = some extra) :
      ¬cells.length ≤ columns.length := fun fits => by
    cases (List.getElem?_eq_none fits).symm.trans isExtra
  cases read with
  | surplus isExtra =>
      cases again with
      | surplus isAgain => cases isExtra.symm.trans isAgain; rfl
      | row fits | misfit fits => exact absurd fits (few isExtra)
  | row fits casts =>
      cases again with
      | surplus isExtra => exact absurd fits (few isExtra)
      | row _ castsAgain => rw [casts.unique castsAgain]
      | misfit _ misfit => exact absurd casts misfit.not_casts
  | misfit fits misfit =>
      cases again with
      | surplus isExtra => exact absurd fits (few isExtra)
      | row _ casts => exact absurd casts misfit.not_casts
      | misfit _ misfitAgain => rw [(misfit.unique misfitAgain).2]

theorem castRow_eq_iff :
    castRow sentinels columns cells = answer ↔ RowRead sentinels columns cells answer :=
  ⟨fun same => same ▸ rowRead_castRow sentinels columns cells,
    (rowRead_castRow sentinels columns cells).unique⟩

/-! ## Where a row fails -/

inductive FailsAt (sentinels : Sentinels) (columns : List Column) (cells : List (Option String)) :
    Nat → Prop
  | surplus (many : columns.length < cells.length) : FailsAt sentinels columns cells columns.length
  | misfit {position : Nat} {fault : Fault} (fits : cells.length ≤ columns.length)
      (misfit : FirstMisfit sentinels columns cells position fault) :
      FailsAt sentinels columns cells position

/-- A fault names the position, counted from one, and the text of the cell that a row cannot be
read for. -/
def NamesCell (sentinels : Sentinels) (columns : List Column) (cells : List (Option String))
    (fault : Fault) : Prop :=
  ∃ position wireType reason,
    fault = .conversion (position + 1) wireType ((cellAt cells position).getD "") reason ∧
      FailsAt sentinels columns cells position

theorem ordinal_normalize {given : List Column}
    (isColumn : (normalize given)[position]? = some column) : column.ordinal = position + 1 := by
  have ordinals := (normalized_normalize given).ordinals
  have within : position < given.length := by
    have sameLength := congrArg List.length ordinals
    rw [List.length_map, List.length_range'] at sameLength
    rw [← sameLength]
    exact (List.getElem?_eq_some_iff.mp isColumn).1
  have isOrdinal := congrArg (·[position]?) ordinals
  simp only [List.getElem?_map, isColumn, Option.map_some, List.getElem?_range' within,
    Option.some.injEq] at isOrdinal
  omega

theorem namesCell_of_castRow {given : List Column}
    (failed : castRow sentinels (normalize given) cells = .error fault) :
    NamesCell sentinels (normalize given) cells fault := by
  have read := rowRead_castRow sentinels (normalize given) cells
  rw [failed] at read
  cases read with
  | @surplus extra isExtra =>
      obtain rfl : cellAt cells (normalize given).length = extra := by
        rw [cellAt, isExtra, Option.join_some]
      exact ⟨_, _, _, rfl, .surplus (List.getElem?_eq_some_iff.mp isExtra).1⟩
  | @misfit position fault fits misfit =>
      obtain ⟨column, isColumn, fails⟩ := misfit.here
      obtain ⟨raw, refusal, isCell, -, same⟩ := fault_of_cast fails
      rw [ordinal_normalize isColumn] at same
      refine ⟨position, column.wireType, refusal.message, ?_, .misfit fits misfit⟩
      rw [isCell]
      exact same

end RemoteQuery.Column
