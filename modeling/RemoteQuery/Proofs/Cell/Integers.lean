import RemoteQuery.Proofs.Cell.Nulls
import RemoteQuery.Proofs.WireTypes

/-! # Integer cells

A cell of an integer column is the integer that its text writes, if 64 bits are enough for it,
and otherwise it is refused. The width that the wire type names makes no difference: a column
of the narrowest type takes all that the widest one takes, and nothing else.
-/

namespace RemoteQuery

open Number (InInt64 IntegerError Writes readInt64 readInt64_eq_ok_iff)
open Text (lowercase)

namespace Family

def integerNames : List String :=
  ["tinyint", "smallint", "integer", "int", "bigint"]

def IsIntegerType (wireType : String) : Prop :=
  lowercase (base wireType) ∈ integerNames

theorem isIntegerType_iff {wireType : String} :
    IsIntegerType wireType ↔ ofWireType wireType = .integer := by
  constructor
  · intro isInteger
    have each : ∀ name ∈ integerNames,
        name ≠ "decimal" ∧ name ≠ "timestamp" ∧ ofBase name = .integer := by decide
    obtain ⟨noDecimal, noTimestamp, isFamily⟩ := each _ isInteger
    rw [ofWireType_eq, complete_ofBase noDecimal noTimestamp, isFamily]
  · intro isFamily
    have each : ∀ entry ∈ known, entry.2 = .integer → entry.1 ∈ integerNames := by decide
    have meaning := congrArg kind isFamily
    rw [ofWireType_eq, kind_complete, kind_ofBase] at meaning
    rcases ofBase_cases (lowercase (base wireType)) with isText | isKnown
    · exact absurd (isText.symm.trans meaning) (by decide)
    · exact each _ isKnown meaning

end Family

namespace Column

variable {sentinels : Sentinels} {column : Column} {raw : String}

theorem family_integer (isInteger : Family.IsIntegerType column.wireType) :
    column.family = .integer := by
  rw [family, Family.isIntegerType_iff.mp isInteger]

theorem cast_integer_eq (isInteger : Family.IsIntegerType column.wireType)
    (unmarked : ¬sentinels.Marks column.name (some raw)) :
    cast sentinels column (some raw) =
      match readInt64 raw.toList with
      | .ok value => .ok (.integer value)
      | .error error => .error (.conversion column.ordinal column.wireType raw error.message) := by
  rw [cast_of_unmarked unmarked, family_integer isInteger, Family.readValue]
  cases readInt64 raw.toList <;> rfl

structure ReadsIntegers (sentinels : Sentinels) (column : Column) (raw : String) : Prop where
  reads (value : Value) :
    cast sentinels column (some raw) = .ok value ↔
      ∃ number, value = .integer number ∧ Writes raw.toList number ∧ InInt64 number
  /-- A text that writes no integer, or none for which 64 bits are enough, is refused. -/
  refuses : (∀ number, Writes raw.toList number → ¬InInt64 number) →
    ∃ error : IntegerError, cast sentinels column (some raw) =
      .error (.conversion column.ordinal column.wireType raw error.message)
  sameValue (wireType : String) : Family.IsIntegerType wireType → ∀ value,
    cast sentinels { column with wireType } (some raw) = .ok value ↔
      cast sentinels column (some raw) = .ok value
  sameReason (wireType : String) : Family.IsIntegerType wireType → ∀ reason,
    cast sentinels { column with wireType } (some raw) =
        .error (.conversion column.ordinal wireType raw reason) ↔
      cast sentinels column (some raw) =
        .error (.conversion column.ordinal column.wireType raw reason)

/-- An integer is read exactly or refused, and the width that its column declares has no part
in this. -/
theorem readsIntegers (isInteger : Family.IsIntegerType column.wireType)
    (unmarked : ¬sentinels.Marks column.name (some raw)) :
    ReadsIntegers sentinels column raw where
  reads value := by
    rw [cast_integer_eq isInteger unmarked]
    constructor
    · intro read
      cases result : readInt64 raw.toList with
      | ok number =>
          rw [result] at read
          exact ⟨number, (Except.ok.inj read).symm, readInt64_eq_ok_iff.mp result⟩
      | error error =>
          rw [result] at read
          contradiction
    · rintro ⟨number, rfl, written⟩
      rw [readInt64_eq_ok_iff.mpr written]
  refuses outside := by
    rw [cast_integer_eq isInteger unmarked]
    cases result : readInt64 raw.toList with
    | ok number =>
        obtain ⟨written, inside⟩ := readInt64_eq_ok_iff.mp result
        exact absurd inside (outside number written)
    | error error => exact ⟨error, rfl⟩
  sameValue wireType other value := by
    rw [cast_integer_eq isInteger unmarked,
      @cast_integer_eq sentinels { column with wireType } raw other unmarked]
    cases readInt64 raw.toList <;> simp
  sameReason wireType other reason := by
    rw [cast_integer_eq isInteger unmarked,
      @cast_integer_eq sentinels { column with wireType } raw other unmarked]
    cases readInt64 raw.toList <;> simp

/-- The least integer of 64 bits, behind zeros and in a column of the narrowest type. The integer
below it is refused. -/
theorem readsIntegers_least :
    cast {} (ofType "count" "TinyInt") (some "-009223372036854775808") =
        .ok (.integer (-2 ^ 63)) ∧
      ∃ error : IntegerError,
        cast {} (ofType "count" "TinyInt") (some "-9223372036854775809") =
          .error (.conversion 0 "TinyInt" "-9223372036854775809" error.message) := by
  have isInteger : Family.IsIntegerType (ofType "count" "TinyInt").wireType :=
    Family.isIntegerType_iff.mpr (by decide +kernel)
  have written (digits : List Char) (all : digits.all Number.isDigit = true)
      (nonempty : digits ≠ []) :
      Writes ('-' :: digits) (-1 * Number.digitsValue digits) :=
    .signed .minus (List.all_eq_true.mp all) nonempty
  constructor
  · have unmarked : ¬Sentinels.Marks {} "count" (some "-009223372036854775808") := by
      rw [← Sentinels.isNull_iff]
      decide +kernel
    refine ((readsIntegers isInteger unmarked).reads _).mpr ⟨_, rfl, ?_, by decide⟩
    exact written "009223372036854775808".toList rfl (by decide)
  · have unmarked : ¬Sentinels.Marks {} "count" (some "-9223372036854775809") := by
      rw [← Sentinels.isNull_iff]
      decide +kernel
    refine (readsIntegers isInteger unmarked).refuses fun number isNumber => ?_
    rw [isNumber.unique (written "9223372036854775809".toList rfl (by decide))]
    decide

end Column

end RemoteQuery
