import RemoteQuery.Proofs.Calendar.Zoned
import RemoteQuery.Proofs.Cell.Nulls
import RemoteQuery.Proofs.Number.Decimal
import RemoteQuery.Proofs.Text.Utf8

/-! # Cells that are written and read again

Whatever value a cell has, the text of this value is read in the same column as an equal
value. Only a decimal with a negative scale comes back with other digits; it is the same
number without an exponent.
-/

namespace RemoteQuery

inductive Value.ReadsAs : Value → Value → Prop where
  | same (value : Value) : ReadsAs value value
  /-- Zeros take the place of an exponent. -/
  | wholeNumber {written again : Number.Decimal} (negative : written.scale < 0)
      (equal : again.toRat = written.toRat) : ReadsAs (.decimal written) (.decimal again)

namespace Family

/-- The text of a value is read as an equal value. -/
def TakesBack (family : Family) (value : Value) : Prop :=
  ∃ again, family.readValue value.toString = .ok again ∧ value.ReadsAs again

variable {family : Family} {raw : String} {value : Value}

theorem takesBack_of_eq (isRead : family.readValue value.toString = .ok value) :
    family.TakesBack value :=
  ⟨value, isRead, .same value⟩

/-! ## Families one by one -/

theorem takesBack_boolean (isRead : readValue .boolean raw = .ok value) :
    TakesBack .boolean value := by
  rw [readValue] at isRead
  unfold readBoolean at isRead
  split at isRead
  · rw [← Except.ok.inj isRead]
    exact takesBack_of_eq rfl
  · rw [← Except.ok.inj isRead]
    exact takesBack_of_eq rfl
  · contradiction

theorem takesBack_integer (isRead : readValue .integer raw = .ok value) :
    TakesBack .integer value := by
  obtain ⟨number, ofText, rfl⟩ := read_of_map isRead
  apply takesBack_of_eq
  rw [Value.toString, readValue, String.toList_ofList, Number.readInt64_signedDigits ofText]
  rfl

theorem takesBack_date (isRead : readValue .date raw = .ok value) : TakesBack .date value := by
  obtain ⟨date, _, rfl⟩ := read_of_map isRead
  apply takesBack_of_eq
  rw [Value.toString, readValue, String.toList_ofList, Calendar.readDate_toChars]
  rfl

theorem takesBack_time (isRead : readValue .time raw = .ok value) : TakesBack .time value := by
  obtain ⟨time, ofText, rfl⟩ := read_of_map isRead
  apply takesBack_of_eq
  rw [Value.toString, readValue, String.toList_ofList, Calendar.readTime_toChars,
    Calendar.TimeOfDay.shown_of_proper (Calendar.proper_of_readTime ofText)]
  rfl

/-- A decimal keeps its digits and its scale unless the scale is negative, which it never is
in a column with a scale. -/
theorem takesBack_decimal {precision scale : Option UInt32}
    (isRead : readValue (.decimal precision scale) raw = .ok value) :
    TakesBack (.decimal precision scale) value := by
  rw [readValue] at isRead
  unfold readDecimal at isRead
  split at isRead
  · contradiction
  · rename_i number scale ofText
    rw [← Except.ok.inj isRead]
    apply takesBack_of_eq
    have padded : (scale.toNat : Int) ≤ (number.padTo scale.toNat).scale := by
      rw [Number.Decimal.padTo_scale]
      exact Int.le_max_right _ _
    simp only [Value.toString, readValue, Number.Decimal.toString, String.toList_ofList,
      readDecimal, Number.Decimal.read_plain_padTo ofText, Number.Decimal.padTo_of_le padded]
  · rename_i number ofText
    rw [← Except.ok.inj isRead]
    rcases Int.lt_or_le number.scale 0 with negative | nonneg
    · refine ⟨.decimal number.wholeNumber, ?_, .wholeNumber negative
        (Number.Decimal.toRat_wholeNumber (Int.le_of_lt negative))⟩
      simp only [Value.toString, readValue, Number.Decimal.toString, String.toList_ofList,
        readDecimal, Number.Decimal.read_plain_of_nonpos (Int.le_of_lt negative)]
    · apply takesBack_of_eq
      simp only [Value.toString, readValue, Number.Decimal.toString, String.toList_ofList,
        readDecimal, Number.Decimal.read_plain_of_nonneg nonneg
          (Number.Decimal.scaleInRange_of_read ofText)]

theorem takesBack_zonedTimestamp (isRead : readValue .zonedTimestamp raw = .ok value) :
    TakesBack .zonedTimestamp value := by
  rw [readValue, readZonedTimestamp] at isRead
  split at isRead
  · rename_i ofText
    rw [← Except.ok.inj isRead]
    apply takesBack_of_eq
    rw [Value.toString, readValue, String.toList_ofList, readZonedTimestamp,
      Calendar.readZoned?_toChars (Calendar.plain_of_readZoned? ofText)]
  · contradiction

/-- In a column of timestamps without a zone, a timestamp with a zone is read only where no
other can be read, and so it is when it is read again. -/
theorem takesBack_timestamp (isRead : readValue .timestamp raw = .ok value) :
    TakesBack .timestamp value := by
  rw [readValue, readTimestamp] at isRead
  split at isRead
  · rename_i ofText
    rw [← Except.ok.inj isRead]
    apply takesBack_of_eq
    rw [Value.toString, readValue, String.toList_ofList, readTimestamp,
      Calendar.readDateTime?_toChars,
      Calendar.DateTime.shown_of_proper (Calendar.proper_of_readDateTime? ofText)]
  · split at isRead
    · rename_i ofText
      rw [← Except.ok.inj isRead]
      apply takesBack_of_eq
      rw [Value.toString, readValue, String.toList_ofList, readTimestamp,
        Calendar.readDateTime?_toChars_zoned,
        Calendar.readZoned?_toChars (Calendar.plain_of_readZoned? ofText)]
    · contradiction

theorem takesBack_binary (isRead : readValue .binary raw = .ok value) :
    TakesBack .binary value := by
  rw [readValue] at isRead
  rw [← Except.ok.inj isRead]
  apply takesBack_of_eq
  rw [Value.toString, readValue, Text.Utf8.decodeLossy_encode]

/-! ## All families -/

theorem takesBack_of_readValue (exact : family ≠ .float)
    (isRead : family.readValue raw = .ok value) : family.TakesBack value := by
  cases family with
  | boolean => exact takesBack_boolean isRead
  | integer => exact takesBack_integer isRead
  | float => contradiction
  | decimal => exact takesBack_decimal isRead
  | date => exact takesBack_date isRead
  | time => exact takesBack_time isRead
  | timestamp => exact takesBack_timestamp isRead
  | zonedTimestamp => exact takesBack_zonedTimestamp isRead
  | binary => exact takesBack_binary isRead
  | text | array | map | row =>
      rw [readValue] at isRead
      rw [← Except.ok.inj isRead]
      exact takesBack_of_eq rfl

/-- The text of a value that is not null is not empty, as an empty cell would be null. -/
theorem toString_ne_empty (exact : family ≠ .float) (hasText : raw ≠ "")
    (isRead : family.readValue raw = .ok value) : value.toString ≠ "" := by
  intro empty
  obtain ⟨again, isAgain, _⟩ := takesBack_of_readValue exact isRead
  rw [empty] at isAgain
  cases family with
  | boolean | integer | date | time | timestamp | zonedTimestamp => cases isAgain
  | decimal precision scale => cases scale <;> cases isAgain
  | float => contradiction
  | binary =>
      rw [readValue] at isRead
      rw [← Except.ok.inj isRead, Value.toString, Text.Utf8.decodeLossy_encode] at empty
      exact hasText empty
  | text | array | map | row =>
      rw [readValue] at isRead
      rw [← Except.ok.inj isRead, Value.toString] at empty
      exact hasText empty

end Family

namespace Column

theorem cast_of_hasText {column : Column} {raw : String} {value : Value} (hasText : raw ≠ "") :
    cast {} column (some raw) = .ok value ↔ column.family.readValue raw = .ok value := by
  have noNull : Sentinels.isNull {} column.name raw = false := by
    simp [Sentinels.isNull, hasText]
  rw [cast, noNull, if_neg Bool.false_ne_true]
  cases column.family.readValue raw with
  | error refusal => constructor <;> intro <;> contradiction
  | ok content => exact ⟨fun same => congrArg _ (Except.ok.inj same), fun same => same ▸ rfl⟩

theorem cast_empty (column : Column) : cast {} column (some "") = .ok .null := rfl

/-- Where nothing but missing and empty cells is null, the text of a cell's value is read in
the same column as an equal value. -/
theorem cast_toString {column : Column} {raw : Option String} {value : Value}
    (exact : column.family ≠ .float) (isRead : cast {} column raw = .ok value) :
    ∃ again, cast {} column (some value.toString) = .ok again ∧ value.ReadsAs again := by
  have null_again : ∃ again, cast {} column (some Value.null.toString) = .ok again ∧
      Value.null.ReadsAs again :=
    ⟨.null, cast_empty column, .same .null⟩
  cases raw with
  | none =>
      rw [← Except.ok.inj isRead]
      exact null_again
  | some raw =>
      by_cases hasText : raw = ""
      · rw [hasText, cast_empty] at isRead
        rw [← Except.ok.inj isRead]
        exact null_again
      · rw [cast_of_hasText hasText] at isRead
        obtain ⟨again, isAgain, readsAs⟩ := Family.takesBack_of_readValue exact isRead
        refine ⟨again, ?_, readsAs⟩
        rw [cast_of_hasText (Family.toString_ne_empty exact hasText isRead)]
        exact isAgain

/-- A decimal with an exponent is written without one. -/
theorem cast_toString_exponent :
    (ofType "price" "decimal").family ≠ .float ∧
      cast {} (ofType "price" "decimal") (some "-1.5E+3") = .ok (.decimal ⟨-15, -2⟩) ∧
      (Value.decimal ⟨-15, -2⟩).toString = "-1500" ∧
      ∃ again, cast {} (ofType "price" "decimal") (some "-1500") = .ok again ∧
        (Value.decimal ⟨-15, -2⟩).ReadsAs again := by
  have exact : (ofType "price" "decimal").family ≠ .float := by
    have family : (ofType "price" "decimal").family = .decimal none none := by decide +kernel
    rw [family]
    intro same
    contradiction
  have isRead : cast {} (ofType "price" "decimal") (some "-1.5E+3") =
      .ok (.decimal ⟨-15, -2⟩) := by decide +kernel
  have written : (Value.decimal ⟨-15, -2⟩).toString = "-1500" := by decide +kernel
  refine ⟨exact, isRead, written, ?_⟩
  rw [← written]
  exact cast_toString exact isRead

end Column

end RemoteQuery
