import RemoteQuery.Proofs.Cell.Nulls
import RemoteQuery.Proofs.Number.Numeral

/-! # Decimal cells

A numeral in a column of decimals is read as the number that it is. The scale of the column
may add places to it and takes none away, so that neither the scale nor the precision ever
rounds a number.
-/

namespace RemoteQuery

open Number (Numeral Decimal)

/-- A decimal that has the value of a numeral, and all of its places and at least those that
a column asks for. -/
structure Number.Numeral.ReadsAs (numeral : Numeral) (least : Option UInt32)
    (number : Decimal) : Prop where
  value : number.toRat = numeral.toRat
  scale : number.scale =
    match least with
    | some least => max numeral.scale least.toNat
    | none => numeral.scale
  /-- The decimal is shown with as many digits behind the point. -/
  shown : 0 ≤ number.scale →
    ∃ shown : Numeral, (Value.decimal number).toString = shown.text ∧ shown.exponent = none ∧
      (shown.places : Int) = number.scale ∧ shown.toRat = numeral.toRat

variable {numeral : Numeral} {least : Option UInt32}

namespace Number.Numeral

theorem ReadsAs.of_value {number : Decimal} (value : number.toRat = numeral.toRat)
    (scale : number.scale =
      match least with
      | some least => max numeral.scale least.toNat
      | none => numeral.scale) :
    numeral.ReadsAs least number where
  value := value
  scale := scale
  shown := by
    intro nonneg
    obtain ⟨shown, written, noExponent, same⟩ := Decimal.exists_numeral nonneg
    have places := shown.scale_of_no_exponent noExponent
    refine ⟨shown, congrArg String.ofList written, noExponent, ?_, ?_⟩
    · rw [← places, ← same, toDecimal]
    · rw [← shown.toRat_toDecimal, same, value]

end Number.Numeral

theorem Family.readDecimal_numeral (least : Option UInt32) (short : numeral.text.length < 2 ^ 63)
    (inRange : -(2 ^ 63 : Int) ≤ numeral.scale ∧ numeral.scale < (2 ^ 63 : Int)) :
    ∃ number, readDecimal least numeral.text.toList = .ok (.decimal number) ∧
      numeral.ReadsAs least number := by
  have isShort : numeral.chars.length < 2 ^ 63 := by
    rwa [Numeral.text, String.length_ofList] at short
  have read := numeral.read_chars isShort (decide_eq_true inRange)
  rw [Numeral.text, String.toList_ofList]
  unfold readDecimal
  rw [read]
  cases least with
  | none => exact ⟨numeral.toDecimal, rfl, .of_value numeral.toRat_toDecimal rfl⟩
  | some least =>
      exact ⟨numeral.toDecimal.padTo least.toNat, rfl,
        .of_value ((Decimal.toRat_padTo _ _).trans numeral.toRat_toDecimal)
          (Decimal.padTo_scale _ _)⟩

/-- A numeral in a column of decimals, if it is no marker for null, is read without loss. A text
has fewer than `2 ^ 63` characters wherever texts are held in memory. -/
theorem Column.cast_numeral {sentinels : Sentinels} {column : Column}
    {precision scale : Option UInt32}
    (isDecimal : Family.ofWireType column.wireType = .decimal precision scale)
    (short : numeral.text.length < 2 ^ 63)
    (inRange : -(2 ^ 63 : Int) ≤ numeral.scale ∧ numeral.scale < (2 ^ 63 : Int))
    (unmarked : ¬sentinels.Marks column.name (some numeral.text)) :
    ∃ number, cast sentinels column (some numeral.text) = .ok (.decimal number) ∧
      numeral.ReadsAs (scale.or column.scale) number := by
  obtain ⟨number, read, reads⟩ :=
    Family.readDecimal_numeral (scale.or column.scale) short inRange
  refine ⟨number, ?_, reads⟩
  rw [cast_of_unmarked unmarked, family, isDecimal, Family.readValue, read]
  rfl

/-- A number with more digits and more places than its column declares. -/
theorem Column.cast_numeral_unrounded :
    ∃ number, cast {} (ofType "price" "decimal(4,2)") (some "-1234.5e-2") =
        .ok (.decimal number) ∧
      number.toRat = -12345 / 1000 ∧ number.scale = 3 := by
  let exponent : Number.Exponent :=
    ⟨'e', .minus, ['2'], rfl, List.all_eq_true.mp rfl, by decide⟩
  let numeral : Numeral := ⟨.minus, ['1', '2', '3', '4'], some ['5'], some exponent,
    List.all_eq_true.mp rfl, List.all_eq_true.mp rfl, by decide⟩
  have isText : numeral.text = "-1234.5e-2" := by decide +kernel
  have value : numeral.toRat = -12345 / 1000 := by
    change ((-1 : Int) : ℚ) * (((1234 : Nat) : ℚ) + ((5 : Nat) : ℚ) / 10 ^ 1) * 10 ^ (-2 : Int) = _
    norm_num
  have unmarked : ¬Sentinels.Marks {} "price" (some numeral.text) := by
    rw [← Sentinels.isNull_iff, isText]
    decide +kernel
  obtain ⟨number, read, reads⟩ :=
    cast_numeral (show Family.ofWireType (ofType "price" "decimal(4,2)").wireType =
      .decimal (some 4) (some 2) by decide +kernel) (by rw [isText]; decide +kernel)
      (by decide +kernel) unmarked
  exact ⟨number, isText ▸ read, reads.value.trans value, reads.scale⟩

end RemoteQuery
