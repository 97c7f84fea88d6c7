import RemoteQuery.Proofs.Calendar.Spellings
import RemoteQuery.Proofs.Cell.Nulls

/-! # Cells of timestamps

Whatever a column of timestamps with a zone makes of a cell, a column of timestamps without a
zone makes of it too. That column takes the spellings without a zone besides, none of which is a
spelling with a zone, so it does not matter which are tried first.
-/

namespace RemoteQuery

open Calendar (SpellsDateTime SpellsZoned Zoned)

namespace Family

variable {raw : List Char} {value : Value}

theorem readZonedTimestamp_eq_ok_iff :
    readZonedTimestamp raw = .ok value ↔
      ∃ zoned, SpellsZoned raw zoned ∧ value = .zonedTimestamp zoned := by
  simp only [← Calendar.readZoned?_eq_some_iff, readZonedTimestamp]
  constructor
  · intro isRead
    split at isRead
    · rename_i zoned found
      exact ⟨zoned, found, (Except.ok.inj isRead).symm⟩
    · contradiction
  · rintro ⟨zoned, found, rfl⟩
    rw [found]

/-- Spellings without a zone are tried first, which cannot hide a spelling with one. -/
theorem readTimestamp_eq_ok_iff :
    readTimestamp raw = .ok value ↔
      (∃ dateTime, SpellsDateTime raw dateTime ∧ value = .timestamp dateTime) ∨
        ∃ zoned, SpellsZoned raw zoned ∧ value = .zonedTimestamp zoned := by
  rw [readTimestamp]
  constructor
  · intro isRead
    split at isRead
    · rename_i dateTime found
      exact .inl ⟨dateTime, Calendar.readDateTime?_eq_some_iff.mp found,
        (Except.ok.inj isRead).symm⟩
    · split at isRead
      · rename_i zoned found
        exact .inr ⟨zoned, Calendar.readZoned?_eq_some_iff.mp found, (Except.ok.inj isRead).symm⟩
      · contradiction
  · rintro (⟨dateTime, spells, rfl⟩ | ⟨zoned, spells, rfl⟩)
    · rw [Calendar.readDateTime?_eq_some_iff.mpr spells]
    · have noDateTime : Calendar.readDateTime? raw = none := by
        rw [Option.eq_none_iff_forall_ne_some]
        intro dateTime found
        exact (Calendar.readDateTime?_eq_some_iff.mp found).not_spellsZoned spells
      rw [noDateTime, Calendar.readZoned?_eq_some_iff.mpr spells]

end Family

namespace Column

variable {sentinels : Sentinels} {plain zoned : Column}

theorem cast_eq_ok_iff {column : Column} {raw : String} {value : Value}
    (unmarked : ¬sentinels.Marks column.name (some raw)) :
    cast sentinels column (some raw) = .ok value ↔ column.family.readValue raw = .ok value := by
  rw [cast_of_unmarked unmarked]
  cases column.family.readValue raw with
  | error refusal => exact iff_of_false nofun nofun
  | ok content => exact ⟨fun same => congrArg _ (Except.ok.inj same), fun same => same ▸ rfl⟩

theorem cast_zonedTimestamp_eq_ok_iff {raw : String} {value : Value}
    (isZoned : zoned.family = .zonedTimestamp)
    (unmarked : ¬sentinels.Marks zoned.name (some raw)) :
    cast sentinels zoned (some raw) = .ok value ↔
      ∃ zoned, SpellsZoned raw.toList zoned ∧ value = .zonedTimestamp zoned := by
  rw [cast_eq_ok_iff unmarked, isZoned, Family.readValue, Family.readZonedTimestamp_eq_ok_iff]

theorem cast_timestamp_eq_ok_iff {raw : String} {value : Value}
    (isPlain : plain.family = .timestamp) (unmarked : ¬sentinels.Marks plain.name (some raw)) :
    cast sentinels plain (some raw) = .ok value ↔
      (∃ dateTime, SpellsDateTime raw.toList dateTime ∧ value = .timestamp dateTime) ∨
        ∃ zoned, SpellsZoned raw.toList zoned ∧ value = .zonedTimestamp zoned := by
  rw [cast_eq_ok_iff unmarked, isPlain, Family.readValue, Family.readTimestamp_eq_ok_iff]

structure AgreeOnTimestamps (sentinels : Sentinels) (plain zoned : Column) : Prop where
  agree : ∀ (cell : Option String) (value : Value),
    cast sentinels zoned cell = .ok value → cast sentinels plain cell = .ok value
  /-- No text is a spelling for both families. -/
  apart : ∀ (text : List Char) (dateTime : Calendar.DateTime) (zoned : Zoned),
    ¬(SpellsDateTime text dateTime ∧ SpellsZoned text zoned)
  zonedTakes : ∀ (raw : String) (value : Value), ¬sentinels.Marks zoned.name (some raw) →
    (cast sentinels zoned (some raw) = .ok value ↔
      ∃ zoned, SpellsZoned raw.toList zoned ∧ value = .zonedTimestamp zoned)
  plainTakes : ∀ (raw : String) (value : Value), ¬sentinels.Marks plain.name (some raw) →
    (cast sentinels plain (some raw) = .ok value ↔
      (∃ dateTime, SpellsDateTime raw.toList dateTime ∧ value = .timestamp dateTime) ∨
        ∃ zoned, SpellsZoned raw.toList zoned ∧ value = .zonedTimestamp zoned)

/-- Columns of timestamps that have the same name agree on every cell that both of them take. -/
theorem agreeOnTimestamps (isPlain : plain.family = .timestamp)
    (isZoned : zoned.family = .zonedTimestamp) (sameName : plain.name = zoned.name) :
    AgreeOnTimestamps sentinels plain zoned where
  agree cell value isCast := by
    by_cases marked : sentinels.Marks zoned.name cell
    · rw [cast_of_marked marked] at isCast
      rw [cast_of_marked (sameName ▸ marked), isCast]
    · cases cell with
      | none => exact absurd .missing marked
      | some raw =>
          have spelled := (cast_zonedTimestamp_eq_ok_iff isZoned marked).mp isCast
          exact (cast_timestamp_eq_ok_iff isPlain (sameName ▸ marked)).mpr (.inr spelled)
  apart _ _ _ both := both.1.not_spellsZoned both.2
  zonedTakes _ _ := cast_zonedTimestamp_eq_ok_iff isZoned
  plainTakes _ _ := cast_timestamp_eq_ok_iff isPlain

/-- A leap second with an offset, in a spelling that two of the readers know. -/
theorem agreeOnTimestamps_leapSecond :
    let plain := ofType "at" "timestamp"
    let zoned := ofType "at" "Timestamp(3) with time zone"
    plain.family = .timestamp ∧ zoned.family = .zonedTimestamp ∧ plain.name = zoned.name ∧
      ∃ value : Value, value.toString = "2016-12-31 23:59:60.500 +05:45" ∧
        cast {} zoned (some "2016-12-31 23:59:60.5+05:45") = .ok value ∧
        cast {} plain (some "2016-12-31 23:59:60.5+05:45") = .ok value := by
  have isPlain : (ofType "at" "timestamp").family = .timestamp := by decide +kernel
  have isZoned : (ofType "at" "Timestamp(3) with time zone").family = .zonedTimestamp := by
    decide +kernel
  have sameName : (ofType "at" "timestamp").name =
      (ofType "at" "Timestamp(3) with time zone").name := by decide +kernel
  have isCast : (cast {} (ofType "at" "Timestamp(3) with time zone")
      (some "2016-12-31 23:59:60.5+05:45")).map Value.toString =
        .ok "2016-12-31 23:59:60.500 +05:45" := by decide +kernel
  refine ⟨isPlain, isZoned, sameName, ?_⟩
  cases result : cast {} (ofType "at" "Timestamp(3) with time zone")
      (some "2016-12-31 23:59:60.5+05:45") with
  | error fault =>
      rw [result] at isCast
      contradiction
  | ok value =>
      rw [result] at isCast
      exact ⟨value, Except.ok.inj isCast, rfl,
        (agreeOnTimestamps isPlain isZoned sameName).agree _ value result⟩

end Column

end RemoteQuery
