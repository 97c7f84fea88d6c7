import RemoteQuery.Cell.Cast
import RemoteQuery.Proofs.Columns

/-! # Null cells

Whether a cell is null is for the null markers to say, and for nobody else: no reader of a
family makes null of a text, and no marker changes what is made of a text that it does not
match. A marker for the columns of one name matches in one column at most, since the columns
of a result have different names.
-/

namespace RemoteQuery

/-! ## Markers -/

namespace Sentinels

inductive Marks (sentinels : Sentinels) (name : String) : (cell : Option String) → Prop
  | missing : Marks sentinels name none
  | empty : Marks sentinels name (some "")
  | anywhere {token : String} (listed : token ∈ sentinels.anywhere) :
      Marks sentinels name (some token)
  | inColumn {token : String} {tokens : List String}
      (registered : (name, tokens) ∈ sentinels.perColumn) (listed : token ∈ tokens) :
      Marks sentinels name (some token)

def withColumnToken (name token : String) (sentinels : Sentinels) : Sentinels :=
  { sentinels with perColumn := (name, [token]) :: sentinels.perColumn }

variable {sentinels : Sentinels} {name column token raw : String} {cell : Option String}

theorem isNull_iff : sentinels.isNull name raw = true ↔ sentinels.Marks name (some raw) := by
  simp only [isNull, Bool.or_eq_true, or_assoc, String.isEmpty_iff, List.contains_eq_mem,
    decide_eq_true_eq, List.any_eq_true, Bool.and_eq_true, beq_iff_eq, Prod.exists]
  constructor
  · rintro (rfl | listed | ⟨_, tokens, registered, rfl, listed⟩)
    · exact .empty
    · exact .anywhere listed
    · exact .inColumn registered listed
  · intro marks
    cases marks with
    | empty => exact .inl rfl
    | anywhere listed => exact .inr (.inl listed)
    | inColumn registered listed => exact .inr (.inr ⟨name, _, registered, rfl, listed⟩)

theorem marks_withColumnToken_iff :
    (sentinels.withColumnToken name token).Marks column cell ↔
      (column = name ∧ cell = some token) ∨ sentinels.Marks column cell := by
  constructor
  · intro marks
    cases marks with
    | missing => exact .inr .missing
    | empty => exact .inr .empty
    | anywhere listed => exact .inr (.anywhere listed)
    | inColumn registered listed =>
        rcases List.mem_cons.mp registered with same | registered
        · cases same
          exact .inl ⟨rfl, congrArg some (List.mem_singleton.mp listed)⟩
        · exact .inr (.inColumn registered listed)
  · rintro (⟨rfl, rfl⟩ | marks)
    · exact .inColumn List.mem_cons_self (List.mem_singleton_self token)
    · cases marks with
      | missing => exact .missing
      | empty => exact .empty
      | anywhere listed => exact .anywhere listed
      | inColumn registered listed =>
          exact .inColumn (List.mem_cons_of_mem _ registered) listed

end Sentinels

/-! ## Families -/

namespace Family

variable {family : Family} {raw : String} {value : Value}

/-- The values that the texts of a family are read as. A timestamp can bring its zone along. -/
inductive Makes : Family → Value → Prop
  | boolean (value : Bool) : Makes .boolean (.boolean value)
  | integer (value : Int) : Makes .integer (.integer value)
  | float (value : Number.Binary64) : Makes .float (.float value)
  | decimal {precision scale : Option UInt32} (value : Number.Decimal) :
      Makes (.decimal precision scale) (.decimal value)
  | date (value : Calendar.Date) : Makes .date (.date value)
  | time (value : Calendar.TimeOfDay) : Makes .time (.time value)
  | timestamp (value : Calendar.DateTime) : Makes .timestamp (.timestamp value)
  | unexpectedZone (value : Calendar.Zoned) : Makes .timestamp (.zonedTimestamp value)
  | zonedTimestamp (value : Calendar.Zoned) : Makes .zonedTimestamp (.zonedTimestamp value)
  | text (value : String) : Makes .text (.text value)
  | binary (bytes : List UInt8) : Makes .binary (.binary bytes)
  | structured {family : Family} (nested : family.isStructured = true) (value : String) :
      Makes family (.structured value)

theorem read_of_map {ε α : Type} {read : Except ε α} {make : α → Value} {refuse : ε → Refusal}
    (isRead : (read.map make).mapError refuse = .ok value) :
    ∃ content, read = .ok content ∧ make content = value := by
  cases read with
  | error fault => contradiction
  | ok content => exact ⟨content, rfl, Except.ok.inj isRead⟩

theorem makes_of_readValue (isRead : family.readValue raw = .ok value) : family.Makes value := by
  cases family with
  | boolean =>
      rw [readValue] at isRead
      unfold readBoolean at isRead
      split at isRead
      · exact Except.ok.inj isRead ▸ .boolean true
      · exact Except.ok.inj isRead ▸ .boolean false
      · contradiction
  | integer =>
      obtain ⟨number, -, rfl⟩ := read_of_map isRead
      exact .integer number
  | float =>
      rw [readValue] at isRead
      split at isRead
      · exact Except.ok.inj isRead ▸ .float _
      · contradiction
  | decimal precision scale =>
      rw [readValue] at isRead
      unfold readDecimal at isRead
      split at isRead
      · contradiction
      · exact Except.ok.inj isRead ▸ .decimal _
      · exact Except.ok.inj isRead ▸ .decimal _
  | date =>
      obtain ⟨date, -, rfl⟩ := read_of_map isRead
      exact .date date
  | time =>
      obtain ⟨time, -, rfl⟩ := read_of_map isRead
      exact .time time
  | timestamp =>
      rw [readValue] at isRead
      unfold readTimestamp at isRead
      split at isRead
      · exact Except.ok.inj isRead ▸ .timestamp _
      · split at isRead
        · exact Except.ok.inj isRead ▸ .unexpectedZone _
        · contradiction
  | zonedTimestamp =>
      rw [readValue] at isRead
      unfold readZonedTimestamp at isRead
      split at isRead
      · exact Except.ok.inj isRead ▸ .zonedTimestamp _
      · contradiction
  | text => exact Except.ok.inj isRead ▸ .text raw
  | binary => exact Except.ok.inj isRead ▸ .binary _
  | array | map | row => exact Except.ok.inj isRead ▸ .structured rfl raw

theorem readValue_ne_null (family : Family) (raw : String) : family.readValue raw ≠ .ok .null :=
  fun isRead => nomatch makes_of_readValue isRead

/-- Each of the views of a value is there in its own family only. Texts and the texts of nested
values share one. -/
structure Shows (family : Family) (value : Value) : Prop where
  boolean : value.boolean?.isSome ↔ family = .boolean
  integer : value.integer?.isSome ↔ family = .integer
  float : value.float?.isSome ↔ family = .float
  decimal : value.decimal?.isSome ↔ ∃ precision scale, family = .decimal precision scale
  text : value.text?.isSome ↔ family = .text ∨ family.isStructured = true

theorem Makes.shows (makes : family.Makes value) : family.Shows value := by
  cases makes with
  | @structured family nested value =>
      cases family with
      | array | map | row =>
          constructor <;> simp [isStructured, Value.boolean?, Value.integer?, Value.float?,
            Value.decimal?, Value.text?]
      | _ => contradiction
  | _ =>
      constructor <;> simp [isStructured, Value.boolean?, Value.integer?, Value.float?,
        Value.decimal?, Value.text?]

end Family

/-! ## Cells -/

namespace Column

variable {sentinels : Sentinels} {column : Column} {cell : Option String}

theorem cast_of_marked (marked : sentinels.Marks column.name cell) :
    cast sentinels column cell = .ok .null := by
  cases cell with
  | none => rfl
  | some raw => rw [cast, if_pos (Sentinels.isNull_iff.mpr marked)]

theorem cast_of_unmarked {raw : String} (unmarked : ¬sentinels.Marks column.name (some raw)) :
    cast sentinels column (some raw) =
      (column.family.readValue raw).mapError fun refusal =>
        .conversion column.ordinal column.wireType raw refusal.message := by
  rw [cast, if_neg (fun isNull => unmarked (Sentinels.isNull_iff.mp isNull))]

theorem not_marks_nothing (unmarked : ¬sentinels.Marks column.name cell) :
    ¬Sentinels.Marks {} column.name cell := by
  intro marks
  cases marks with
  | missing => exact unmarked .missing
  | empty => exact unmarked .empty
  | anywhere listed => cases listed
  | inColumn registered listed => cases registered

theorem cast_eq_null_iff :
    cast sentinels column cell = .ok .null ↔ sentinels.Marks column.name cell := by
  refine ⟨fun isNull => ?_, cast_of_marked⟩
  by_contra unmarked
  cases cell with
  | none => exact unmarked .missing
  | some raw =>
      rw [cast_of_unmarked unmarked] at isNull
      have notNull := column.family.readValue_ne_null raw
      cases read : column.family.readValue raw with
      | error refusal => simp only [read, Except.mapError, reduceCtorEq] at isNull
      | ok value =>
          simp only [read, Except.mapError, Except.ok.injEq] at isNull
          exact notNull (isNull ▸ read)

theorem cast_eq_cast_nothing (unmarked : ¬sentinels.Marks column.name cell) :
    cast sentinels column cell = cast {} column cell := by
  cases cell with
  | none => exact absurd .missing unmarked
  | some raw => rw [cast_of_unmarked unmarked, cast_of_unmarked (not_marks_nothing unmarked)]

theorem fault_of_cast {fault : Fault} (fails : cast sentinels column cell = .error fault) :
    ∃ raw refusal, cell = some raw ∧ column.family.readValue raw = .error refusal ∧
      fault = .conversion column.ordinal column.wireType raw refusal.message := by
  by_cases marked : sentinels.Marks column.name cell
  · rw [cast_of_marked marked] at fails
    contradiction
  · cases cell with
    | none => exact absurd .missing marked
    | some raw =>
        rw [cast_of_unmarked marked] at fails
        cases read : column.family.readValue raw with
        | error refusal =>
            simp only [read, Except.mapError, Except.error.injEq] at fails
            exact ⟨raw, refusal, rfl, read, fails.symm⟩
        | ok value => simp only [read, Except.mapError, reduceCtorEq] at fails

end Column

/-! ## Markers for a name -/

namespace Sentinels

/-- One more marker for a name changes what some cell in a position is read as. -/
def Affects (sentinels : Sentinels) (name token : String) (columns : List Column)
    (position : Nat) : Prop :=
  ∃ column cell, columns[position]? = some column ∧
    Column.cast (sentinels.withColumnToken name token) column cell ≠
      Column.cast sentinels column cell

variable {sentinels : Sentinels} {name token : String} {columns : List Column}
  {position other : Nat}

theorem Affects.isName (affects : sentinels.Affects name token columns position) :
    (Column.names columns)[position]? = some name := by
  obtain ⟨column, cell, isColumn, changed⟩ := affects
  rw [Column.names, List.getElem?_map, isColumn, Option.map_some]
  by_contra others
  have unlike : column.name ≠ name := fun same => others (congrArg some same)
  have same : (sentinels.withColumnToken name token).Marks column.name cell ↔
      sentinels.Marks column.name cell := by
    rw [marks_withColumnToken_iff]
    exact or_iff_right fun matched => unlike matched.1
  by_cases marked : sentinels.Marks column.name cell
  · rw [Column.cast_of_marked marked, Column.cast_of_marked (same.mpr marked)] at changed
    contradiction
  · rw [Column.cast_eq_cast_nothing marked,
      Column.cast_eq_cast_nothing (mt same.mp marked)] at changed
    contradiction

theorem Affects.unique (affects : sentinels.Affects name token (Column.normalize columns) position)
    (again : sentinels.Affects name token (Column.normalize columns) other) :
    position = other := by
  have distinct := (Column.normalized_normalize columns).distinct
  have within : position < (Column.names (Column.normalize columns)).length :=
    (List.getElem?_eq_some_iff.mp affects.isName).1
  exact (List.getElem?_inj within distinct).mp (affects.isName.trans again.isName.symm)

theorem Affects.first (affects : sentinels.Affects name token (Column.normalize columns) position)
    (given : name ∈ Column.names columns) :
    (Column.names columns)[position]? = some name ∧
      name ∉ Column.names (columns.take position) := by
  have normalized := Column.normalized_normalize columns
  have sameLength : (Column.normalize columns).length = columns.length := by
    simpa using congrArg List.length normalized.ordinals
  have within : position < columns.length := by
    have bound := (List.getElem?_eq_some_iff.mp affects.isName).1
    rwa [Column.names, List.length_map, sameLength] at bound
  have isColumn := List.getElem?_eq_getElem within
  obtain ⟨result, isResult, becomes⟩ := normalized.becomes position _ isColumn
  have isName : result.name = name := by
    have named := affects.isName
    rw [Column.names, List.getElem?_map, isResult] at named
    exact Option.some.inj named
  by_cases later : columns[position].name ∈ Column.names (columns.take position)
  · obtain ⟨suffix, least, suffixed⟩ := becomes.getsSuffix later
    rw [isName] at suffixed
    exact absurd (List.mem_append_left _ (suffixed ▸ given)) least.1.2
  · have kept := (becomes.keepsName later).symm.trans isName
    rw [kept] at later
    exact ⟨by rw [Column.names, List.getElem?_map, isColumn, Option.map_some, kept], later⟩

structure DecidesNulls (sentinels : Sentinels) : Prop where
  null_iff : ∀ (column : Column) (cell : Option String),
    Column.cast sentinels column cell = .ok .null ↔ sentinels.Marks column.name cell
  /-- What is no null is read as if there were no markers. -/
  otherwise : ∀ (column : Column) (cell : Option String), ¬sentinels.Marks column.name cell →
    Column.cast sentinels column cell = Column.cast {} column cell
  fault : ∀ (column : Column) (cell : Option String) (fault : Fault),
    Column.cast sentinels column cell = .error fault →
      ∃ raw refusal, cell = some raw ∧ column.family.readValue raw = .error refusal ∧
        fault = .conversion column.ordinal column.wireType raw refusal.message
  unique : ∀ (name token : String) (columns : List Column) (position other : Nat),
    sentinels.Affects name token (Column.normalize columns) position →
    sentinels.Affects name token (Column.normalize columns) other → position = other
  first : ∀ (name token : String) (columns : List Column) (position : Nat),
    sentinels.Affects name token (Column.normalize columns) position →
    name ∈ Column.names columns →
      (Column.names columns)[position]? = some name ∧
        name ∉ Column.names (columns.take position)

/-- Markers alone decide which cells are null, they hide no cell that cannot be read, and a
marker for a name matches in one column at most, the first one of this name. -/
theorem decidesNulls (sentinels : Sentinels) : sentinels.DecidesNulls where
  null_iff _ _ := Column.cast_eq_null_iff
  otherwise _ _ := Column.cast_eq_cast_nothing
  fault _ _ _ := Column.fault_of_cast
  unique _ _ _ _ _ := Affects.unique
  first _ _ _ _ := Affects.first

/-- A marker for one of two columns that were called the same. -/
theorem decidesNulls_namesakes :
    let columns := [Column.ofType "a" "integer", Column.ofType "a" "integer"]
    Affects {} "a" "N/A" (Column.normalize columns) 0 ∧
      ¬Affects {} "a" "N/A" (Column.normalize columns) 1 := by
  have first : Affects {} "a" "N/A"
      (Column.normalize [Column.ofType "a" "integer", Column.ofType "a" "integer"]) 0 :=
    ⟨_, some "N/A", rfl, by decide +kernel⟩
  refine ⟨first, fun second => ?_⟩
  have same := (decidesNulls {}).unique "a" "N/A" _ 0 1 first second
  contradiction

end Sentinels

end RemoteQuery
