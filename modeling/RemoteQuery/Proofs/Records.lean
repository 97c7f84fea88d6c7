import RemoteQuery.Config.Basic
import RemoteQuery.Execution
import RemoteQuery.Proofs.Calendar.Instant
import RemoteQuery.Proofs.Json.Fields

/-! # Records as JSON texts

Every record is decoded from its own text as it was, if its times are times that universal time
has. A record that was decoded from any text stays as it is from then on. Settings may lose
members: what is left keeps its values, and the rest is as in settings that nobody has changed.
-/

namespace RemoteQuery

open Json (below?_ofNat bind_of_kept bind_of_some decodeText? decodeText?_toString
  exists_of_decodeText? list?_map option?_ofOption uint32?_ofNat uint64?_ofUInt64)
open Json.Fields (defaulted_eq defaulted_kept of?_kept of?_object optional_eq required_eq)

/-! ## Choices and points in time -/

theorem QueryState.ofJson?_toJson (state : QueryState) : ofJson? state.toJson = some state := by
  cases state <;> rfl

theorem FileFormat.ofJson?_toJson (format : FileFormat) :
    ofJson? format.toJson = some format := by
  cases format <;> rfl

theorem ResultFormat.ofJson?_toJson (format : ResultFormat) :
    ofJson? format.toJson = some format := by
  cases format <;> rfl

theorem Calendar.Instant.ofJson?_toJson (instant : Instant) :
    ofJson? instant.toJson = some instant.shown := by
  rw [toJson, ofJson?, Json.string?, Option.bind_some, read?_toString]

theorem Calendar.Instant.ofJson?_toJson_of_proper {instant : Instant} (proper : instant.Proper) :
    ofJson? instant.toJson = some instant := by
  rw [ofJson?_toJson, shown_eq_self_iff.mpr proper]

theorem Calendar.Instant.proper_of_ofJson? {json : Json} {instant : Instant}
    (found : ofJson? json = some instant) : instant.Proper := by
  rw [ofJson?] at found
  obtain ⟨text, -, isRead⟩ := Option.bind_eq_some_iff.mp found
  exact proper_of_read? isRead

/-! ## Values that may be missing -/

namespace Json

theorem option?_string (text : Option String) :
    option? string? (ofOption .string text) = some text :=
  option?_ofOption rfl fun _ _ => rfl

theorem option?_uint32 (value : Option UInt32) :
    option? uint32? (ofOption (ofNat ·.toNat) value) = some value :=
  option?_ofOption rfl fun known _ => uint32?_ofNat known

theorem option?_uint64 (value : Option UInt64) :
    option? uint64? (ofOption ofUInt64 value) = some value :=
  option?_ofOption rfl fun known _ => uint64?_ofUInt64 known

end Json

open Json (option?_string option?_uint32 option?_uint64)

/-! ## Decoding what was encoded

Each record is an object with a member for each of its fields, in the order in which the
fields are asked for. -/

theorem Family.ofJson?_toJson (family : Family) : ofJson? family.toJson = some family := by
  cases family with
  | decimal precision scale =>
      simp only [toJson, name, ofJson?]
      exact bind_of_some (of?_object (by decide) rfl) <|
        bind_of_some (optional_eq rfl (option?_uint32 _)) <|
        bind_of_some (optional_eq rfl (option?_uint32 _)) <|
        rfl
  | _ => rfl

/-- Ordinals are numbers of 64 bits. -/
def Column.Fits (column : Column) : Prop :=
  column.ordinal < 2 ^ 64

theorem Column.ofJson?_toJson {column : Column} (fits : column.Fits) :
    ofJson? column.toJson = some column := by
  rw [toJson, ofJson?]
  exact bind_of_some (of?_object (by decide) rfl) <|
    bind_of_some (required_eq rfl rfl) <|
    bind_of_some (required_eq rfl rfl) <|
    bind_of_some (defaulted_eq rfl (below?_ofNat fits)) <|
    bind_of_some (defaulted_eq rfl rfl) <|
    bind_of_some (defaulted_eq rfl (option?_uint32 _)) <|
    bind_of_some (defaulted_eq rfl (option?_uint32 _)) <|
    rfl

theorem Table.ofJson?_toJson (table : Table) : ofJson? table.toJson = some table := by
  rw [toJson, ofJson?]
  exact bind_of_some (of?_object (by decide) rfl) <|
    bind_of_some (required_eq rfl rfl) <|
    bind_of_some (required_eq rfl rfl) <|
    rfl

theorem Location.ofJson?_toJson (location : Location) :
    ofJson? location.toJson = some location := by
  rw [toJson, ofJson?]
  exact bind_of_some (of?_object (by decide) rfl) <|
    bind_of_some (required_eq rfl rfl) <|
    bind_of_some (required_eq rfl (FileFormat.ofJson?_toJson _)) <|
    bind_of_some (optional_eq rfl (option?_ofOption rfl fun table _ => table.ofJson?_toJson)) <|
    rfl

theorem Submission.ofJson?_toJson (submission : Submission) :
    ofJson? submission.toJson = some submission := by
  rw [toJson, ofJson?]
  exact bind_of_some (of?_object (by decide) rfl) <|
    bind_of_some (required_eq rfl rfl) <|
    bind_of_some (required_eq rfl rfl) <|
    bind_of_some (required_eq rfl rfl) <|
    bind_of_some (optional_eq rfl (option?_string _)) <|
    bind_of_some (optional_eq rfl (option?_string _)) <|
    bind_of_some (required_eq rfl rfl) <|
    rfl

def Status.Proper (status : Status) : Prop :=
  ∀ instant ∈ status.completedAt, instant.Proper

theorem Status.ofJson?_toJson {status : Status} (proper : status.Proper) :
    ofJson? status.toJson = some status := by
  rw [toJson, ofJson?]
  exact bind_of_some (of?_object (by decide) rfl) <|
    bind_of_some (required_eq rfl (QueryState.ofJson?_toJson _)) <|
    bind_of_some (optional_eq rfl (option?_uint64 _)) <|
    bind_of_some (optional_eq rfl (option?_uint64 _)) <|
    bind_of_some (optional_eq rfl
      (option?_ofOption rfl fun location _ => location.ofJson?_toJson)) <|
    bind_of_some (optional_eq rfl (option?_string _)) <|
    bind_of_some (optional_eq rfl (option?_uint64 _)) <|
    bind_of_some (optional_eq rfl (option?_ofOption rfl fun instant member =>
      Calendar.Instant.ofJson?_toJson_of_proper (proper instant member))) <|
    rfl

namespace ResultPart

theorem rawRowOfJson?_rawRowToJson (row : RawRow) : rawRowOfJson? (rawRowToJson row) = some row :=
  list?_map fun cell _ => option?_string cell

def Fits (part : ResultPart) : Prop :=
  ∀ column ∈ part.columns, column.Fits

theorem ofJson?_toJson {part : ResultPart} (fits : part.Fits) :
    ofJson? part.toJson = some part := by
  rw [toJson, ofJson?]
  exact bind_of_some (of?_object (by decide) rfl) <|
    bind_of_some (required_eq rfl
      (list?_map fun column member => column.ofJson?_toJson (fits _ member))) <|
    bind_of_some (required_eq rfl (list?_map fun row _ => rawRowOfJson?_rawRowToJson row)) <|
    bind_of_some (optional_eq rfl (option?_string _)) <|
    bind_of_some (defaulted_eq rfl (option?_uint64 _)) <|
    rfl

end ResultPart

structure Execution.Proper (execution : Execution) : Prop where
  submitted : execution.submittedAt.Proper
  completed : ∀ instant ∈ execution.completedAt, instant.Proper

theorem Execution.ofJson?_toJson {execution : Execution} (proper : execution.Proper) :
    ofJson? execution.toJson = some execution := by
  rw [toJson, ofJson?]
  exact bind_of_some (of?_object (by decide) rfl) <|
    bind_of_some (required_eq rfl rfl) <|
    bind_of_some (required_eq rfl rfl) <|
    bind_of_some (required_eq rfl rfl) <|
    bind_of_some (required_eq rfl rfl) <|
    bind_of_some (required_eq rfl (Calendar.Instant.ofJson?_toJson_of_proper proper.submitted)) <|
    bind_of_some (optional_eq rfl (option?_ofOption rfl fun instant member =>
      Calendar.Instant.ofJson?_toJson_of_proper (proper.completed instant member))) <|
    bind_of_some (required_eq rfl (QueryState.ofJson?_toJson _)) <|
    bind_of_some (optional_eq rfl
      (option?_ofOption rfl fun location _ => location.ofJson?_toJson)) <|
    bind_of_some (optional_eq rfl (option?_string _)) <|
    bind_of_some (required_eq rfl (uint64?_ofUInt64 _)) <|
    bind_of_some (required_eq rfl (uint64?_ofUInt64 _)) <|
    bind_of_some (optional_eq rfl (option?_uint64 _)) <|
    rfl

theorem Config.ofJson?_toJson (config : Config) : ofJson? config.toJson = some config := by
  rw [toJson, ofJson?]
  exact bind_of_some (of?_object (by decide) rfl) <|
    bind_of_some (defaulted_eq rfl rfl) <|
    bind_of_some (defaulted_eq rfl rfl) <|
    bind_of_some (defaulted_eq rfl (option?_string _)) <|
    bind_of_some (defaulted_eq rfl (option?_string _)) <|
    bind_of_some (defaulted_eq rfl (uint64?_ofUInt64 _)) <|
    bind_of_some (defaulted_eq rfl rfl) <|
    bind_of_some (defaulted_eq rfl (ResultFormat.ofJson?_toJson _)) <|
    bind_of_some (defaulted_eq rfl rfl) <|
    bind_of_some (defaulted_eq rfl (uint64?_ofUInt64 _)) <|
    bind_of_some (defaulted_eq rfl (uint64?_ofUInt64 _)) <|
    bind_of_some (defaulted_eq rfl (uint32?_ofNat _)) <|
    bind_of_some (defaulted_eq rfl (uint64?_ofUInt64 _)) <|
    bind_of_some (defaulted_eq rfl (option?_uint64 _)) <|
    bind_of_some (defaulted_eq rfl (list?_map fun _ _ => rfl)) <|
    rfl

/-! ## Limits of what is decoded -/

theorem Column.fits_of_ofJson? {json : Json} {column : Column}
    (found : ofJson? json = some column) : column.Fits := by
  simp only [ofJson?, Option.bind_eq_bind, Option.bind_eq_some_iff] at found
  obtain ⟨fields, -, name, -, wireType, -, ordinal, isOrdinal, _, -, _, -, _, -, same⟩ := found
  cases same
  change ordinal < 2 ^ 64
  unfold Json.Fields.defaulted at isOrdinal
  split at isOrdinal
  · injection isOrdinal with same
    omega
  · exact Json.lt_of_below? isOrdinal

theorem ResultPart.fits_of_ofJson? {json : Json} {part : ResultPart}
    (found : ofJson? json = some part) : part.Fits := by
  simp only [ofJson?, Option.bind_eq_bind, Option.bind_eq_some_iff] at found
  obtain ⟨fields, -, columns, areColumns, _, -, _, -, _, -, same⟩ := found
  cases same
  obtain ⟨columnsJson, -, decoded⟩ := Option.bind_eq_some_iff.mp areColumns
  exact Json.forall_of_list? (fun _ _ => Column.fits_of_ofJson?) decoded

private theorem proper_of_optional {fields : Json.Fields} {name : String}
    {completed : Option Calendar.Instant}
    (found : fields.optional name Calendar.Instant.ofJson? = some completed) :
    ∀ instant ∈ completed, instant.Proper :=
  Json.Fields.forall_of_optional (fun _ _ => Calendar.Instant.proper_of_ofJson?) found

theorem Status.proper_of_ofJson? {json : Json} {status : Status}
    (found : ofJson? json = some status) : status.Proper := by
  rw [ofJson?] at found
  iterate 7 obtain ⟨_, -, found⟩ := Option.bind_eq_some_iff.mp found
  obtain ⟨completed, isCompleted, found⟩ := Option.bind_eq_some_iff.mp found
  cases found
  exact proper_of_optional isCompleted

theorem Execution.proper_of_ofJson? {json : Json} {execution : Execution}
    (found : ofJson? json = some execution) : execution.Proper := by
  rw [ofJson?] at found
  -- The two times stand behind the object and four of its members.
  iterate 5 obtain ⟨_, -, found⟩ := Option.bind_eq_some_iff.mp found
  obtain ⟨submitted, isSubmitted, found⟩ := Option.bind_eq_some_iff.mp found
  obtain ⟨completed, isCompleted, found⟩ := Option.bind_eq_some_iff.mp found
  iterate 6 obtain ⟨_, -, found⟩ := Option.bind_eq_some_iff.mp found
  cases found
  obtain ⟨text, -, decoded⟩ := Option.bind_eq_some_iff.mp isSubmitted
  exact ⟨Calendar.Instant.proper_of_ofJson? decoded, proper_of_optional isCompleted⟩

/-! ## Texts of records -/

theorem Family.readable_toJson (family : Family) : family.toJson.Readable := by
  cases family <;> simp [toJson]

theorem Column.readable_toJson (column : Column) : column.toJson.Readable := by
  simp [toJson]

theorem Table.readable_toJson (table : Table) : table.toJson.Readable := by
  simp [toJson]

theorem Location.readable_toJson (location : Location) : location.toJson.Readable := by
  simp [toJson, FileFormat.toJson, Table.readable_toJson]

theorem Submission.readable_toJson (submission : Submission) : submission.toJson.Readable := by
  simp [toJson]

theorem Status.readable_toJson (status : Status) : status.toJson.Readable := by
  simp [toJson, QueryState.toJson, Calendar.Instant.toJson, Location.readable_toJson]

theorem ResultPart.readable_toJson (part : ResultPart) : part.toJson.Readable := by
  simp [toJson, rawRowToJson, Column.readable_toJson]

theorem Execution.readable_toJson (execution : Execution) : execution.toJson.Readable := by
  simp [toJson, QueryState.toJson, Calendar.Instant.toJson, Location.readable_toJson]

theorem Config.readable_toJson (config : Config) : config.toJson.Readable := by
  simp [toJson, ResultFormat.toJson]

structure Lossless {α : Type} (encode : α → Json) (decode : Json → Option α)
    (Fits : α → Prop := fun _ => True) : Prop where
  /-- What was encoded is decoded as it was, exactly if it fits. -/
  back : ∀ value, decodeText? decode (encode value).toString = some value ↔ Fits value
  /-- What was decoded from some text stays as it is. -/
  settled : ∀ text value, decodeText? decode text = some value →
    decodeText? decode (encode value).toString = some value

theorem Lossless.of_decoded {α : Type} {encode : α → Json} {decode : Json → Option α}
    {Fits : α → Prop} (readable : ∀ value, (encode value).Readable)
    (decoded : ∀ value, Fits value → decode (encode value) = some value)
    (fits : ∀ json value, decode json = some value → Fits value) :
    Lossless encode decode Fits := by
  have forth : ∀ value, Fits value → decodeText? decode (encode value).toString = some value :=
    fun value valueFits => decodeText?_toString (readable value) (decoded value valueFits)
  have fitsOfText : ∀ text value, decodeText? decode text = some value → Fits value := by
    intro text value found
    obtain ⟨json, isDecoded⟩ := exists_of_decodeText? found
    exact fits json value isDecoded
  exact ⟨fun value => ⟨fitsOfText _ value, forth value⟩,
    fun text value found => forth value (fitsOfText text value found)⟩

/-! ## Settings that lose members -/

namespace Config

def settingFrom {α : Type} (names : List String) (config : Config) (name : String)
    (setting : Config → α) : α :=
  if name ∈ names then setting config else setting {}

def restricted (config : Config) (names : List String) : Config where
  database := settingFrom names config "database" database
  catalog := settingFrom names config "catalog" catalog
  workGroup := settingFrom names config "work_group" workGroup
  outputLocation := settingFrom names config "output_location" outputLocation
  pollIntervalMillis := settingFrom names config "poll_interval_ms" pollIntervalMillis
  killOnInterrupt := settingFrom names config "kill_on_interrupt" killOnInterrupt
  resultFormat := settingFrom names config "result_format" resultFormat
  reportCounters := settingFrom names config "report_counters" reportCounters
  maxRowsPerPage := settingFrom names config "max_rows_per_page" maxRowsPerPage
  fetchSize := settingFrom names config "fetch_size" fetchSize
  retryMaxAttempts := settingFrom names config "retry_max_attempts" retryMaxAttempts
  retryMaxDurationMillis := settingFrom names config "retry_max_duration_ms" retryMaxDurationMillis
  queryTimeoutMillis := settingFrom names config "query_timeout_ms" queryTimeoutMillis
  nullTokens := settingFrom names config "null_tokens" nullTokens

def memberNames : List String :=
  ["database", "catalog", "work_group", "output_location", "poll_interval_ms",
    "kill_on_interrupt", "result_format", "report_counters", "max_rows_per_page", "fetch_size",
    "retry_max_attempts", "retry_max_duration_ms", "query_timeout_ms", "null_tokens"]

theorem ofJson?_kept {members kept : List (String × Json)} {config : Config}
    (isKept : kept.Sublist members) (found : ofJson? (.object members) = some config) :
    ofJson? (.object kept) = some (config.restricted (kept.map Prod.fst)) := by
  rw [ofJson?] at found ⊢
  obtain ⟨fields, isRecord, found⟩ := Option.bind_eq_some_iff.mp found
  obtain ⟨left, isLeft, lookups⟩ :=
    @of?_kept memberNames members kept fields isKept isRecord
  refine bind_of_some isLeft ?_
  -- One step for each setting, in the order of the names.
  iterate 14
    refine bind_of_kept found (fun _ => defaulted_kept (lookups _ (by decide))) ?_
    clear found
    intro _ found
  cases found
  rfl

end Config

end RemoteQuery
