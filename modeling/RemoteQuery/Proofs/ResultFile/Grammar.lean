import Mathlib.Data.List.Forall2
import RemoteQuery.Proofs.ResultFile.Batches

/-! # How records are written

A field is written as it is or, where the layout has quotes, in quotes. The fields of a record
make up a line, with delimiters between them. A line feed ends a line, alone or behind a carriage
return, and the last line may do without. Such a file is read as the records it was written of.
-/

namespace RemoteQuery.ResultFile

/-! ## Fields and records -/

def Layout.Delimits (layout : Layout) : Prop :=
  layout.delimiter ≠ quote ∧ endsRecord layout.delimiter = false

theorem delimits_ofFormat (format : FileFormat) : (Layout.ofFormat format).Delimits := by
  cases format <;> constructor <;> decide

structure Layout.Ordinary (layout : Layout) (byte : UInt8) : Prop where
  inField : byte ≠ layout.delimiter
  inLine : endsRecord byte = false
  unquoted : (layout.quoting && byte == quote) = false

def doubledQuote (byte : UInt8) : List UInt8 :=
  if byte = quote then [quote, quote] else [byte]

inductive Layout.Writes (layout : Layout) : List UInt8 → Field → Prop
  | plain {field : Field} (ordinary : ∀ byte ∈ field, layout.Ordinary byte) :
      Writes layout field field
  | quoted {field : Field} (quotes : layout.quoting = true) :
      Writes layout (quote :: (field.flatMap doubledQuote ++ [quote])) field

inductive Layout.WritesRecord (layout : Layout) : List UInt8 → Record → Prop
  | last {text : List UInt8} {field : Field} (writes : layout.Writes text field) :
      WritesRecord layout text [field]
  | more {text line : List UInt8} {field : Field} {fields : Record}
      (writes : layout.Writes text field) (rest : WritesRecord layout line fields) :
      WritesRecord layout (text ++ layout.delimiter :: line) (field :: fields)

inductive Lines : List (List UInt8) → List UInt8 → Prop
  | nothing : Lines [] []
  | unended {line : List UInt8} : Lines [line] line
  | ended {line bytes : List UInt8} {lines : List (List UInt8)} (rest : Lines lines bytes) :
      Lines (line :: lines) (line ++ lineFeed :: bytes)
  | returned {line bytes : List UInt8} {lines : List (List UInt8)} (rest : Lines lines bytes) :
      Lines (line :: lines) (line ++ carriageReturn :: lineFeed :: bytes)

/-! ## What a byte does -/

variable {layout : Layout} {place : Place} {byte : UInt8}

theorem effect_ordinary (ordinary : layout.Ordinary byte)
    (outside : place ≠ .quoted ∧ place ≠ .quoteSeen) :
    layout.effect place byte = .keep .plain := by
  rcases ordinary with ⟨inField, inLine, unquoted⟩
  have plain : layout.plainEffect byte = .keep .plain := by
    simp [Layout.plainEffect, inField, inLine]
  cases place with
  | recordStart => simp [Layout.effect, inLine, unquoted, plain]
  | fieldStart => simp [Layout.effect, unquoted, plain]
  | plain => exact plain
  | quoted => exact absurd rfl outside.1
  | quoteSeen => exact absurd rfl outside.2

theorem effect_delimiter (delimits : layout.Delimits) (outside : place ≠ .quoted) :
    layout.effect place layout.delimiter = .endField := by
  rcases delimits with ⟨noQuote, inLine⟩
  cases place with
  | quoted => exact absurd rfl outside
  | _ => simp [Layout.effect, Layout.plainEffect, noQuote, inLine]

theorem effect_endsRecord (delimits : layout.Delimits) (ends : endsRecord byte = true)
    (outside : place ≠ .quoted) (begun : place ≠ .recordStart) :
    layout.effect place byte = .endRecord := by
  have noDelimiter : byte ≠ layout.delimiter := by
    rintro rfl
    cases ends.symm.trans delimits.2
  have noQuote : byte ≠ quote := by
    rintro rfl
    cases ends
  have plain : layout.plainEffect byte = .endRecord := by
    simp [Layout.plainEffect, noDelimiter, ends]
  cases place with
  | recordStart => exact absurd rfl begun
  | quoted => exact absurd rfl outside
  | _ => simp [Layout.effect, noQuote, plain]

/-! ## Reading a field -/

/-- Text behind the text of the field that is being read. -/
def Open.put (bytes : List UInt8) (record : Open) : Open :=
  { record with field := bytes.reverse ++ record.field }

@[simp] theorem Open.put_put (first second : List UInt8) (record : Open) :
    (record.put first).put second = record.put (first ++ second) := by
  simp [put]

theorem Open.keep_eq_put (byte : UInt8) (record : Open) : record.keep byte = record.put [byte] :=
  rfl

variable {whole : Bool} {record : Open}

private theorem recordsFrom_keep {bytes : List UInt8}
    (kept : ∀ byte ∈ bytes, layout.effect place byte = .keep place) (rest : List UInt8) :
    recordsFrom layout whole place record (bytes ++ rest) =
      recordsFrom layout whole place (record.put bytes) rest := by
  induction bytes generalizing record with
  | nil => rfl
  | cons byte bytes induction =>
      have later := fun other member => kept other (List.mem_cons_of_mem byte member)
      rw [List.cons_append, recordsFrom, kept byte List.mem_cons_self]
      simp only [induction later, Open.keep_eq_put, Open.put_put, List.singleton_append]

private theorem recordsFrom_doubled (field : Field) (rest : List UInt8) :
    recordsFrom layout whole .quoted record (field.flatMap doubledQuote ++ rest) =
      recordsFrom layout whole .quoted (record.put field) rest := by
  induction field generalizing record with
  | nil => rfl
  | cons byte field induction =>
      rw [List.flatMap_cons, List.append_assoc]
      by_cases isQuote : byte = quote
      · subst isQuote
        change recordsFrom layout whole .quoted (record.keep quote)
          (field.flatMap doubledQuote ++ rest) = _
        rw [induction, Open.keep_eq_put, Open.put_put, List.singleton_append]
      · have kept : ∀ other ∈ [byte], layout.effect .quoted other = .keep .quoted := by
          intro other member
          rw [List.mem_singleton.mp member]
          exact if_neg isQuote
        rw [doubledQuote, if_neg isQuote, recordsFrom_keep kept, induction, Open.put_put,
          List.singleton_append]

/-- Behind a field the reader stands where a delimiter ends the field and a line end ends the
record, unless nothing has been written in the line. -/
theorem recordsFrom_field {text : List UInt8} {field : Field} (writes : layout.Writes text field)
    (start : place = .recordStart ∨ place = .fieldStart) (rest : List UInt8) :
    ∃ reached,
      recordsFrom layout whole place record (text ++ rest) =
        recordsFrom layout whole reached (record.put field) rest ∧
      reached ≠ .quoted ∧ (reached = .recordStart → place = .recordStart ∧ text = []) := by
  have outside : place ≠ .quoted ∧ place ≠ .quoteSeen := by
    rcases start with rfl | rfl <;> decide
  cases writes with
  | plain ordinary =>
      cases text with
      | nil => exact ⟨place, rfl, outside.1, fun atStart => ⟨atStart, rfl⟩⟩
      | cons byte text =>
          have later : ∀ other ∈ text, layout.effect .plain other = .keep .plain := by
            intro other member
            exact effect_ordinary (ordinary other (List.mem_cons_of_mem byte member)) (by decide)
          refine ⟨.plain, ?_, by decide, nofun⟩
          rw [List.cons_append, recordsFrom,
            effect_ordinary (ordinary byte List.mem_cons_self) outside]
          simp only [recordsFrom_keep later, Open.keep_eq_put, Open.put_put,
            List.singleton_append]
  | quoted quotes =>
      have opens : layout.effect place quote = .skip .quoted := by
        rcases start with rfl | rfl <;> simp [Layout.effect, quotes, endsRecord, quote, lineFeed,
          carriageReturn]
      refine ⟨.quoteSeen, ?_, by decide, nofun⟩
      rw [List.cons_append, List.append_assoc, recordsFrom, opens]
      simp only [recordsFrom_doubled]
      rfl

/-! ## Reading a record -/

theorem recordsFrom_record (delimits : layout.Delimits) {line : List UInt8} {fields : Record}
    (writes : layout.WritesRecord line fields)
    (start : place = .fieldStart ∨ place = .recordStart ∧ line ≠ []) (earlier : List Field)
    (rest : List UInt8) :
    ∃ reached record,
      recordsFrom layout whole place ⟨earlier, []⟩ (line ++ rest) =
        recordsFrom layout whole reached record rest ∧
      reached ≠ .quoted ∧ reached ≠ .recordStart ∧ record.close = earlier.reverse ++ fields := by
  have isStart : place = .recordStart ∨ place = .fieldStart := by tauto
  induction writes generalizing place earlier with
  | @last text field writes =>
      rcases recordsFrom_field writes isStart rest with ⟨reached, read, outside, begun⟩
      refine ⟨reached, _, read, outside, ?_, ?_⟩
      · intro atStart
        rcases begun atStart with ⟨atLine, nothing⟩
        rcases start with other | ⟨-, something⟩
        · cases atLine.symm.trans other
        · exact something nothing
      · simp [Open.close, Open.endField, Open.put]
  | @more text line field fields writes more induction =>
      rcases recordsFrom_field writes isStart (layout.delimiter :: (line ++ rest)) with
        ⟨behind, read, outside, -⟩
      rcases induction (.inl rfl) (field :: earlier) (.inr rfl) with
        ⟨reached, record, readRest, outsideToo, begun, closes⟩
      refine ⟨reached, record, ?_, outsideToo, begun, ?_⟩
      · rw [List.append_assoc, List.cons_append, read, recordsFrom,
          effect_delimiter delimits outside, ← readRest]
        simp [Open.endField, Open.put]
      · rw [closes]
        simp

theorem recordsFrom_line (delimits : layout.Delimits) {line : List UInt8} {fields : Record}
    (writes : layout.WritesRecord line fields) (something : line ≠ []) (rest : List UInt8) :
    recordsFrom layout whole .recordStart {} (line ++ lineFeed :: rest) =
        fields :: recordsFrom layout whole .recordStart {} rest ∧
      recordsFrom layout whole .recordStart {} (line ++ carriageReturn :: lineFeed :: rest) =
        fields :: recordsFrom layout whole .recordStart {} rest ∧
      recordsFrom layout true .recordStart {} line = [fields] := by
  have reads (whole : Bool) (rest : List UInt8) :=
    @recordsFrom_record _ .recordStart whole delimits _ _ writes (.inr ⟨rfl, something⟩) [] rest
  refine ⟨?_, ?_, ?_⟩
  · rcases reads whole (lineFeed :: rest) with ⟨reached, record, read, outside, begun, closes⟩
    rw [read, recordsFrom, effect_endsRecord delimits rfl outside begun]
    exact congrArg (· :: _) closes
  · rcases reads whole (carriageReturn :: lineFeed :: rest) with
      ⟨reached, record, read, outside, begun, closes⟩
    rw [read, recordsFrom, effect_endsRecord delimits rfl outside begun]
    exact congrArg (· :: _) closes
  · rcases reads true [] with ⟨reached, record, read, outside, begun, closes⟩
    rw [List.append_nil] at read
    rw [read, recordsFrom, if_pos ⟨rfl, begun⟩]
    exact congrArg ([·]) closes

/-! ## Reading a file -/

theorem records_of_lines (delimits : layout.Delimits) {lines : List (List UInt8)}
    {bytes : List UInt8} {written : List Record} (ended : Lines lines bytes)
    (writes : List.Forall₂ (fun line fields => line ≠ [] ∧ layout.WritesRecord line fields) lines
      written) : records layout true bytes = written := by
  unfold records
  induction ended generalizing written with
  | nothing =>
      cases writes
      rfl
  | unended =>
      rcases writes with _ | ⟨⟨something, writes⟩, _ | _⟩
      exact (@recordsFrom_line _ true delimits _ _ writes something []).2.2
  | ended rest induction =>
      rcases writes with _ | ⟨⟨something, first⟩, later⟩
      rw [(recordsFrom_line delimits first something _).1, induction later]
  | returned rest induction =>
      rcases writes with _ | ⟨⟨something, first⟩, later⟩
      rw [(recordsFrom_line delimits first something _).2.1, induction later]

/-! ## A byte order mark -/

/-- A mark at the start of a text does not reach beyond a byte that is none of its own. -/
theorem withoutMark_append (text : List UInt8) {byte : UInt8} (other : byte ∉ byteOrderMark)
    (rest : List UInt8) :
    withoutMark (text ++ byte :: rest) = withoutMark text ++ byte :: rest := by
  unfold withoutMark
  by_cases marked : byteOrderMark <+: text
  · have long : 3 ≤ text.length := marked.length_le
    have whole := marked.trans (List.prefix_append text (byte :: rest))
    rw [if_pos (List.isPrefixOf_iff_prefix.mpr marked),
      if_pos (List.isPrefixOf_iff_prefix.mpr whole), List.drop_append_of_le_length long]
  · have unmarked : ¬byteOrderMark <+: text ++ byte :: rest := by
      intro within
      by_cases long : byteOrderMark.length ≤ text.length
      · exact marked (List.prefix_of_prefix_length_le within (List.prefix_append _ _) long)
      · have behind : text ++ [byte] <+: text ++ byte :: rest := ⟨rest, by simp⟩
        have short : (text ++ [byte]).length ≤ byteOrderMark.length := by
          rw [List.length_append]
          exact Nat.lt_of_not_le long
        exact other ((List.prefix_of_prefix_length_le behind within short).subset (by simp))
    rw [if_neg (List.isPrefixOf_iff_prefix.not.mpr marked),
      if_neg (List.isPrefixOf_iff_prefix.not.mpr unmarked)]

theorem withoutMark_of_append {text : List UInt8} (rest : List UInt8)
    (unmarked : byteOrderMark.isPrefixOf (text ++ rest) = false) : withoutMark text = text := by
  refine if_neg fun marked => ?_
  have whole := (List.isPrefixOf_iff_prefix.mp marked).trans (List.prefix_append text rest)
  rw [List.isPrefixOf_iff_prefix.mpr whole] at unmarked
  cases unmarked

theorem isPrefixOf_of_withoutMark_eq {bytes : List UInt8} (same : withoutMark bytes = bytes) :
    byteOrderMark.isPrefixOf bytes = false := by
  rw [← Bool.not_eq_true]
  intro marked
  have long : 3 ≤ bytes.length := (List.isPrefixOf_iff_prefix.mp marked).length_le
  have length := congrArg List.length same
  rw [withoutMark, if_pos marked, List.length_drop] at length
  omega

theorem lineFeed_notIn_mark : lineFeed ∉ byteOrderMark := by decide

theorem carriageReturn_notIn_mark : carriageReturn ∉ byteOrderMark := by decide

theorem delimiter_notIn_mark (format : FileFormat) :
    (Layout.ofFormat format).delimiter ∉ byteOrderMark := by
  cases format <;> decide

theorem Lines.withoutMark {line bytes : List UInt8} {lines : List (List UInt8)}
    (ended : Lines (line :: lines) bytes) :
    Lines (ResultFile.withoutMark line :: lines) (ResultFile.withoutMark bytes) := by
  cases ended with
  | unended => exact .unended
  | ended rest =>
      rw [withoutMark_append _ lineFeed_notIn_mark]
      exact .ended rest
  | returned rest =>
      rw [withoutMark_append _ carriageReturn_notIn_mark]
      exact .returned rest

theorem Lines.isPrefixOf_eq_false {bytes : List UInt8} {lines : List (List UInt8)}
    (ended : Lines lines bytes) (unmarked : ∀ line ∈ lines.head?, ResultFile.withoutMark line = line) :
    byteOrderMark.isPrefixOf bytes = false := by
  apply isPrefixOf_of_withoutMark_eq
  cases ended with
  | nothing => rfl
  | unended => exact unmarked _ rfl
  | ended rest => rw [withoutMark_append _ lineFeed_notIn_mark, unmarked _ rfl]
  | returned rest => rw [withoutMark_append _ carriageReturn_notIn_mark, unmarked _ rfl]

theorem Layout.Writes.withoutMark {text : List UInt8} {field : Field}
    (writes : layout.Writes text field) :
    ∃ other, layout.Writes (ResultFile.withoutMark text) other := by
  cases writes with
  | plain ordinary =>
      refine ⟨_, .plain fun byte member => ordinary byte ?_⟩
      unfold ResultFile.withoutMark at member
      split at member
      · exact List.mem_of_mem_drop member
      · exact member
  | quoted quotes =>
      have unmarked : byteOrderMark.isPrefixOf (quote :: (field.flatMap doubledQuote ++ [quote])) =
          false := rfl
      rw [ResultFile.withoutMark, if_neg (Bool.not_eq_true _ ▸ unmarked)]
      exact ⟨_, .quoted quotes⟩

theorem Layout.WritesRecord.withoutMark {format : FileFormat} {line : List UInt8}
    {fields : Record} (writes : (Layout.ofFormat format).WritesRecord line fields) :
    ∃ others, (Layout.ofFormat format).WritesRecord (ResultFile.withoutMark line) others := by
  cases writes with
  | last writes =>
      rcases writes.withoutMark with ⟨other, writes⟩
      exact ⟨_, .last writes⟩
  | more writes rest =>
      rcases writes.withoutMark with ⟨other, writes⟩
      rw [withoutMark_append _ (delimiter_notIn_mark format)]
      exact ⟨_, .more writes rest⟩

end RemoteQuery.ResultFile
