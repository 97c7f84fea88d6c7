import RemoteQuery.Proofs.ResultFile.Grammar
import RemoteQuery.Proofs.Text.Utf8

/-! # Files that are written and read

A file is written with one record for each row. Where the layout has quotes, every cell that
is not absent stands in quotes. Reading brings back the rows, but for two things: an empty
cell is read as an absent one, and a row that is written as an empty line is not read at
all.
-/

namespace RemoteQuery.ResultFile

/-! ## Writing -/

def doubled (c : Char) : List Char :=
  if c = '"' then ['"', '"'] else [c]

def quotedText (text : String) : String :=
  String.ofList ('"' :: text.toList.flatMap doubled ++ ['"'])

def writtenCell (format : FileFormat) : Option String → List UInt8
  | none => []
  | some text =>
      match format with
      | .csv => Text.Utf8.encode (quotedText text)
      | .tsv => Text.Utf8.encode text

def writtenLine (format : FileFormat) (row : RawRow) : List UInt8 :=
  [format.delimiter].intercalate (row.map (writtenCell format))

def writtenRecord (format : FileFormat) (row : RawRow) : List UInt8 :=
  [format.delimiter].intercalate (row.map (writtenCell format)) ++ [lineFeed]

def writtenFile (format : FileFormat) (names : List String) (rows : List RawRow) :
    List UInt8 :=
  (if format.hasHeader then writtenRecord format (names.map some) else []) ++
    rows.flatMap (writtenRecord format)

/-- The cells of a row can be written: where there are no quotes, a cell has no delimiters
and line ends in it. -/
def Writable (format : FileFormat) (row : RawRow) : Prop :=
  format = .tsv → ∀ text, some text ∈ row → ∀ c ∈ text.toList, c ≠ '\t' ∧ c ≠ '\n' ∧ c ≠ '\r'

def Invisible (format : FileFormat) (row : RawRow) : Prop :=
  writtenRecord format row = [lineFeed]

instance (format : FileFormat) (row : RawRow) : Decidable (Invisible format row) :=
  inferInstanceAs (Decidable (_ = _))

/-! ## Cells as fields -/

def fieldOf : Option String → Field
  | none => []
  | some text => Text.Utf8.encode text

private theorem encodeChar_quote : String.utf8EncodeChar '"' = [quote] := by
  decide +kernel

private theorem encodeChar_doubled (c : Char) :
    (doubled c).flatMap String.utf8EncodeChar =
      (String.utf8EncodeChar c).flatMap doubledQuote := by
  by_cases isQuote : c = '"'
  · rw [isQuote, encodeChar_quote]
    rfl
  · have single : ∀ byte ∈ String.utf8EncodeChar c, doubledQuote byte = [byte] := by
      intro byte member
      refine if_neg fun same => isQuote ?_
      subst same
      exact Char.ext (UInt32.toNat_inj.mp (Text.Utf8.eq_of_mem_encodeChar member (by decide)))
    rw [doubled, if_neg isQuote, List.flatMap_singleton, List.flatMap_congr single,
      List.flatMap_singleton']

theorem encode_quotedText (text : String) :
    Text.Utf8.encode (quotedText text) =
      quote :: ((Text.Utf8.encode text).flatMap doubledQuote ++ [quote]) := by
  simp only [Text.Utf8.encode, quotedText, String.toList_ofList, List.flatMap_cons,
    List.flatMap_append, List.cons_append, encodeChar_quote, List.flatMap_assoc,
    encodeChar_doubled]
  rfl

private theorem ordinary_of_text {text : String}
    (isPlain : ∀ c ∈ text.toList, c ≠ '\t' ∧ c ≠ '\n' ∧ c ≠ '\r') :
    ∀ byte ∈ Text.Utf8.encode text, (Layout.ofFormat .tsv).Ordinary byte := by
  intro byte member
  rcases List.mem_flatMap.mp member with ⟨c, isIn, isByte⟩
  have differs (other : Char) (small : other.val.toNat < 0x80) (different : c ≠ other) :
      byte.toNat ≠ other.val.toNat := by
    intro same
    have isOther := Text.Utf8.eq_of_mem_encodeChar isByte (same ▸ small)
    exact different (Char.ext (UInt32.toNat_inj.mp (isOther.trans same)))
  rcases isPlain c isIn with ⟨noTab, noFeed, noReturn⟩
  have noFeed : byte ≠ 10 := fun same => differs '\n' (by decide) noFeed (by rw [same]; rfl)
  have noReturn : byte ≠ 13 := fun same => differs '\r' (by decide) noReturn (by rw [same]; rfl)
  constructor
  · exact fun same => differs '\t' (by decide) noTab (by rw [same]; rfl)
  · simp [endsRecord, lineFeed, carriageReturn, noFeed, noReturn]
  · rfl

theorem writes_cell {format : FileFormat} {cell : Option String}
    (writable : format = .tsv → ∀ text, cell = some text →
      ∀ c ∈ text.toList, c ≠ '\t' ∧ c ≠ '\n' ∧ c ≠ '\r') :
    (Layout.ofFormat format).Writes (writtenCell format cell) (fieldOf cell) := by
  cases cell with
  | none => exact .plain nofun
  | some text =>
      cases format with
      | csv =>
          rw [writtenCell, encode_quotedText]
          exact .quoted rfl
      | tsv => exact .plain (ordinary_of_text (writable rfl text rfl))

theorem writes_line {format : FileFormat} {row : RawRow} (something : row ≠ [])
    (writable : Writable format row) :
    (Layout.ofFormat format).WritesRecord (writtenLine format row) (row.map fieldOf) := by
  induction row with
  | nil => exact absurd rfl something
  | cons cell row induction =>
      have writesCell := @writes_cell format cell fun isTsv text same =>
        writable isTsv text (same ▸ List.mem_cons_self)
      cases row with
      | nil =>
          have line : writtenLine format [cell] = writtenCell format cell := by
            simp [writtenLine]
          rw [line]
          exact .last writesCell
      | cons next row =>
          have line : writtenLine format (cell :: next :: row) =
              writtenCell format cell ++
                (Layout.ofFormat format).delimiter :: writtenLine format (next :: row) := by
            simp [writtenLine, List.intercalate_cons_cons, Layout.ofFormat]
          rw [line]
          exact .more writesCell (induction (List.cons_ne_nil _ _) fun isTsv text member =>
            writable isTsv text (List.mem_cons_of_mem _ member))

/-! ## Reading a file -/

def readCell (cell : Option String) : Option String :=
  cell.filter (!·.isEmpty)

private theorem cell?_fieldOf (cell : Option String) :
    cell? (fieldOf cell) = some (readCell cell) := by
  cases cell with
  | none => rfl
  | some text =>
      rw [fieldOf, cell?, Text.Utf8.decode?_encode, Option.map_some, readCell]
      cases empty : text.isEmpty <;> simp [Option.filter, empty]

theorem rowsOf_fields (failure : Option String) (rows : List RawRow) :
    rowsOf failure (rows.map (List.map fieldOf)) = ⟨rows.map (List.map readCell), failure⟩ := by
  induction rows with
  | nil => rfl
  | cons row rows induction =>
      have read : (row.map fieldOf).mapM cell? = some (row.map readCell) := by
        rw [List.mapM_map]
        simp only [Function.comp_def, cell?_fieldOf]
        exact List.mapM_pure
      rw [List.map_cons, rowsOf, read, induction]
      rfl

/-- A line with something in it is one way to write a row. -/
structure LineOf (format : FileFormat) (line : List UInt8) (row : RawRow) : Prop where
  something : line ≠ []
  writes : (Layout.ofFormat format).WritesRecord line (row.map fieldOf)

/-- A file of some rows, in pieces. A header has something in it besides a byte order mark, which
is no piece of its own, and without a header there is no mark at the start. -/
inductive Holds : FileFormat → List (List UInt8) → List RawRow → Prop
  | csv {pieces : List (List UInt8)} {header : List UInt8} {fields : Record}
      {lines : List (List UInt8)} {rows : List RawRow}
      (titled : (Layout.ofFormat .csv).WritesRecord header fields)
      (visible : withoutMark header ≠ []) (joined : ¬MarkAlone pieces)
      (written : List.Forall₂ (LineOf .csv) lines rows)
      (ended : Lines (header :: lines) pieces.flatten) : Holds .csv pieces rows
  | tsv {pieces : List (List UInt8)} {lines : List (List UInt8)} {rows : List RawRow}
      (written : List.Forall₂ (LineOf .tsv) lines rows)
      (unmarked : ∀ line ∈ lines.head?, withoutMark line = line)
      (ended : Lines lines pieces.flatten) : Holds .tsv pieces rows

private theorem lines_contents {download : Download} {line : List UInt8}
    {lines : List (List UInt8)} (joined : ¬MarkAlone download.pieces)
    (ended : Lines (line :: lines) download.pieces.flatten) :
    ∃ first bytes, contents download = ⟨bytes, download.failure⟩ ∧ Lines (first :: lines) bytes ∧
      (first = line ∨ first = withoutMark line) := by
  by_cases uncut : MarkUncut download.pieces
  · exact ⟨_, _, contents_of_markUncut uncut joined, ended.withoutMark, .inr rfl⟩
  · exact ⟨_, _, contents_of_markCut uncut, ended, .inl rfl⟩

private theorem writesRecords {format : FileFormat} {lines : List (List UInt8)}
    {rows : List RawRow} (written : List.Forall₂ (LineOf format) lines rows) :
    List.Forall₂ (fun line fields => line ≠ [] ∧ (Layout.ofFormat format).WritesRecord line fields)
      lines (rows.map (List.map fieldOf)) := by
  rw [List.forall₂_map_right_iff]
  exact written.imp fun line row lineOf => ⟨lineOf.something, lineOf.writes⟩

theorem read_of_holds {format : FileFormat} {rows : List RawRow} {download : Download}
    (whole : download.failure = none) (holds : Holds format download.pieces rows) :
    read format download = ⟨rows.map (List.map readCell), none⟩ := by
  generalize same : download.pieces = pieces at holds
  cases holds with
  | @csv _ header fields lines _ titled visible joined written ended =>
      subst same
      rcases lines_contents joined ended with ⟨first, bytes, arrived, endedToo, which⟩
      have title : ∃ others, first ≠ [] ∧ (Layout.ofFormat .csv).WritesRecord first others := by
        rcases which with rfl | rfl
        · refine ⟨fields, ?_, titled⟩
          rintro rfl
          exact visible rfl
        · rcases titled.withoutMark with ⟨others, writes⟩
          exact ⟨others, visible, writes⟩
      rcases title with ⟨others, something, writes⟩
      have all : records (.ofFormat .csv) true bytes = others :: rows.map (List.map fieldOf) := by
        apply records_of_lines (delimits_ofFormat .csv) endedToo
        exact .cons ⟨something, writes⟩ (writesRecords written)
      have behindHeader : dataRecords .csv true bytes = rows.map (List.map fieldOf) := by
        rw [dataRecords, all]
        rfl
      rw [read, arrived, whole, Contents.read]
      exact (congrArg (rowsOf none) behindHeader).trans (rowsOf_fields none rows)
  | @tsv _ lines _ written unmarked ended =>
      subst same
      have all : dataRecords .tsv true download.pieces.flatten = rows.map (List.map fieldOf) :=
        records_of_lines (delimits_ofFormat .tsv) ended (writesRecords written)
      rw [read, contents_of_unmarked (ended.isPrefixOf_eq_false unmarked), whole, Contents.read]
      exact (congrArg (rowsOf none) all).trans (rowsOf_fields none rows)

/-! ### Written files -/

/-- A byte order mark at the start of a written file would be part of a row. -/
def Unmarked (format : FileFormat) (rows : List RawRow) : Prop :=
  format = .tsv → byteOrderMark.isPrefixOf (writtenFile format [] rows) = false

private theorem lines_written (format : FileFormat) (rows : List RawRow) :
    Lines (rows.map (writtenLine format)) (rows.flatMap (writtenRecord format)) := by
  induction rows with
  | nil => exact .nothing
  | cons row rows induction =>
      have record : writtenRecord format row = writtenLine format row ++ [lineFeed] := rfl
      rw [List.flatMap_cons, record, List.append_assoc]
      exact .ended induction

private theorem lineOf_written {format : FileFormat} {rows : List RawRow}
    (writable : ∀ row ∈ rows, Writable format row)
    (visible : ∀ row ∈ rows, row ≠ [] ∧ writtenLine format row ≠ []) :
    List.Forall₂ (LineOf format) (rows.map (writtenLine format)) rows := by
  rw [List.forall₂_map_left_iff, List.forall₂_same]
  intro row member
  rcases visible row member with ⟨something, begun⟩
  exact ⟨begun, writes_line something (writable row member)⟩

private theorem writtenLine_quoted (text : String) (rest : RawRow) :
    ∃ bytes, writtenLine .csv (some text :: rest) = quote :: bytes := by
  cases rest <;> simp [writtenLine, writtenCell, encode_quotedText, List.intercalate_cons_cons]

theorem read_written {format : FileFormat} {names : List String} {rows : List RawRow}
    {download : Download} (named : names ≠ [])
    (writable : ∀ row ∈ rows, Writable format row)
    (visible : ∀ row ∈ rows, ¬Invisible format row) (unmarked : Unmarked format rows)
    (whole : download.failure = none)
    (same : download.pieces.flatten = writtenFile format names rows) :
    read format download = ⟨rows.map (List.map readCell), none⟩ := by
  apply read_of_holds whole
  have begun : ∀ row ∈ rows, row ≠ [] ∧ writtenLine format row ≠ [] := by
    intro row member
    have something := visible row member
    constructor
    · rintro rfl
      exact something rfl
    · intro nothing
      exact something (congrArg (· ++ [lineFeed]) nothing)
  have written := lineOf_written writable begun
  cases format with
  | csv =>
      rcases List.exists_cons_of_ne_nil named with ⟨name, others, rfl⟩
      rcases writtenLine_quoted name (others.map some) with ⟨bytes, quoted⟩
      have titled := @writes_line .csv ((name :: others).map some) (List.cons_ne_nil _ _) nofun
      have ended := lines_written .csv ((name :: others).map some :: rows)
      have begins : writtenFile .csv (name :: others) rows =
          writtenLine .csv ((name :: others).map some) ++ [lineFeed] ++
            rows.flatMap (writtenRecord .csv) := rfl
      refine .csv titled ?_ (fun alone => ?_) written (same ▸ ended)
      · rw [List.map_cons, quoted]
        exact List.cons_ne_nil quote bytes
      · have marked := alone.isPrefixOf
        rw [same, begins, List.map_cons, quoted] at marked
        cases marked
  | tsv =>
      refine .tsv written ?_ (same ▸ lines_written .tsv rows)
      intro line first
      cases rows with
      | nil => cases first
      | cons row rows =>
          cases first
          have file : writtenFile .tsv [] (row :: rows) =
              writtenLine .tsv row ++ ([lineFeed] ++ rows.flatMap (writtenRecord .tsv)) := by
            simp [writtenFile, FileFormat.hasHeader, writtenRecord, writtenLine]
          have unmarked := unmarked rfl
          rw [file] at unmarked
          exact withoutMark_of_append _ unmarked

/-! ### Files of texts -/

def textLine (format : FileFormat) (row : List String) : List UInt8 :=
  writtenLine format (row.map some)

/-- A file of rows of texts, in pieces, whatever its lines end with. Where the format has a
header, every text stands in quotes; elsewhere the texts stand as they are, and no line is empty. -/
inductive Spells : FileFormat → List (List UInt8) → List (List String) → Prop
  | csv {pieces : List (List UInt8)} {header : List UInt8} {fields : Record}
      {rows : List (List String)} (titled : (Layout.ofFormat .csv).WritesRecord header fields)
      (visible : withoutMark header ≠ []) (joined : ¬MarkAlone pieces)
      (cells : ∀ row ∈ rows, row ≠ [])
      (ended : Lines (header :: rows.map (textLine .csv)) pieces.flatten) :
      Spells .csv pieces rows
  | tsv {pieces : List (List UInt8)} {rows : List (List String)}
      (plain : ∀ row ∈ rows, ∀ text ∈ row, ∀ c ∈ text.toList, c ≠ '\t' ∧ c ≠ '\n' ∧ c ≠ '\r')
      (cells : ∀ row ∈ rows, row ≠ [] ∧ textLine .tsv row ≠ [])
      (unmarked : ∀ row ∈ rows.head?, byteOrderMark.isPrefixOf (textLine .tsv row) = false)
      (ended : Lines (rows.map (textLine .tsv)) pieces.flatten) : Spells .tsv pieces rows

theorem Spells.holds {format : FileFormat} {pieces : List (List UInt8)}
    {rows : List (List String)} (spells : Spells format pieces rows) :
    Holds format pieces (rows.map (List.map some)) := by
  cases spells with
  | csv titled visible joined cells ended =>
      refine .csv titled visible joined ?_ ended
      rw [List.forall₂_map_left_iff, List.forall₂_map_right_iff, List.forall₂_same]
      intro row member
      rcases List.exists_cons_of_ne_nil (cells row member) with ⟨text, rest, rfl⟩
      rcases writtenLine_quoted text (rest.map some) with ⟨bytes, quoted⟩
      refine ⟨?_, writes_line (List.cons_ne_nil _ _) nofun⟩
      rw [textLine, List.map_cons, quoted]
      exact List.cons_ne_nil quote bytes
  | tsv plain cells unmarked ended =>
      refine .tsv ?_ ?_ ended
      · rw [List.forall₂_map_left_iff, List.forall₂_map_right_iff, List.forall₂_same]
        intro row member
        rcases cells row member with ⟨something, begun⟩
        refine ⟨begun, writes_line (by simpa using something) ?_⟩
        intro _ text isCell
        rcases List.mem_map.mp isCell with ⟨_, isText, same⟩
        cases same
        exact plain row member _ isText
      · intro line first
        cases rows with
        | nil => cases first
        | cons row rows =>
            cases first
            apply withoutMark_of_append []
            rw [List.append_nil]
            exact unmarked row rfl

/-- A quote and a line end in a cell, an absent cell, and an empty one. -/
example :
    read .csv { pieces := [writtenFile .csv ["a", "b"] [[some "x\"y\nz", none], [none, some ""]]] } =
      ⟨[[some "x\"y\nz", none], [none, none]], none⟩ := by decide +kernel

end RemoteQuery.ResultFile
