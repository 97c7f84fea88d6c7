import RemoteQuery.Service.Record

namespace RemoteQuery.ResultFile

/-! Result files are sequences of records, and records are sequences of fields. A line
feed or a carriage return ends a record, and a delimiter ends a field. Lines without
anything in them are no records.

Where the layout has quotes, a field that begins with a double quote is quoted:
delimiters and line ends inside it are text, and two double quotes are one. What
follows the closing quote is ordinary text. -/

structure Layout where
  delimiter : UInt8
  quoting : Bool
deriving Repr, DecidableEq

def Layout.ofFormat (format : FileFormat) : Layout :=
  { delimiter := format.delimiter, quoting := format = .csv }

abbrev Field := List UInt8
abbrev Record := List Field

def quote : UInt8 := 34
def lineFeed : UInt8 := 10
def carriageReturn : UInt8 := 13

def endsRecord (byte : UInt8) : Bool :=
  byte = lineFeed ∨ byte = carriageReturn

inductive Place where
  | recordStart
  | fieldStart
  /-- In a field that is not quoted, or behind a closing quote. -/
  | plain
  | quoted
  /-- Behind a quote in a quoted field, which closes the field or is the first of
  two. -/
  | quoteSeen
deriving Repr, DecidableEq

inductive Effect where
  /-- The byte is left out. -/
  | skip (place : Place)
  /-- The byte is text of the field. -/
  | keep (place : Place)
  | endField
  | endRecord
deriving Repr, DecidableEq

/-- What a byte does that is not part of a quoted text. -/
def Layout.plainEffect (layout : Layout) (byte : UInt8) : Effect :=
  if byte = layout.delimiter then .endField
  else if endsRecord byte then .endRecord
  else .keep .plain

def Layout.effect (layout : Layout) (place : Place) (byte : UInt8) : Effect :=
  match place with
  | .recordStart =>
      if endsRecord byte then .skip .recordStart
      else if layout.quoting && byte == quote then .skip .quoted
      else layout.plainEffect byte
  | .fieldStart =>
      if layout.quoting && byte == quote then .skip .quoted else layout.plainEffect byte
  | .plain => layout.plainEffect byte
  | .quoted => if byte = quote then .skip .quoteSeen else .keep .quoted
  | .quoteSeen => if byte = quote then .keep .quoted else layout.plainEffect byte

/-- A record that has not ended: its earlier fields, and the field that is being read,
the last first. -/
structure Open where
  fields : List Field := []
  field : Field := []
deriving Repr, DecidableEq

def Open.keep (byte : UInt8) (record : Open) : Open :=
  { record with field := byte :: record.field }

def Open.endField (record : Open) : Open :=
  { fields := record.field.reverse :: record.fields }

def Open.close (record : Open) : Record :=
  record.endField.fields.reverse

/-- The records of a file from a place on. At the end of the file the last record needs
no line end; where the bytes break off before, it is lost. -/
def recordsFrom (layout : Layout) (whole : Bool) : Place → Open → List UInt8 → List Record
  | place, record, [] =>
      if whole ∧ place ≠ .recordStart then [record.close] else []
  | place, record, byte :: rest =>
      match layout.effect place byte with
      | .skip place => recordsFrom layout whole place record rest
      | .keep place => recordsFrom layout whole place (record.keep byte) rest
      | .endField => recordsFrom layout whole .fieldStart record.endField rest
      | .endRecord => record.close :: recordsFrom layout whole .recordStart {} rest

def records (layout : Layout) (whole : Bool) (bytes : List UInt8) : List Record :=
  recordsFrom layout whole .recordStart {} bytes

/-- The text `a,"b""c"`, two line ends, and `d,` without one. -/
example :
    records ⟨44, true⟩ true [97, 44, 34, 98, 34, 34, 99, 34, 13, 10, 100, 44] =
      [[[97], [98, 34, 99]], [[100], []]] := by decide +kernel

end RemoteQuery.ResultFile
