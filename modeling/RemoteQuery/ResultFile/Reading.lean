import RemoteQuery.Fault
import RemoteQuery.ResultFile.Record
import RemoteQuery.Text.Utf8
import RemoteQuery.World

namespace RemoteQuery.ResultFile

/-! ## The rows of a file -/

def byteOrderMark : List UInt8 := [0xEF, 0xBB, 0xBF]

/-- What there is to read of a download, and what breaks it off. -/
structure Contents where
  bytes : List UInt8
  broken : Option String := none
deriving Repr, DecidableEq

/-- The contents of a download. A byte order mark at the start is left out if it comes in one
piece. If this piece has nothing else in it, nothing is left of it, and that is taken for the end
of the file. -/
def contents (download : Download) : Contents :=
  match download.pieces.filter (!·.isEmpty) with
  | [] => ⟨[], download.failure⟩
  | first :: _ =>
      if first = byteOrderMark then { bytes := [] }
      else if byteOrderMark.isPrefixOf first then
        ⟨download.pieces.flatten.drop 3, download.failure⟩
      else ⟨download.pieces.flatten, download.failure⟩

/-- The cell that a field is. An empty field is an absent cell. -/
def cell? (field : Field) : Option (Option String) :=
  (Text.Utf8.decode? field).map fun text => if text.isEmpty then none else some text

/-- The rows that can be read one after the other, and what ended the reading early, if
something did. -/
structure Reading where
  rows : List RawRow
  failure : Option String := none
deriving Repr, DecidableEq

def notText : String := "invalid utf-8"

def rowsOf (failure : Option String) : List Record → Reading
  | [] => ⟨[], failure⟩
  | record :: rest =>
      match record.mapM cell? with
      | none => ⟨[], some notText⟩
      | some row =>
          let reading := rowsOf failure rest
          { reading with rows := row :: reading.rows }

/-- The records behind the header, if there is to be one. A header is left out whatever it
says. -/
def dataRecords (format : FileFormat) (whole : Bool) (bytes : List UInt8) : List Record :=
  let all := records (.ofFormat format) whole bytes
  if format.hasHeader then all.drop 1 else all

def Contents.read (format : FileFormat) (contents : Contents) : Reading :=
  rowsOf contents.broken (dataRecords format contents.broken.isNone contents.bytes)

def read (format : FileFormat) (download : Download) : Reading :=
  (contents download).read format

/-! ## Batches

A file is handed over in batches of rows. A batch is full, except that the last one of a
whole file has what is left. Rows in front of a failure that do not fill a batch are lost
with it. -/

abbrev Batch := Except Fault (List RawRow)

/-- The batches behind rows that wait for more, the last first. -/
def batchesFrom (size : Nat) (failure : Option String) :
    (waiting : List RawRow) → List RawRow → List Batch
  | waiting, [] =>
      match failure with
      | some message => [.error (.resultFile message)]
      | none => if waiting.isEmpty then [] else [.ok waiting.reverse]
  | waiting, row :: rest =>
      if size ≤ waiting.length + 1 then
        .ok (row :: waiting).reverse :: batchesFrom size failure [] rest
      else batchesFrom size failure (row :: waiting) rest

def rowBytes : Nat := 24

def hasRoom (size : Nat) : Bool :=
  size * rowBytes < 2 ^ 63

/-- The batches of a file. A size for which there is no room gives none. -/
def batches (format : FileFormat) (size : Nat) (download : Download) : List Batch :=
  let reading := read format download
  if hasRoom size then batchesFrom size reading.failure [] reading.rows else []

end RemoteQuery.ResultFile
