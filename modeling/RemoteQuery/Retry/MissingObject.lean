import RemoteQuery.Service.Error
import RemoteQuery.Text.Blank
import RemoteQuery.Text.Search
import RemoteQuery.Text.Word

namespace RemoteQuery

/-! The service's messages about objects that it does not find, such as
`Table 'orders' not found`. -/

inductive ObjectKind where
  | catalog
  | database
  | table
deriving Repr, DecidableEq, Inhabited

structure MissingObject where
  kind : ObjectKind
  name : String
deriving Repr, DecidableEq

namespace MissingObject

open Text (after? isBlank dropBlanks isWordCharacter)

/-! ## Pieces of a message -/

def afterBlanks? : List Char → Option (List Char)
  | c :: rest => if isBlank c then some (dropBlanks rest) else none
  | [] => none

def dropQuote : List Char → List Char
  | '\'' :: rest => rest
  | text => text

def isNameCharacter (c : Char) : Bool :=
  !isBlank c && c != '\''

/-- What follows `Data` and `Source` or `source`, with or without blanks between. -/
def afterDataSource? (text : List Char) : Option (List Char) := do
  let rest ← after? "Data".toList text
  let rest := dropBlanks rest
  (after? "Source".toList rest).or (after? "source".toList rest)

def afterKeyword? : ObjectKind → List Char → Option (List Char)
  | .catalog, text => (after? "Catalog".toList text).or (afterDataSource? text)
  | .database, text =>
      (after? "Database".toList text).or
        ((after? "Namespace".toList text).or (after? "Schema".toList text))
  | .table, text => after? "Table".toList text

def saysNotFound (text : List Char) : Bool :=
  ((((afterBlanks? text).bind (after? "not".toList)).bind afterBlanks?).bind
    (after? "found".toList)).isSome

/-- The name in an announcement at the start of a text: a keyword, blanks, the name,
which may stand in single quotes, and `not found`. -/
def announced? (kind : ObjectKind) (text : List Char) : Option String := do
  let rest ← afterKeyword? kind text
  let rest ← afterBlanks? rest
  let rest := dropQuote rest
  let name := rest.takeWhile isNameCharacter
  if name ≠ [] ∧ saysNotFound (dropQuote (rest.dropWhile isNameCharacter)) then
    some (String.ofList name)
  else none

/-- The name in the first announcement of a text. A keyword does not begin inside a
word, so the character in front of the text matters. -/
def firstFrom? (kind : ObjectKind) (insideWord : Bool) : List Char → Option String
  | [] => none
  | c :: rest =>
      match if insideWord then none else announced? kind (c :: rest) with
      | some name => some name
      | none => firstFrom? kind (isWordCharacter c) rest

def first? (kind : ObjectKind) (message : String) : Option MissingObject :=
  (firstFrom? kind false message.toList).map fun name => ⟨kind, name⟩

/-- The object that a message says was not found. A catalog comes before a database,
and a database before a table, wherever they stand. -/
def ofMessage? (message : String) : Option MissingObject :=
  (first? .catalog message).or ((first? .database message).or (first? .table message))

example : ofMessage? "line 1: Table 'a' not found, Schema b not found" =
    some ⟨.database, "b"⟩ := by decide +kernel
example : ofMessage? "DatabaseX 'a' not found" = none := by decide +kernel

end MissingObject

namespace ServiceError

/-- A call that failed may be made again, for a query that names a database of a
catalog. A wrong request stays wrong, and an object that the query itself names will not
appear; other missing objects may only be late. -/
def isRetryable (error : ServiceError) (database catalog : String) : Bool :=
  match error.kind, MissingObject.ofMessage? error.message with
  | .programming, _ => false
  | .operational, none => true
  | .operational, some ⟨.catalog, name⟩ => name != catalog
  | .operational, some ⟨.database, name⟩ => name != database
  | .operational, some ⟨.table, name⟩ => name != database && name != catalog

end ServiceError

end RemoteQuery
