import RemoteQuery.Execution
import RemoteQuery.Retry.Policy

namespace RemoteQuery

structure Subject where
  queryId : String
  database : String
  catalog : String
deriving Repr, DecidableEq, Inhabited

def Subject.scope (subject : Subject) : Scope :=
  { queryId := some subject.queryId, database := subject.database, catalog := subject.catalog }

def Execution.subject (execution : Execution) : Subject :=
  { queryId := execution.queryId, database := execution.database, catalog := execution.catalog }

/-- A batch of rows. A page without a continuation token is the last one. -/
structure Page where
  columns : List Column
  rows : List RawRow
  nextToken : Option String
  updateCount : Option UInt64 := none
deriving Repr, DecidableEq, Inhabited

namespace Page

/-- A page whose continuation token may be empty, which means the same as none. -/
def of (columns : List Column) (rows : List RawRow) (nextToken : Option String)
    (updateCount : Option UInt64) : Page :=
  { columns, rows, updateCount, nextToken := nextToken.filter (!·.isEmpty) }

def isLast (page : Page) : Bool :=
  page.nextToken.isNone

end Page

end RemoteQuery
