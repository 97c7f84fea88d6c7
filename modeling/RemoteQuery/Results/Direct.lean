import RemoteQuery.Results.Page

namespace RemoteQuery

/-! Results page by page from the service. The first page of a query's results begins
with a row of the column names, which is no row of the results. -/

structure DirectSource where
  subject : Subject
  maxRows : Nat
  retry : RetryPolicy
  token : Token
  /-- The columns that are known from an earlier page. -/
  columns : Option (List Column) := none
deriving Repr, DecidableEq, Inhabited

namespace DirectSource

variable {σ : Type}

def isHeader (columns : List Column) (row : RawRow) : Bool :=
  !columns.isEmpty && row == columns.map fun column => some column.name

def dataRows (first : Bool) (part : ResultPart) : List RawRow :=
  match part.rows with
  | row :: rest => if first && isHeader part.columns row then rest else row :: rest
  | [] => []

/-- The columns of a page. A later page, and one for which the service names no columns,
has the columns that are known, if any are. -/
def pageColumns (known : Option (List Column)) (first : Bool) (part : ResultPart) :
    List Column :=
  match known with
  | some columns =>
      if !first || part.columns.isEmpty then columns else Column.normalize part.columns
  | none => Column.normalize part.columns

def fetch (environment : Environment σ) (source : DirectSource) (pageToken : Option String)
    (world : World σ) : Except Fault Page × DirectSource × World σ :=
  match source.retry.run environment source.subject.scope source.token
      (environment.askResults source.subject.queryId pageToken source.maxRows) world with
  | (.error fault, world) => (.error fault, source, world)
  | (.ok part, world) =>
      let columns := pageColumns source.columns pageToken.isNone part
      (.ok (.of columns (dataRows pageToken.isNone part) part.nextToken part.updateCount),
        { source with columns := some columns }, world)

end DirectSource

end RemoteQuery
