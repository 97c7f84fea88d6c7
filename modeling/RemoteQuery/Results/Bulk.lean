import RemoteQuery.ResultFile.Reading
import RemoteQuery.Results.Page

namespace RemoteQuery

open ResultFile (Batch)

/-! Results from the file that the service has written. The file is read from its start
to its end, so a page can only follow the page before it. -/

structure FileStream where
  /-- A batch that has been taken from the file and is not handed out yet. -/
  lookahead : Option Batch := none
  /-- The batches still to come. -/
  remaining : List Batch
  /-- How many pages have been handed out. -/
  handedOut : Nat := 0
deriving Inhabited

namespace FileStream

def pageToken (stream : FileStream) : String :=
  Number.text stream.handedOut

def take (stream : FileStream) : Option Batch × FileStream :=
  match stream.lookahead, stream.remaining with
  | some batch, _ => (some batch, { stream with lookahead := none })
  | none, batch :: rest => (some batch, { stream with remaining := rest })
  | none, [] => (none, stream)

/-- Count a page that is handed out, and look at the batch behind it. -/
def handOut (stream : FileStream) : FileStream :=
  { lookahead := stream.remaining.head?
    remaining := stream.remaining.tail
    handedOut := stream.handedOut + 1 }

def continuation? (stream : FileStream) : Option String :=
  stream.lookahead.map fun _ => stream.pageToken

end FileStream

structure BulkSource (σ : Type) where
  object : String → σ → Answer (Outcome Download) × σ
  location : Location
  columns : List Column
  subject : Subject
  pageSize : Nat
  retry : RetryPolicy
  token : Token
  stream : Option FileStream := none

namespace BulkSource

variable {σ : Type}

/-- The columns of the results: those of the table that the file belongs to, or those
that the service names with the first row of the results. -/
def askColumns (environment : Environment σ) (location : Location) (subject : Subject)
    (retry : RetryPolicy) (token : Token) (world : World σ) :
    Except Fault (List Column) × World σ :=
  match location.table with
  | some table => retry.run environment subject.scope token (environment.askSchema table) world
  | none =>
      let (part, world) :=
        retry.run environment subject.scope token
          (environment.askResults subject.queryId none 1) world
      (part.map (·.columns), world)

/-- Prepare to read the results in a file. The file itself is not touched yet. -/
def prepare (environment : Environment σ) (object : String → σ → Answer (Outcome Download) × σ)
    (location : Location) (subject : Subject) (pageSize : Nat) (retry : RetryPolicy)
    (token : Token) (world : World σ) : Except Fault (BulkSource σ) × World σ :=
  let (columns, world) := askColumns environment location subject retry token world
  (columns.map fun columns =>
    { object, location, subject, pageSize, retry, token, columns := Column.normalize columns },
    world)

def download (environment : Environment σ) (source : BulkSource σ) (world : World σ) :
    Except Fault FileStream × World σ :=
  let (download, world) :=
    source.retry.run environment source.subject.scope source.token
      (fun world : World σ => world.ask (.object source.location.uri)
        (source.object source.location.uri)) world
  (download.map fun download =>
    { remaining := ResultFile.batches source.location.format source.pageSize download }, world)

def notLatestMessage (queryId : String) : String :=
  "bulk results of query " ++ queryId ++ " can only resume from the latest continuation token"

/-- The next page of an open file. Behind the last batch, and behind a failure, there is
only an empty page. -/
def nextPage (source : BulkSource σ) (stream : FileStream) : Except Fault Page × BulkSource σ :=
  match stream.take with
  | (some (.ok rows), stream) =>
      let stream := stream.handOut
      (.ok (.of source.columns rows stream.continuation? none),
        { source with stream := some stream })
  | (some (.error fault), stream) => (.error fault, { source with stream := some stream })
  | (none, _) => (.ok (.of source.columns [] none none), { source with stream := none })

/-- The page that a continuation token names, or the first one. The file is read again for
the first page; any other page can only be asked for by the latest token. -/
def fetch (environment : Environment σ) (source : BulkSource σ) (pageToken : Option String)
    (world : World σ) : Except Fault Page × BulkSource σ × World σ :=
  match pageToken with
  | none =>
      match source.download environment world with
      | (.error fault, world) => (.error fault, source, world)
      | (.ok stream, world) =>
          let (page, source) := source.nextPage stream
          (page, source, world)
  | some pageToken =>
      match source.stream with
      | some stream =>
          if stream.pageToken = pageToken then
            let (page, source) := source.nextPage stream
            (page, source, world)
          else (.error (.usage (notLatestMessage source.subject.queryId)), source, world)
      | none => (.error (.usage (notLatestMessage source.subject.queryId)), source, world)

end BulkSource

end RemoteQuery
