import RemoteQuery.Config.Basic
import RemoteQuery.Results.Bulk
import RemoteQuery.Results.Direct

namespace RemoteQuery

inductive Source (σ : Type) where
  | direct (source : DirectSource)
  | bulk (source : BulkSource σ)

namespace Source

variable {σ : Type}

def format : Source σ → ResultFormat
  | .direct _ => .direct
  | .bulk _ => .bulk

def fetch (environment : Environment σ) (source : Source σ) (pageToken : Option String)
    (world : World σ) : Except Fault Page × Source σ × World σ :=
  match source with
  | .direct source =>
      let (page, source, world) := source.fetch environment pageToken world
      (page, .direct source, world)
  | .bulk source =>
      let (page, source, world) := source.fetch environment pageToken world
      (page, .bulk source, world)

end Source

/-- A walk through the pages of a source, each asked for by the continuation token of the
page before. -/
structure Pager (σ : Type) where
  source : Source σ
  /-- The continuation token of the latest page. -/
  nextToken : Option String := none
  /-- A page has been handed out since the walk was begun. -/
  started : Bool := false
  /-- The last page has been handed out. -/
  exhausted : Bool := false
  /-- The columns of the latest page that has any. -/
  columns : Option (List Column) := none

namespace Pager

variable {σ : Type}

/-- Columns after a page. A page without columns changes nothing but that there are
pages. -/
def columnsAfter (known : Option (List Column)) (page : Page) : Option (List Column) :=
  if known.isNone || !page.columns.isEmpty then some page.columns else known

def pageToken (pager : Pager σ) : Option String :=
  if pager.started then pager.nextToken else none

def advance (pager : Pager σ) (page : Page) : Pager σ :=
  { pager with
    nextToken := page.nextToken
    started := true
    exhausted := page.isLast
    columns := columnsAfter pager.columns page }

@[simp] theorem pageToken_advance (pager : Pager σ) (page : Page) :
    (pager.advance page).pageToken = page.nextToken := rfl

/-- The next page, or nothing behind the last one. A failure does not move the walk. -/
def next (environment : Environment σ) (pager : Pager σ) (world : World σ) :
    Except Fault (Option Page) × Pager σ × World σ :=
  if pager.exhausted then (.ok none, pager, world)
  else
    match pager.source.fetch environment pager.pageToken world with
    | (.ok page, source, world) => (.ok (some page), { pager with source }.advance page, world)
    | (.error fault, source, world) => (.error fault, { pager with source }, world)

def restart (pager : Pager σ) : Pager σ :=
  { pager with nextToken := none, started := false, exhausted := false }

end Pager

end RemoteQuery
