import RemoteQuery.Proofs.Twins.Basic
import RemoteQuery.Results.Pager

/-! # Results in twin worlds

Sources that differ in the surroundings and in their tokens hand out the same pages in twin
worlds.
-/

namespace RemoteQuery

variable {σ τ α γ δ : Type}

def BulkSource.moved (object : String → τ → Answer (Outcome Download) × τ) (token : Token)
    (source : BulkSource σ) : BulkSource τ :=
  { object, token
    location := source.location
    columns := source.columns
    subject := source.subject
    pageSize := source.pageSize
    retry := source.retry
    stream := source.stream }

theorem BulkSource.nextPage_moved (object : String → τ → Answer (Outcome Download) × τ)
    (token : Token) (source : BulkSource σ) (stream : FileStream) :
    (source.moved object token).nextPage stream =
      ((source.nextPage stream).1, (source.nextPage stream).2.moved object token) := by
  unfold nextPage
  split <;> rfl

namespace Twins

variable (twins : Twins σ τ)

inductive Sources : Source σ → Source τ → Prop
  | direct (source : DirectSource) {token : Token} (paired : twins.token source.token token) :
      Sources (.direct source) (.direct { source with token })
  | bulk (source : BulkSource σ) {object : String → τ → Answer (Outcome Download) × τ}
      {token : Token} (paired : twins.token source.token token)
      (objects : ∀ uri, twins.Alike twins.Answers (source.object uri) (object uri)) :
      Sources (.bulk source) (.bulk (source.moved object token))

inductive Pagers (pager : Pager σ) : Pager τ → Prop
  | of {source : Source τ} (sources : twins.Sources pager.source source) :
      Pagers pager
        { source
          nextToken := pager.nextToken
          started := pager.started
          exhausted := pager.exhausted
          columns := pager.columns }

/-- The same has come of something in both worlds, and what else is left of it is related. -/
structure Yields (related : γ → δ → Prop) (made : α × γ × World σ)
    (madeTwin : α × δ × World τ) : Prop where
  answer : madeTwin.1 = made.1
  after : related made.2.1 madeTwin.2.1
  world : twins.Worlds made.2.2 madeTwin.2.2

variable {twins} {environment : Environment σ} {environmentTwin : Environment τ}
  {world : World σ} {worldTwin : World τ} {token tokenTwin : Token}

theorem Yields.follows {related : γ → δ → Prop} {made : α × γ × World σ}
    {madeTwin : α × δ × World τ} {answer : α} {after : γ} {reached : World σ}
    (yields : twins.Yields related made madeTwin) (known : made = (answer, after, reached)) :
    ∃ afterTwin reachedTwin, madeTwin = (answer, afterTwin, reachedTwin) ∧
      related after afterTwin ∧ twins.Worlds reached reachedTwin := by
  subst known
  exact ⟨madeTwin.2.1, madeTwin.2.2, Prod.ext yields.answer rfl, yields.after, yields.world⟩

/-! ## Preparing a source -/

theorem askColumns_inStep (behave : twins.Environments environment environmentTwin)
    (paired : twins.token token tokenTwin) (location : Location) (subject : Subject)
    (retry : RetryPolicy) :
    twins.InStep (BulkSource.askColumns environment location subject retry token)
      (BulkSource.askColumns environmentTwin location subject retry tokenTwin) := by
  intro world worldTwin worlds
  unfold BulkSource.askColumns
  cases location.table with
  | some table =>
      exact run_inStep behave paired retry subject.scope (askSchema_inStep behave table) _ _ worlds
  | none =>
      have ends := run_inStep behave paired retry subject.scope
        (askResults_inStep behave subject.queryId none 1) _ _ worlds
      exact ⟨congrArg (Except.map (·.columns)) ends.answer, ends.world⟩

theorem prepare_twin (behave : twins.Environments environment environmentTwin)
    (paired : twins.token token tokenTwin)
    {object : String → σ → Answer (Outcome Download) × σ}
    {objectTwin : String → τ → Answer (Outcome Download) × τ}
    (objects : ∀ uri, twins.Alike twins.Answers (object uri) (objectTwin uri))
    (location : Location) (subject : Subject) (pageSize : Nat) (retry : RetryPolicy)
    (worlds : twins.Worlds world worldTwin) :
    Fault.Shared twins.Sources
        ((BulkSource.prepare environment object location subject pageSize retry token
          world).1.map .bulk)
        ((BulkSource.prepare environmentTwin objectTwin location subject pageSize retry tokenTwin
          worldTwin).1.map .bulk) ∧
      twins.Worlds
        (BulkSource.prepare environment object location subject pageSize retry token world).2
        (BulkSource.prepare environmentTwin objectTwin location subject pageSize retry tokenTwin
          worldTwin).2 := by
  rcases (askColumns_inStep behave paired location subject retry _ _ worlds).exists with
    ⟨columns, reached, reachedTwin, asked, askedTwin, reaches⟩
  simp only [BulkSource.prepare, asked, askedTwin]
  cases columns with
  | error fault => exact ⟨.error fault, reaches⟩
  | ok columns => exact ⟨.ok (.bulk _ paired objects), reaches⟩

/-! ## Pages -/

private theorem download_twin (behave : twins.Environments environment environmentTwin)
    {source : BulkSource σ} {objectTwin : String → τ → Answer (Outcome Download) × τ}
    (paired : twins.token source.token tokenTwin)
    (objects : ∀ uri, twins.Alike twins.Answers (source.object uri) (objectTwin uri))
    (worlds : twins.Worlds world worldTwin) :
    twins.Ends (source.download environment world)
      ((source.moved objectTwin tokenTwin).download environmentTwin worldTwin) := by
  have ends := run_inStep behave paired source.retry source.subject.scope
    (fun _ _ worlds => worlds.ask (.object source.location.uri) (objects source.location.uri))
    _ _ worlds
  exact ⟨congrArg (Except.map _) ends.answer, ends.world⟩

private theorem fetch_direct (behave : twins.Environments environment environmentTwin)
    {source : DirectSource} (paired : twins.token source.token tokenTwin)
    (pageToken : Option String) (worlds : twins.Worlds world worldTwin) :
    twins.Yields twins.Sources ((Source.direct source).fetch environment pageToken world)
      ((Source.direct { source with token := tokenTwin }).fetch environmentTwin pageToken
        worldTwin) := by
  rcases (run_inStep behave paired source.retry source.subject.scope
    (askResults_inStep behave source.subject.queryId pageToken source.maxRows) _ _ worlds).exists
    with ⟨part, reached, reachedTwin, ran, ranTwin, reaches⟩
  simp only [Source.fetch, DirectSource.fetch, ran, ranTwin]
  cases part with
  | error fault => exact ⟨rfl, .direct source paired, reaches⟩
  | ok part => exact ⟨rfl, .direct { source with columns := some _ } paired, reaches⟩

private theorem fetch_bulk (behave : twins.Environments environment environmentTwin)
    {source : BulkSource σ} {objectTwin : String → τ → Answer (Outcome Download) × τ}
    (paired : twins.token source.token tokenTwin)
    (objects : ∀ uri, twins.Alike twins.Answers (source.object uri) (objectTwin uri))
    (pageToken : Option String) (worlds : twins.Worlds world worldTwin) :
    twins.Yields twins.Sources ((Source.bulk source).fetch environment pageToken world)
      ((Source.bulk (source.moved objectTwin tokenTwin)).fetch environmentTwin pageToken
        worldTwin) := by
  have next (stream : FileStream) : twins.Sources (.bulk (source.nextPage stream).2)
      (.bulk ((source.nextPage stream).2.moved objectTwin tokenTwin)) := by
    refine .bulk _ ?_ ?_
    all_goals
      unfold BulkSource.nextPage
      split <;> assumption
  cases pageToken with
  | none =>
      rcases (download_twin behave paired objects worlds).exists with
        ⟨stream, reached, reachedTwin, ran, ranTwin, reaches⟩
      simp only [Source.fetch, BulkSource.fetch, ran, ranTwin]
      cases stream with
      | error fault => exact ⟨rfl, .bulk source paired objects, reaches⟩
      | ok stream =>
          dsimp only
          rw [BulkSource.nextPage_moved]
          exact ⟨rfl, next stream, reaches⟩
  | some pageToken =>
      have same : (source.moved objectTwin tokenTwin).stream = source.stream := rfl
      simp only [Source.fetch, BulkSource.fetch, same]
      cases source.stream with
      | none => exact ⟨rfl, .bulk source paired objects, worlds⟩
      | some stream =>
          dsimp only
          split
          · rw [BulkSource.nextPage_moved]
            exact ⟨rfl, next stream, worlds⟩
          · exact ⟨rfl, .bulk source paired objects, worlds⟩

theorem fetch_yields (behave : twins.Environments environment environmentTwin)
    {source : Source σ} {sourceTwin : Source τ} (sources : twins.Sources source sourceTwin)
    (pageToken : Option String) (worlds : twins.Worlds world worldTwin) :
    twins.Yields twins.Sources (source.fetch environment pageToken world)
      (sourceTwin.fetch environmentTwin pageToken worldTwin) := by
  cases sources with
  | direct source paired => exact fetch_direct behave paired pageToken worlds
  | bulk source paired objects => exact fetch_bulk behave paired objects pageToken worlds

theorem next_yields (behave : twins.Environments environment environmentTwin)
    {pager : Pager σ} {pagerTwin : Pager τ} (pagers : twins.Pagers pager pagerTwin)
    (worlds : twins.Worlds world worldTwin) :
    twins.Yields twins.Pagers (pager.next environment world)
      (pagerTwin.next environmentTwin worldTwin) := by
  rcases pagers with ⟨sources⟩
  cases ended : pager.exhausted with
  | true =>
      simp only [Pager.next, ended, if_true]
      exact ⟨rfl, ended ▸ .of sources, worlds⟩
  | false =>
      rcases fetched : pager.source.fetch environment pager.pageToken world with
        ⟨page, after, reached⟩
      rcases (fetch_yields behave sources pager.pageToken worlds).follows fetched with
        ⟨afterTwin, reachedTwin, fetchedTwin, sourcesAfter, reaches⟩
      rw [Pager.pageToken] at fetched fetchedTwin
      simp only [Pager.next, Pager.pageToken, ended, fetched, fetchedTwin, Bool.false_eq_true,
        if_false]
      cases page with
      | error fault => exact ⟨rfl, .of sourcesAfter, reaches⟩
      | ok page => exact ⟨rfl, .of sourcesAfter, reaches⟩

end Twins

end RemoteQuery
