import RemoteQuery.Proofs.Cursor.Budget
import RemoteQuery.Proofs.Disturbance.Retry

/-! # Results in disturbed surroundings

The pages of a query's results are the same in a disturbed world, as long as all is calm.
-/

namespace RemoteQuery

open RetryPolicy (Calm)

variable {σ : Type} {environment : Environment σ} {policy : RetryPolicy} {subject : Subject}
  {token : Token} {world last : World σ} {shadow lastShadow : World (Disturbed σ)}

def BulkSource.disturbed (source : BulkSource σ) : BulkSource (Disturbed σ) :=
  { object := fun uri => Disturbed.answering (source.object uri)
    location := source.location
    columns := source.columns
    subject := source.subject
    pageSize := source.pageSize
    retry := source.retry
    token := source.token
    stream := source.stream }

def Source.disturbed : Source σ → Source (Disturbed σ)
  | .direct source => .direct source
  | .bulk source => .bulk source.disturbed

def Pager.disturbed (pager : Pager σ) : Pager (Disturbed σ) :=
  { source := pager.source.disturbed
    nextToken := pager.nextToken
    started := pager.started
    exhausted := pager.exhausted
    columns := pager.columns }

theorem Source.disturbed_uses {source : Source σ} (uses : source.Uses policy subject token) :
    source.disturbed.Uses policy subject token := by
  cases source with
  | direct source => exact uses
  | bulk source => exact uses

/-- What an operation comes to in a disturbed world if all is calm, given what it comes to in
an undisturbed one: the same answer, and a source that has come as far. -/
theorem DirectSource.fetch_shadows {source after afterShadow : DirectSource}
    {page pageShadow : Except Fault Page} {pageToken : Option String}
    (uses : (Source.direct source : Source σ).Uses policy subject token)
    (shadows : world.Shadows subject.database subject.catalog false shadow)
    (fetched : source.fetch environment pageToken world = (page, after, last))
    (fetchedShadow : source.fetch environment.disturbed pageToken shadow =
      (pageShadow, afterShadow, lastShadow))
    (calm : Calm policy environment.step subject.database subject.catalog none
      (lastShadow.since shadow))
    (unfired : last.isFired token = false) :
    pageShadow = page ∧ afterShadow = after ∧
      last.Shadows subject.database subject.catalog false lastShadow := by
  rcases uses with ⟨rfl, rfl, rfl⟩
  unfold fetch at fetched fetchedShadow
  rcases ran : source.retry.run environment source.subject.scope source.token
    (environment.askResults source.subject.queryId pageToken source.maxRows) world with
    ⟨part, reached⟩
  rcases ranShadow : source.retry.run environment.disturbed source.subject.scope source.token
    (environment.disturbed.askResults source.subject.queryId pageToken source.maxRows)
    shadow with ⟨partShadow, reachedShadow⟩
  rw [ran] at fetched
  rw [ranShadow] at fetchedShadow
  have ends : reached = last := by
    cases part <;> cases fetched <;> rfl
  have endsShadow : reachedShadow = lastShadow := by
    cases partShadow <;> cases fetchedShadow <;> rfl
  subst ends endsShadow
  rcases RetryPolicy.run_shadows (.results source.subject.queryId pageToken source.maxRows) rfl
    (by simp) shadows ran ranShadow calm unfired with ⟨rfl, shadowsLast⟩
  cases partShadow with
  | error fault =>
      cases fetched
      cases fetchedShadow
      exact ⟨rfl, rfl, shadowsLast⟩
  | ok part =>
      cases fetched
      cases fetchedShadow
      exact ⟨rfl, rfl, shadowsLast⟩

theorem BulkSource.download_shadows {source : BulkSource σ}
    {stream streamShadow : Except Fault FileStream}
    (uses : (Source.bulk source).Uses policy subject token)
    (shadows : world.Shadows subject.database subject.catalog false shadow)
    (downloaded : source.download environment world = (stream, last))
    (downloadedShadow : source.disturbed.download environment.disturbed shadow =
      (streamShadow, lastShadow))
    (calm : Calm policy environment.step subject.database subject.catalog none
      (lastShadow.since shadow))
    (unfired : last.isFired token = false) :
    streamShadow = stream ∧
      last.Shadows subject.database subject.catalog false lastShadow := by
  rcases uses with ⟨rfl, rfl, rfl⟩
  unfold download at downloaded downloadedShadow
  rcases ran : source.retry.run environment source.subject.scope source.token
    (fun world : World σ => world.ask (.object source.location.uri)
      (source.object source.location.uri)) world with ⟨file, reached⟩
  rcases ranShadow : source.disturbed.retry.run environment.disturbed
    source.disturbed.subject.scope source.disturbed.token
    (fun world : World (Disturbed σ) => world.ask (.object source.disturbed.location.uri)
      (source.disturbed.object source.disturbed.location.uri)) shadow with
    ⟨fileShadow, reachedShadow⟩
  rw [ran] at downloaded
  rw [ranShadow] at downloadedShadow
  cases downloaded
  cases downloadedShadow
  rcases RetryPolicy.run_shadows (.object source.location.uri) rfl (by simp) shadows ran ranShadow
    calm unfired with ⟨rfl, shadowsLast⟩
  exact ⟨rfl, shadowsLast⟩

theorem BulkSource.nextPage_disturbed (source : BulkSource σ) (stream : FileStream) :
    source.disturbed.nextPage stream =
      ((source.nextPage stream).1, (source.nextPage stream).2.disturbed) := by
  unfold nextPage
  split <;> rfl

theorem BulkSource.fetch_shadows {source after : BulkSource σ}
    {afterShadow : BulkSource (Disturbed σ)} {page pageShadow : Except Fault Page}
    {pageToken : Option String} (uses : (Source.bulk source).Uses policy subject token)
    (shadows : world.Shadows subject.database subject.catalog false shadow)
    (fetched : source.fetch environment pageToken world = (page, after, last))
    (fetchedShadow : source.disturbed.fetch environment.disturbed pageToken shadow =
      (pageShadow, afterShadow, lastShadow))
    (calm : Calm policy environment.step subject.database subject.catalog none
      (lastShadow.since shadow))
    (unfired : last.isFired token = false) :
    pageShadow = page ∧ afterShadow = after.disturbed ∧
      last.Shadows subject.database subject.catalog false lastShadow := by
  cases pageToken with
  | none =>
      rcases downloaded : source.download environment world with ⟨stream, reached⟩
      rcases downloadedShadow : source.disturbed.download environment.disturbed shadow with
        ⟨streamShadow, reachedShadow⟩
      simp only [fetch, downloaded] at fetched
      simp only [fetch, downloadedShadow] at fetchedShadow
      have ends : reached = last := by
        cases stream <;> cases fetched <;> rfl
      have endsShadow : reachedShadow = lastShadow := by
        cases streamShadow <;> cases fetchedShadow <;> rfl
      subst ends endsShadow
      rcases download_shadows uses shadows downloaded downloadedShadow calm unfired with
        ⟨rfl, shadowsLast⟩
      cases streamShadow with
      | error fault =>
          cases fetched
          cases fetchedShadow
          exact ⟨rfl, rfl, shadowsLast⟩
      | ok stream =>
          simp only [nextPage_disturbed] at fetchedShadow
          cases fetched
          cases fetchedShadow
          exact ⟨rfl, rfl, shadowsLast⟩
  | some pageToken =>
      have same : source.disturbed.stream = source.stream := rfl
      cases opened : source.stream with
      | none =>
          simp only [fetch, opened] at fetched
          simp only [fetch, same, opened] at fetchedShadow
          cases fetched
          cases fetchedShadow
          exact ⟨rfl, rfl, shadows⟩
      | some stream =>
          simp only [fetch, opened] at fetched
          simp only [fetch, same, opened, nextPage_disturbed] at fetchedShadow
          split at fetched
          · rename_i latest
            simp only [latest, if_true] at fetchedShadow
            cases fetched
            cases fetchedShadow
            exact ⟨rfl, rfl, shadows⟩
          · rename_i stale
            simp only [stale, if_false] at fetchedShadow
            cases fetched
            cases fetchedShadow
            exact ⟨rfl, rfl, shadows⟩

theorem Source.fetch_shadows {source after : Source σ} {afterShadow : Source (Disturbed σ)}
    {page pageShadow : Except Fault Page} {pageToken : Option String}
    (uses : source.Uses policy subject token)
    (shadows : world.Shadows subject.database subject.catalog false shadow)
    (fetched : source.fetch environment pageToken world = (page, after, last))
    (fetchedShadow : source.disturbed.fetch environment.disturbed pageToken shadow =
      (pageShadow, afterShadow, lastShadow))
    (calm : Calm policy environment.step subject.database subject.catalog none
      (lastShadow.since shadow))
    (unfired : last.isFired token = false) :
    pageShadow = page ∧ afterShadow = after.disturbed ∧
      last.Shadows subject.database subject.catalog false lastShadow := by
  cases source with
  | direct source =>
      cases fetched
      cases fetchedShadow
      rcases DirectSource.fetch_shadows uses shadows rfl rfl calm unfired with
        ⟨samePage, sameSource, shadowsLast⟩
      exact ⟨samePage, congrArg Source.direct sameSource, shadowsLast⟩
  | bulk source =>
      cases fetched
      cases fetchedShadow
      rcases BulkSource.fetch_shadows uses shadows rfl rfl calm unfired with
        ⟨samePage, sameSource, shadowsLast⟩
      exact ⟨samePage, congrArg Source.bulk sameSource, shadowsLast⟩

theorem Pager.next_shadows {pager after : Pager σ} {afterShadow : Pager (Disturbed σ)}
    {page? pageShadow? : Except Fault (Option Page)}
    (uses : pager.source.Uses policy subject token)
    (shadows : world.Shadows subject.database subject.catalog false shadow)
    (stepped : pager.next environment world = (page?, after, last))
    (steppedShadow : pager.disturbed.next environment.disturbed shadow =
      (pageShadow?, afterShadow, lastShadow))
    (calm : Calm policy environment.step subject.database subject.catalog none
      (lastShadow.since shadow))
    (unfired : last.isFired token = false) :
    pageShadow? = page? ∧ afterShadow = after.disturbed ∧
      last.Shadows subject.database subject.catalog false lastShadow := by
  cases exhausted : pager.exhausted with
  | true =>
      have exhaustedShadow : pager.disturbed.exhausted = true := exhausted
      simp only [next, exhausted, if_true] at stepped
      simp only [next, exhaustedShadow, if_true] at steppedShadow
      cases stepped
      cases steppedShadow
      exact ⟨rfl, rfl, shadows⟩
  | false =>
      have exhaustedShadow : pager.disturbed.exhausted = false := exhausted
      rcases fetched : pager.source.fetch environment pager.pageToken world with
        ⟨page, source, reached⟩
      rcases fetchedShadow : pager.disturbed.source.fetch environment.disturbed
        pager.disturbed.pageToken shadow with ⟨pageShadow, sourceShadow, reachedShadow⟩
      simp only [next, exhausted, fetched, Bool.false_eq_true, if_false] at stepped
      simp only [next, exhaustedShadow, fetchedShadow, Bool.false_eq_true, if_false]
        at steppedShadow
      have ends : reached = last := by
        cases page <;> cases stepped <;> rfl
      have endsShadow : reachedShadow = lastShadow := by
        cases pageShadow <;> cases steppedShadow <;> rfl
      subst ends endsShadow
      rcases Source.fetch_shadows uses shadows fetched fetchedShadow calm unfired with
        ⟨rfl, rfl, shadowsLast⟩
      cases pageShadow with
      | error fault =>
          cases stepped
          cases steppedShadow
          exact ⟨rfl, rfl, shadowsLast⟩
      | ok page =>
          cases stepped
          cases steppedShadow
          exact ⟨rfl, rfl, shadowsLast⟩

end RemoteQuery
