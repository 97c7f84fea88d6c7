import RemoteQuery.Proofs.Results.Walk
import RemoteQuery.Proofs.Retry.Attempts
import RemoteQuery.Results.Pager

/-! # Behind a failure in a result file

A file that cannot be read to its end has nothing behind the failure. A walk in which no
page has been handed out begins again, and fails again. A walk behind a page goes on with
what is left of the file, which is an empty page like the one behind the last row.
-/

namespace RemoteQuery

open ResultFile (Batch)

variable {σ α : Type}

namespace RetryPolicy

variable {environment : Environment σ} {policy : RetryPolicy} {scope : Scope} {token : Token}
  {attempt : World σ → Outcome α × World σ}

theorem Attempted.fault {started : Calendar.Duration} {failures : Nat} {world last : World σ}
    {fault : Fault}
    (attempted : Attempted environment policy scope token attempt started failures world
      (.error fault) last) :
    (∃ message, fault = .terminal scope.queryId message) ∨ fault.isUntimely = true := by
  generalize same : (.error fault : Except Fault α) = result at attempted
  induction attempted with
  | succeeded => cases same
  | refused =>
      cases same
      exact .inl ⟨_, rfl⟩
  | exhausted =>
      cases same
      rw [surrender]
      split
      · exact .inr rfl
      · exact .inl ⟨_, rfl⟩
  | interrupted =>
      cases same
      exact .inr rfl
  | again _ _ _ _ _ induction => exact induction same

theorem Attempted.value {started : Calendar.Duration} {failures : Nat} {world last : World σ}
    {value : α}
    (attempted : Attempted environment policy scope token attempt started failures world
      (.ok value) last) :
    ∃ before after, attempt before = (.ok value, after) := by
  generalize same : (.ok value : Except Fault α) = result at attempted
  induction attempted with
  | succeeded made =>
      cases same
      exact ⟨_, _, made⟩
  | refused | exhausted | interrupted => cases same
  | again _ _ _ _ _ induction => exact induction same

/-- A call that is made again never fails as a result file does. -/
theorem ne_resultFile_of_run {world last : World σ} {fault : Fault}
    (failed : policy.run environment scope token attempt world = (.error fault, last))
    (message : String) : fault ≠ .resultFile message := by
  have attempted := run_attempted environment policy scope token attempt world
  rw [failed] at attempted
  rintro rfl
  rcases attempted.fault with ⟨_, same⟩ | same <;> cases same

theorem exists_outcome_of_run {call : Call} {next : σ → Answer (Outcome call.Response) × σ}
    {world reached : World σ} {value : call.Response}
    (ran : policy.run environment scope token (·.ask call next) world = (.ok value, reached)) :
    ∃ outside, (next outside).1.outcome = .ok value := by
  have attempted := run_attempted environment policy scope token (·.ask call next) world
  rw [ran] at attempted
  rcases attempted.value with ⟨before, after, made⟩
  exact ⟨before.outside, congrArg Prod.fst made⟩

end RetryPolicy

/-! ## Sound files -/

/-- There is nothing behind a failure. -/
def FileStream.Sound (stream : FileStream) : Prop :=
  ∀ fault rest, .error fault :: rest <:+ stream.toCome → rest = []

theorem FileStream.Sound.rest_eq_nil {stream : FileStream} (sound : stream.Sound) {fault : Fault}
    {rest : List Batch} (coming : stream.toCome = .error fault :: rest) : rest = [] :=
  sound fault rest (coming ▸ List.suffix_rfl)

namespace BulkSource

def Sound (source : BulkSource σ) : Prop :=
  ∀ stream, source.stream = some stream → stream.Sound

def SameFile (source other : BulkSource σ) : Prop :=
  { source with stream := none } = { other with stream := none }

section

variable {environment : Environment σ} {source after : BulkSource σ} {stream : FileStream}
  {pageToken : Option String} {world reached : World σ} {answer : Except Fault Page}
  {message : String}

theorem opened_sound (positive : 0 < source.pageSize) (download : Download) :
    (source.opened download).Sound := by
  intro fault rest behind
  rcases behind with ⟨before, fails⟩
  unfold FileStream.toCome opened ResultFile.batches at fails
  split at fails
  · exact (ResultFile.Batched.behind_error
      (@ResultFile.batched_batchesFrom _ _ _ [] positive) fails.symm).1
  · simp at fails

theorem SameFile.congr {β : Sort*} {other : BulkSource σ} (same : source.SameFile other)
    (read : BulkSource σ → β)
    (blind : ∀ source : BulkSource σ, read { source with stream := none } = read source) :
    read source = read other := by
  unfold SameFile at same
  rw [← blind source, ← blind other, same]

theorem SameFile.pageSize_eq {other : BulkSource σ} (same : source.SameFile other) :
    source.pageSize = other.pageSize :=
  same.congr BulkSource.pageSize fun _ => rfl

theorem fetch_cases (fetched : source.fetch environment pageToken world =
      (answer, after, reached)) :
    (∃ fault, answer = .error fault ∧ after = source ∧ ∀ message, fault ≠ .resultFile message) ∨
    ∃ stream, source.nextPage stream = (answer, after) ∧
      ((pageToken = none ∧ ∃ download, stream = source.opened download ∧
          source.askFile environment world = (.ok download, reached)) ∨
        source.stream = some stream ∧ pageToken = some stream.pageToken) := by
  cases pageToken with
  | none =>
      rcases asked : source.askFile environment world with ⟨fault | download, settled⟩
      · rw [fetch_none_of_error asked] at fetched
        cases fetched
        exact .inl ⟨fault, rfl, rfl, RetryPolicy.ne_resultFile_of_run asked⟩
      · rw [fetch_none asked] at fetched
        cases fetched
        exact .inr ⟨_, rfl, .inl ⟨rfl, download, rfl, rfl⟩⟩
  | some pageToken =>
      by_cases latest : source.stream.map (·.pageToken) = some pageToken
      · rcases Option.map_eq_some_iff.mp latest with ⟨stream, isOpen, rfl⟩
        rw [fetch_latest isOpen] at fetched
        cases fetched
        exact .inr ⟨stream, rfl, .inr ⟨isOpen, rfl⟩⟩
      · rw [fetch_stale latest] at fetched
        cases fetched
        exact .inl ⟨_, rfl, rfl, fun _ => Fault.noConfusion⟩

theorem nextPage_sameFile (source : BulkSource σ) (stream : FileStream) :
    (source.nextPage stream).2.SameFile source := by
  cases coming : stream.toCome with
  | nil => rw [nextPage_of_nothing source coming]; rfl
  | cons batch rest =>
      cases batch with
      | ok rows => rw [nextPage_of_rows source coming]; rfl
      | error fault => rw [nextPage_of_error source coming]; rfl

theorem nextPage_sound (source : BulkSource σ) (sound : stream.Sound) :
    (source.nextPage stream).2.Sound := by
  intro next isOpen fault rest behind
  refine sound fault rest (behind.trans ?_)
  cases coming : stream.toCome with
  | nil =>
      rw [nextPage_of_nothing source coming] at isOpen
      cases isOpen
  | cons batch later =>
      cases batch with
      | ok rows =>
          rw [nextPage_of_rows source coming] at isOpen
          cases isOpen
          cases later <;> exact List.suffix_cons _ _
      | error fault =>
          rw [nextPage_of_error source coming] at isOpen
          cases isOpen
          exact List.suffix_cons _ _

theorem fetch_sameFile (fetched : source.fetch environment pageToken world =
      (answer, after, reached)) : after.SameFile source := by
  rcases fetch_cases fetched with ⟨fault, -, rfl, -⟩ | ⟨stream, turned, -⟩
  · rfl
  · have same := source.nextPage_sameFile stream
    rwa [turned] at same

theorem fetch_sound (positive : 0 < source.pageSize) (sound : source.Sound)
    (fetched : source.fetch environment pageToken world = (answer, after, reached)) :
    after.Sound ∧ after.SameFile source := by
  refine ⟨?_, fetch_sameFile fetched⟩
  rcases fetch_cases fetched with ⟨fault, -, rfl, -⟩ | ⟨stream, turned, which⟩
  · exact sound
  · have soundNext : stream.Sound := by
      rcases which with ⟨-, download, rfl, -⟩ | ⟨isOpen, -⟩
      · exact opened_sound positive download
      · exact sound stream isOpen
    have soundAfter := source.nextPage_sound soundNext
    rwa [turned] at soundAfter

theorem stream_of_failed (positive : 0 < source.pageSize) (sound : source.Sound)
    (failed : source.fetch environment pageToken world =
      (.error (.resultFile message), after, reached)) :
    ∃ stream, after.stream = some stream ∧ stream.toCome = [] ∧
      stream.pageToken = pageToken.getD (Number.text 0) := by
  rcases fetch_cases failed with ⟨fault, same, -, other⟩ | ⟨stream, turned, which⟩
  · cases same
    exact absurd rfl (other message)
  · cases coming : stream.toCome with
    | nil =>
        rw [nextPage_of_nothing source coming] at turned
        cases turned
    | cons batch rest =>
        cases batch with
        | ok rows =>
            rw [nextPage_of_rows source coming] at turned
            cases turned
        | error fault =>
            rw [nextPage_of_error source coming] at turned
            cases turned
            refine ⟨_, rfl, ?_, ?_⟩
            · rcases which with ⟨-, download, rfl, -⟩ | ⟨isOpen, -⟩
              · exact (opened_sound positive download).rest_eq_nil coming
              · exact (sound stream isOpen).rest_eq_nil coming
            · rcases which with ⟨rfl, download, rfl, -⟩ | ⟨isOpen, rfl⟩ <;> rfl

/-- Behind a failure the token that was asked for names an empty last page, and no other
token names a page. -/
theorem fetch_of_emptied (environment : Environment σ) (world : World σ)
    (isOpen : source.stream = some stream) (emptied : stream.toCome = []) (token : String) :
    source.fetch environment (some token) world =
      if token = stream.pageToken then
        (.ok (.of source.columns [] none none), { source with stream := none }, world)
      else
        (.error (.usage (notLatestMessage source.subject.queryId)), source, world) := by
  split
  · rename_i latest
    rw [latest, fetch_latest isOpen, nextPage_of_nothing source emptied]
  · rename_i stale
    refine fetch_stale ?_
    rw [isOpen, Option.map_some]
    exact fun same => stale (Option.some.inj same).symm

/-- Every file of the store has a failure in front of its first full page. -/
def NeverFills (source : BulkSource σ) : Prop :=
  ∀ outside download, (source.object source.location.uri outside).1.outcome = .ok download →
    (ResultFile.read source.location.format download).failure.isSome ∧
    (ResultFile.read source.location.format download).rows.length < source.pageSize

theorem outcome_of_askFile {download : Download}
    (asked : source.askFile environment world = (.ok download, reached)) :
    ∃ outside, (source.object source.location.uri outside).1.outcome = .ok download :=
  RetryPolicy.exists_outcome_of_run asked

theorem opened_toCome_of_neverFills (never : source.NeverFills)
    (room : ResultFile.hasRoom source.pageSize = true) {download : Download}
    (asked : source.askFile environment world = (.ok download, reached)) :
    ∃ fault, (source.opened download).toCome = [.error fault] := by
  rcases outcome_of_askFile asked with ⟨outside, outcome⟩
  rcases never outside download outcome with ⟨broken, few⟩
  have batched := ResultFile.batched_batches source.location.format download
    (Nat.zero_lt_of_lt few) room
  rcases Option.isSome_iff_exists.mp broken with ⟨message, broken⟩
  rw [broken] at batched
  change ∃ fault, ResultFile.batches source.location.format source.pageSize download =
    [.error fault]
  generalize (ResultFile.read source.location.format download).rows = rows at batched few
  generalize ResultFile.batches source.location.format source.pageSize download = batches
    at batched ⊢
  cases batched with
  | full filled behind =>
      rw [List.length_append] at few
      omega
  | broken => exact ⟨_, rfl⟩
  | rest _ _ whole => cases whole
  | done whole => cases whole

theorem fetch_none_of_neverFills (never : source.NeverFills)
    (room : ResultFile.hasRoom source.pageSize = true)
    (fetched : source.fetch environment none world = (answer, after, reached)) :
    ∃ fault, answer = .error fault := by
  rcases fetch_cases fetched with ⟨fault, rfl, -⟩ | ⟨stream, turned, which⟩
  · exact ⟨fault, rfl⟩
  · rcases which with ⟨-, download, rfl, asked⟩ | ⟨-, other⟩
    · rcases opened_toCome_of_neverFills never room asked with ⟨fault, coming⟩
      rw [nextPage_of_error source coming] at turned
      cases turned
      exact ⟨fault, rfl⟩
    · cases other

theorem hasRoom_of_failed (failed : source.fetch environment none world =
      (.error (.resultFile message), after, reached)) :
    ResultFile.hasRoom source.pageSize = true := by
  rcases fetch_cases failed with ⟨fault, same, -, other⟩ | ⟨stream, turned, which⟩
  · cases same
    exact absurd rfl (other message)
  · rcases which with ⟨-, download, rfl, -⟩ | ⟨-, other⟩
    · by_contra noRoom
      have coming : (source.opened download).toCome = [] := by
        rw [FileStream.toCome, opened, ResultFile.batches, if_neg noRoom]
        rfl
      rw [nextPage_of_nothing source coming] at turned
      cases turned
    · cases other

end

end BulkSource

/-! ## Walks behind a failure -/

namespace Pager

/-- Walks that begin with a fresh one: pages are asked for, and the walk is begun again.
Whatever happens in the world between two requests. -/
inductive History (environment : Environment σ) (fresh : Pager σ) : Pager σ → Prop
  | fresh : History environment fresh fresh
  | asked {pager after : Pager σ} {world reached : World σ}
      {answer : Except Fault (Option Page)} (history : History environment fresh pager)
      (asked : pager.next environment world = (answer, after, reached)) :
      History environment fresh after
  | restarted {pager : Pager σ} (history : History environment fresh pager) :
      History environment fresh pager.restart

inductive Asks (environment : Environment σ) :
    Pager σ → List (Except Fault (Option Page)) → Pager σ → Prop
  | nothing {pager : Pager σ} : Asks environment pager [] pager
  | next {pager middle last : Pager σ} {world reached : World σ}
      {answer : Except Fault (Option Page)} {later : List (Except Fault (Option Page))}
      (asked : pager.next environment world = (answer, middle, reached))
      (rest : Asks environment middle later last) :
      Asks environment pager (answer :: later) last

variable {environment : Environment σ} {pager after last : Pager σ} {world reached : World σ}
  {answers : List (Except Fault (Option Page))}

theorem next_cases {source : BulkSource σ} {answer : Except Fault (Option Page)}
    (atSource : pager.source = .bulk source) (goesOn : pager.exhausted = false)
    (asked : pager.next environment world = (answer, after, reached)) :
    ∃ fetched next, source.fetch environment pager.pageToken world = (fetched, next, reached) ∧
      after.source = .bulk next ∧
      ((∃ page, fetched = .ok page ∧ answer = .ok (some page) ∧
          after.pageToken = page.nextToken ∧ after.exhausted = page.isLast) ∨
        ∃ fault, fetched = .error fault ∧ answer = .error fault ∧
          after.pageToken = pager.pageToken ∧ after.exhausted = false) := by
  rw [next, goesOn, if_neg Bool.false_ne_true, atSource, Source.fetch] at asked
  rcases fetched : source.fetch environment pager.pageToken world with
    ⟨fault | page, next, settled⟩
  · rw [fetched] at asked
    cases asked
    exact ⟨_, next, rfl, rfl, .inr ⟨fault, rfl, rfl, rfl, rfl⟩⟩
  · rw [fetched] at asked
    cases asked
    exact ⟨_, next, rfl, rfl, .inl ⟨page, rfl, rfl, rfl, rfl⟩⟩

theorem next_of_exhausted (ended : pager.exhausted = true) :
    pager.next environment world = (.ok none, pager, world) := by
  rw [next, if_pos ended]

theorem History.sound {source : BulkSource σ} (positive : 0 < source.pageSize)
    (closed : source.stream = none)
    (history : History environment { source := .bulk source } pager) :
    ∃ current, pager.source = .bulk current ∧ current.Sound ∧ current.SameFile source := by
  induction history with
  | fresh =>
      refine ⟨source, rfl, ?_, rfl⟩
      intro stream isOpen
      cases closed.symm.trans isOpen
  | @asked pager after world reached answer history asked induction =>
      rcases induction with ⟨current, atSource, sound, same⟩
      cases ended : pager.exhausted with
      | true =>
          rw [next_of_exhausted ended] at asked
          cases asked
          exact ⟨current, atSource, sound, same⟩
      | false =>
          rcases next_cases atSource ended asked with ⟨fetched, next, fetches, atNext, -⟩
          have positive : 0 < current.pageSize := same.pageSize_eq ▸ positive
          rcases BulkSource.fetch_sound positive sound fetches with ⟨soundNext, sameNext⟩
          exact ⟨next, atNext, soundNext, sameNext.trans same⟩
  | restarted history induction => exact induction

theorem Asks.of_exhausted (ended : pager.exhausted = true)
    (asks : Asks environment pager answers last) :
    answers = List.replicate answers.length (.ok none) ∧ last.exhausted = true := by
  induction asks with
  | nothing => exact ⟨rfl, ended⟩
  | next asked rest induction =>
      rw [next_of_exhausted ended] at asked
      cases asked
      rcases induction ended with ⟨same, lastEnded⟩
      exact ⟨congrArg (_ :: ·) same, lastEnded⟩

theorem Asks.of_neverFills {source : BulkSource σ} (atSource : pager.source = .bulk source)
    (goesOn : pager.exhausted = false) (atStart : pager.pageToken = none)
    (never : source.NeverFills) (room : ResultFile.hasRoom source.pageSize = true)
    (positive : 0 < source.pageSize) (sound : source.Sound)
    (asks : Asks environment pager answers last) :
    last.exhausted = false ∧ ∀ answer ∈ answers, ∃ fault, answer = .error fault := by
  induction asks generalizing source with
  | nothing => exact ⟨goesOn, fun answer none => nomatch none⟩
  | @next pager middle last world reached answer later asked rest induction =>
      rcases next_cases atSource goesOn asked with ⟨fetched, next, fetches, atNext, which⟩
      rw [atStart] at fetches
      rcases BulkSource.fetch_none_of_neverFills never room fetches with ⟨fault, rfl⟩
      rcases BulkSource.fetch_sound positive sound fetches with ⟨soundNext, same⟩
      rcases which with ⟨page, isPage, -⟩ | ⟨fault, -, rfl, sameToken, notEnded⟩
      · cases isPage
      · rcases induction atNext notEnded (sameToken.trans atStart)
            ((same.congr BulkSource.NeverFills fun _ => rfl) ▸ never) (same.pageSize_eq ▸ room)
            (same.pageSize_eq ▸ positive) soundNext with ⟨lastGoesOn, laterFail⟩
        refine ⟨lastGoesOn, fun answer member => ?_⟩
        rcases List.mem_cons.mp member with rfl | member
        · exact ⟨fault, rfl⟩
        · exact laterFail answer member

/-- The empty page that a source hands out behind the last batch of its file. -/
def emptyPage (source : BulkSource σ) : Page :=
  .of source.columns [] none none

/-- A walk through a file has come to a failure of the file. If a page was handed out before,
then the next page is an empty one and the walk has ended. If none was, then the walk begins
again and fails again, as long as no file fills a page. Its source has an empty page for the
token that was asked for, and none for any other token. -/
theorem History.behindFailure {source : BulkSource σ} (positive : 0 < source.pageSize)
    (closed : source.stream = none)
    (history : History environment { source := .bulk source } pager) {message : String}
    (failed : pager.next environment world = (.error (.resultFile message), after, reached)) :
    (pager.pageToken.isSome → ∀ answers last, Asks environment after answers last →
      answers ≠ [] →
        answers = .ok (some (emptyPage source)) :: List.replicate (answers.length - 1) (.ok none) ∧
          last.exhausted = true) ∧
    (pager.pageToken = none → source.NeverFills →
      ∀ answers last, Asks environment after answers last →
        last.exhausted = false ∧ ∀ answer ∈ answers, ∃ fault, answer = .error fault) ∧
    ∃ behind, after.source = .bulk behind ∧ ∀ token world,
      behind.fetch environment (some token) world =
        if token = pager.pageToken.getD (Number.text 0) then
          (.ok (emptyPage source), { behind with stream := none }, world)
        else
          (.error (.usage (BulkSource.notLatestMessage source.subject.queryId)), behind,
            world) := by
  rcases history.sound positive closed with ⟨current, atSource, sound, same⟩
  have goesOn : pager.exhausted = false := by
    cases ended : pager.exhausted with
    | false => rfl
    | true => cases (next_of_exhausted ended).symm.trans failed
  rcases next_cases atSource goesOn failed with ⟨fetched, behind, fetches, atBehind, which⟩
  rcases which with ⟨page, -, wrong, -⟩ | ⟨fault, rfl, isFault, sameToken, notEnded⟩
  · cases wrong
  cases isFault
  have positive : 0 < current.pageSize := same.pageSize_eq ▸ positive
  rcases BulkSource.fetch_sound positive sound fetches with ⟨soundBehind, sameBehind⟩
  have sameFile : behind.SameFile source := sameBehind.trans same
  rcases BulkSource.stream_of_failed positive sound fetches with
    ⟨stream, isOpen, emptied, latest⟩
  have behindFetch (token : String) (world : World σ) :
      behind.fetch environment (some token) world =
        if token = pager.pageToken.getD (Number.text 0) then
          (.ok (emptyPage source), { behind with stream := none }, world)
        else
          (.error (.usage (BulkSource.notLatestMessage source.subject.queryId)), behind,
            world) := by
    rw [BulkSource.fetch_of_emptied environment world isOpen emptied, latest, emptyPage,
      sameFile.congr BulkSource.columns fun _ => rfl,
      sameFile.congr BulkSource.subject fun _ => rfl]
  refine ⟨?_, ?_, behind, atBehind, behindFetch⟩
  · intro handedOut answers last asks something
    rcases Option.isSome_iff_exists.mp handedOut with ⟨token, isToken⟩
    cases asks with
    | nothing => exact absurd rfl something
    | next asked rest =>
        rcases next_cases atBehind notEnded asked with ⟨answer, next, nextFetches, -, which⟩
        rw [sameToken, isToken, behindFetch, if_pos (by rw [isToken]; rfl)] at nextFetches
        cases nextFetches
        rcases which with ⟨page, isPage, rfl, -, ended⟩ | ⟨fault, wrong, -⟩
        · cases isPage
          rcases Asks.of_exhausted ended rest with ⟨nothingMore, lastEnded⟩
          exact ⟨congrArg (_ :: ·) nothingMore, lastEnded⟩
        · cases wrong
  · intro atStart never answers last asks
    rw [atStart] at fetches
    have room := BulkSource.hasRoom_of_failed fetches
    exact Asks.of_neverFills atBehind notEnded (sameToken.trans atStart)
      ((sameFile.congr BulkSource.NeverFills fun _ => rfl) ▸ never) (sameBehind.pageSize_eq ▸ room)
      (sameBehind.pageSize_eq ▸ positive) soundBehind asks

/-! ### A failure behind the first page -/

/-- A file of one row that breaks off behind it. -/
def brokenFile : World Rehearsal.Script :=
  fileWorld [[97, 10]] (some "connection lost")

def brokenWalk : Pager Rehearsal.Script :=
  (next (Rehearsal.environment true default) { source := .bulk (fileSource 1) } brokenFile).2.1

/-- The second page of the walk is a failure, and behind it the walk ends. -/
theorem behindFailure_secondPage :
    ∃ failed : Pager Rehearsal.Script,
      brokenWalk.next (Rehearsal.environment true default) brokenFile =
        (.error (.resultFile "connection lost"), failed, brokenFile) ∧
      ∀ answers last, Asks (Rehearsal.environment true default) failed answers last →
        answers ≠ [] →
          answers = .ok (some (emptyPage (fileSource 1))) ::
            List.replicate (answers.length - 1) (.ok none) ∧
          last.exhausted = true := by
  have first : next (Rehearsal.environment true default) { source := .bulk (fileSource 1) }
      brokenFile = (.ok (some _), brokenWalk, _) := rfl
  have failed : brokenWalk.next (Rehearsal.environment true default) brokenFile =
      (.error (.resultFile "connection lost"), _, brokenFile) := rfl
  exact ⟨_, failed, (History.behindFailure Nat.one_pos rfl (.asked .fresh first) failed).1 rfl⟩

/-- A walk that has come to a failure of its file hands out another page and has ended. -/
theorem emptyPage_behindFailure :
    ∃ failed last : Pager Rehearsal.Script,
      brokenWalk.next (Rehearsal.environment true default) brokenFile =
        (.error (.resultFile "connection lost"), failed, brokenFile) ∧
      failed.next (Rehearsal.environment true default) brokenFile =
        (.ok (some (emptyPage (fileSource 1))), last, brokenFile) ∧
      last.exhausted = true :=
  ⟨_, _, rfl, rfl, rfl⟩

end Pager

end RemoteQuery
