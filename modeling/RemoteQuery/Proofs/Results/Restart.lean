import RemoteQuery.Proofs.Cursor.Rows
import RemoteQuery.Proofs.Results.Passage

/-! # Walks that are begun again

A service that answers the same each time, and a store that has the same file each time, make a
walk that is begun again come to the pages of a fresh walk, whatever has been asked of it before.
-/

namespace RemoteQuery

variable {σ α : Type}

/-! ## Calls that come out the same each time -/

inductive Recurs (alike : α → α → Prop) : Outcome α → Outcome α → Prop
  | failure (error : ServiceError) : Recurs alike (.error error) (.error error)
  | value {value again : α} (same : alike value again) : Recurs alike (.ok value) (.ok again)

theorem Recurs.unique {call again : Outcome α} {value valueAgain : α} (recurs : Recurs Eq call again)
    (brought : call = .ok value) (broughtAgain : again = .ok valueAgain) : value = valueAgain := by
  subst brought broughtAgain
  cases recurs with
  | value same => exact same

namespace RetryPolicy

variable {environment : Environment σ} {policy : RetryPolicy} {scope : Scope} {token : Token}

def refusal (scope : Scope) (error : ServiceError) : Fault :=
  .terminal scope.queryId
    (if error.isRetryable scope.database scope.catalog then exhaustedMessage error.message
      else error.message)

theorem Attempted.refusal {attempt : World σ → Outcome α × World σ} {error : ServiceError}
    {started : Calendar.Duration} {failures : Nat} {world last : World σ}
    {result : Except Fault α}
    (attempted : Attempted environment policy scope token attempt started failures world result
      last)
    (refused : ∀ world, (attempt world).1 = .error error) :
    ∃ fault, result = .error fault ∧
      (fault.isUntimely = false → fault = RetryPolicy.refusal scope error) := by
  have same {world reached : World σ} {outcome : Outcome α}
      (made : attempt world = (outcome, reached)) : outcome = .error error := by
    rw [← refused world, made]
  induction attempted with
  | succeeded made => cases same made
  | refused made final =>
      cases same made
      exact ⟨_, rfl, fun _ => by rw [RetryPolicy.refusal, final, if_neg Bool.false_ne_true]⟩
  | exhausted made retryable spent =>
      cases same made
      refine ⟨_, rfl, fun timely => ?_⟩
      rw [RetryPolicy.refusal, retryable, if_pos rfl]
      rw [surrender] at timely ⊢
      split at timely
      · cases timely
      · rw [if_neg ‹_›]
  | interrupted made retryable allowed waited =>
      refine ⟨_, rfl, fun timely => ?_⟩
      cases timely
  | again made retryable allowed waited rest induction => exact induction

variable {call : Call} {next : σ → Answer (Outcome call.Response) × σ}

/-- The same comes of two retried calls, or both are given up: for the same reason, unless the
end is asked for meanwhile. -/
theorem run_recurs (environment : Environment σ) (policy : RetryPolicy) (scope : Scope)
    (token : Token) (call : Call) {next : σ → Answer (Outcome call.Response) × σ}
    {alike : call.Response → call.Response → Prop}
    (recurs : ∀ outside again, Recurs alike (next outside).1.outcome (next again).1.outcome)
    (world other : World σ) :
    (∃ value valueAgain reached again, alike value valueAgain ∧
      policy.run environment scope token (·.ask call next) world = (.ok value, reached) ∧
      policy.run environment scope token (·.ask call next) other = (.ok valueAgain, again)) ∨
    ∃ fault faultAgain reached again,
      (fault.isUntimely = false → faultAgain.isUntimely = false → faultAgain = fault) ∧
      policy.run environment scope token (·.ask call next) world = (.error fault, reached) ∧
      policy.run environment scope token (·.ask call next) other = (.error faultAgain, again) := by
  cases outcome : (next world.outside).1.outcome with
  | ok value =>
      have answered (outside : σ) : ∃ value, (next outside).1.outcome = .ok value ∧
          ∃ again, (next again).1.outcome = .ok value := by
        have comes := recurs world.outside outside
        generalize again : (next outside).1.outcome = brought at comes
        rw [outcome] at comes
        cases comes
        exact ⟨_, rfl, outside, again⟩
      rcases run_of_answered environment policy scope token call world answered with
        ⟨value, reached, ran, outside, brings⟩
      rcases run_of_answered environment policy scope token call other answered with
        ⟨valueAgain, again, ranAgain, outsideAgain, bringsAgain⟩
      have comes := recurs outside outsideAgain
      rw [brings, bringsAgain] at comes
      cases comes with
      | value same => exact .inl ⟨value, valueAgain, reached, again, same, ran, ranAgain⟩
  | error error =>
      have refused (outside : σ) : (next outside).1.outcome = .error error := by
        have comes := recurs world.outside outside
        generalize (next outside).1.outcome = brought at comes
        rw [outcome] at comes
        cases comes
        rfl
      have fails (world : World σ) :=
        (run_attempted environment policy scope token (·.ask call next) world).refusal
          fun world => refused world.outside
      rcases fails world with ⟨fault, failed, which⟩
      rcases fails other with ⟨faultAgain, failedAgain, whichAgain⟩
      exact .inr ⟨fault, faultAgain, _, _,
        fun goesOn goesOnAgain => (whichAgain goesOnAgain).trans (which goesOn).symm,
        Prod.ext failed rfl, Prod.ext failedAgain rfl⟩

end RetryPolicy

/-! ## The same file -/

namespace ResultFile

/-- Two downloads of one file, each in pieces of its own. A byte order mark at the start comes in
one piece in both of them or in none, and is a piece of its own in both or in none. -/
structure SameObject (download again : Download) : Prop where
  bytes : download.pieces.flatten = again.pieces.flatten
  failure : download.failure = again.failure
  mark : MarkUncut download.pieces ↔ MarkUncut again.pieces
  alone : MarkAlone download.pieces ↔ MarkAlone again.pieces

theorem SameObject.contents_eq {download again : Download} (same : SameObject download again) :
    contents download = contents again := by
  by_cases alone : MarkAlone download.pieces
  · rw [contents_of_markAlone alone, contents_of_markAlone (same.alone.mp alone)]
  · have aloneToo : ¬MarkAlone again.pieces := alone ∘ same.alone.mpr
    by_cases uncut : MarkUncut download.pieces
    · rw [contents_of_markUncut uncut alone, contents_of_markUncut (same.mark.mp uncut) aloneToo,
        same.bytes, same.failure]
    · rw [contents_of_markCut uncut, contents_of_markCut (uncut ∘ same.mark.mpr), same.bytes,
        same.failure]

theorem SameObject.batches_eq {download again : Download} (same : SameObject download again)
    (format : FileFormat) (size : Nat) : batches format size download = batches format size again := by
  rw [batches, batches, read, read, same.contents_eq]

end ResultFile

/-! ## Sources that answer the same each time -/

/-- The same has come of a request both times, but that the end may have been asked for. -/
inductive Source.Repeats :
    Except Fault Page × Source σ × World σ → Except Fault Page × Source σ × World σ → Prop
  | page {page : Page} {after : Source σ} {reached again : World σ} :
      Repeats (.ok page, after, reached) (.ok page, after, again)
  | fault {fault faultAgain : Fault} {after afterAgain : Source σ} {reached again : World σ}
      (same : fault.isUntimely = false → faultAgain.isUntimely = false → faultAgain = fault) :
      Repeats (.error fault, after, reached) (.error faultAgain, afterAgain, again)

theorem Source.Repeats.of_same (answer : Except Fault Page) (after : Source σ)
    (reached again : World σ) : Repeats (answer, after, reached) (answer, after, again) := by
  cases answer with
  | error fault => exact .fault fun _ _ => rfl
  | ok page => exact .page

/-- What the service answers depends on nothing but the continuation token, and the store has the
same file each time. -/
def Source.Steady (environment : Environment σ) : Source σ → Prop
  | .direct source => ∀ token outside again, Recurs Eq
      (environment.results source.subject.queryId token source.maxRows outside).1.outcome
      (environment.results source.subject.queryId token source.maxRows again).1.outcome
  | .bulk source => ∀ outside again, Recurs ResultFile.SameObject
      (source.object source.location.uri outside).1.outcome
      (source.object source.location.uri again).1.outcome

section

variable {environment : Environment σ} {world other reached : World σ}

theorem Source.fetch_repeats {source : Source σ} (steady : source.Steady environment)
    (token : Option String) (world other : World σ) :
    Repeats (source.fetch environment token world) (source.fetch environment token other) := by
  cases source with
  | direct source =>
      rcases source.retry.run_recurs environment source.subject.scope source.token
        (.results source.subject.queryId token source.maxRows) (steady token) world other with
        ⟨part, _, reached, again, rfl, asked, askedAgain⟩ |
        ⟨fault, faultAgain, reached, again, same, asked, askedAgain⟩
      · rw [DirectSource.fetch_of_part asked, DirectSource.fetch_of_part askedAgain]
        exact .page
      · rw [DirectSource.fetch_of_fault asked, DirectSource.fetch_of_fault askedAgain]
        exact .fault same
  | bulk source =>
      simp only [fetch]
      cases token with
      | some token =>
          by_cases latest : source.stream.map (·.pageToken) = some token
          · rcases Option.map_eq_some_iff.mp latest with ⟨stream, isOpen, rfl⟩
            rw [BulkSource.fetch_latest isOpen, BulkSource.fetch_latest isOpen]
            exact .of_same _ _ _ _
          · rw [BulkSource.fetch_stale latest, BulkSource.fetch_stale latest]
            exact .of_same _ _ _ _
      | none =>
          rcases source.retry.run_recurs environment source.subject.scope source.token
            (.object source.location.uri) steady world other with
            ⟨download, downloadAgain, reached, again, same, asked, askedAgain⟩ |
            ⟨fault, faultAgain, reached, again, same, asked, askedAgain⟩
          · have asked : source.askFile environment world = (.ok download, reached) := asked
            have askedAgain : source.askFile environment other = (.ok downloadAgain, again) :=
              askedAgain
            have opens : source.opened downloadAgain = source.opened download := by
              rw [BulkSource.opened, BulkSource.opened, same.batches_eq]
            rw [BulkSource.fetch_none asked, BulkSource.fetch_none askedAgain, opens]
            exact .of_same _ _ _ _
          · have asked : source.askFile environment world = (.error fault, reached) := asked
            have askedAgain : source.askFile environment other = (.error faultAgain, again) :=
              askedAgain
            rw [BulkSource.fetch_none_of_error asked, BulkSource.fetch_none_of_error askedAgain]
            exact .fault same

theorem DirectSource.fetch_leaves {source : DirectSource} {token : Option String}
    {answer : Except Fault Page} {after : Source σ}
    (fetched : (Source.direct source).fetch environment token world =
      (answer, after, reached)) :
    (∃ fault, answer = .error fault ∧ after = .direct source) ∨
    ∃ part outside, (environment.results source.subject.queryId token source.maxRows
        outside).1.outcome = .ok part ∧
      after = .direct
        { source with columns := some (pageColumns source.columns token.isNone part) } := by
  rcases asked : source.retry.run environment source.subject.scope source.token
    (·.ask (.results source.subject.queryId token source.maxRows)
      (environment.results source.subject.queryId token source.maxRows)) world with
    ⟨fault | part, settled⟩
  · rw [fetch_of_fault asked] at fetched
    cases fetched
    exact .inl ⟨fault, rfl, rfl⟩
  · rcases RetryPolicy.exists_outcome_of_run asked with ⟨outside, brought⟩
    rw [fetch_of_part asked] at fetched
    cases fetched
    exact .inr ⟨part, outside, brought, rfl⟩

theorem Source.Steady.fetch {source after : Source σ} (steady : source.Steady environment)
    {token : Option String} {answer : Except Fault Page}
    (fetched : source.fetch environment token world = (answer, after, reached)) :
    after.Steady environment := by
  cases source with
  | direct source =>
      rcases DirectSource.fetch_leaves fetched with ⟨fault, -, rfl⟩ | ⟨part, outside, -, rfl⟩
      · exact steady
      · exact steady
  | bulk source =>
      cases fetched
      intro outside again
      have same := (@BulkSource.fetch_sameFile _ environment source _ token world _ _ rfl)
      rw [same.congr BulkSource.object fun _ => rfl, same.congr BulkSource.location fun _ => rfl]
      exact steady outside again

end

/-! ## Walks -/

namespace Pager

/-- The answers to requests for the next page, no more than `limit` of them, up to the first that
brings no page. -/
def answers (environment : Environment σ) :
    (limit : Nat) → Pager σ → World σ → List (Except Fault (Option Page)) × World σ
  | 0, _, world => ([], world)
  | limit + 1, pager, world =>
      match pager.next environment world with
      | (.ok (some page), pager, world) =>
          let (later, world) := answers environment limit pager world
          (.ok (some page) :: later, world)
      | (answer, _, world) => ([answer], world)

def pagesIn (answers : List (Except Fault (Option Page))) : List Page :=
  answers.filterMap (·.toOption.join)

/-- No walk has come to an end that depends on the time, as one that is asked for does. -/
def Undisturbed (answers : List (Except Fault (Option Page))) : Prop :=
  ∀ fault, .error fault ∈ answers → fault.isUntimely = false

variable {environment : Environment σ}

section

variable {pager after : Pager σ} {world reached : World σ}

theorem answers_of_page {page : Page}
    (asked : pager.next environment world = (.ok (some page), after, reached)) (limit : Nat) :
    pager.answers environment (limit + 1) world =
      (.ok (some page) :: (after.answers environment limit reached).1,
        (after.answers environment limit reached).2) := by
  rw [answers, asked]

theorem answers_of_fault {fault : Fault}
    (asked : pager.next environment world = (.error fault, after, reached)) (limit : Nat) :
    pager.answers environment (limit + 1) world = ([.error fault], reached) := by
  rw [answers, asked]

theorem answers_of_exhausted (ended : pager.exhausted = true) (limit : Nat) :
    pager.answers environment (limit + 1) world = ([.ok none], world) := by
  rw [answers, next_of_exhausted ended]

end

/-- What a walk knows of columns does not matter for its pages. -/
theorem answers_congr {pager other : Pager σ} (sameSource : pager.source = other.source)
    (sameToken : pager.pageToken = other.pageToken) (sameEnd : pager.exhausted = other.exhausted)
    (limit : Nat) (world : World σ) :
    pager.answers environment limit world = other.answers environment limit world := by
  induction limit generalizing pager other world with
  | zero => rfl
  | succ limit induction =>
      cases ended : other.exhausted with
      | true => rw [answers_of_exhausted ended, answers_of_exhausted (sameEnd.trans ended)]
      | false =>
          rcases fetched : other.source.fetch environment other.pageToken world with
            ⟨fault | page, after, reached⟩
          · have asked := next_of_fault ended fetched
            rw [← sameSource, ← sameToken] at fetched
            rw [answers_of_fault asked,
              answers_of_fault (next_of_fault (sameEnd.trans ended) fetched)]
          · have asked := next_of_page ended fetched
            rw [← sameSource, ← sameToken] at fetched
            have later := @induction ({ pager with source := after }.advance page)
              ({ other with source := after }.advance page) rfl rfl rfl reached
            rw [answers_of_page asked, answers_of_page (next_of_page (sameEnd.trans ended) fetched),
              later]

theorem answers_repeats {pager : Pager σ} (steady : pager.source.Steady environment) (limit : Nat)
    (world other : World σ) :
    pagesIn (pager.answers environment limit world).1 =
        pagesIn (pager.answers environment limit other).1 ∧
      (Undisturbed (pager.answers environment limit world).1 →
        Undisturbed (pager.answers environment limit other).1 →
        (pager.answers environment limit world).1 =
          (pager.answers environment limit other).1) := by
  induction limit generalizing pager world other with
  | zero => exact ⟨rfl, fun _ _ => rfl⟩
  | succ limit induction =>
      cases ended : pager.exhausted with
      | true =>
          rw [answers_of_exhausted ended, answers_of_exhausted ended]
          exact ⟨rfl, fun _ _ => rfl⟩
      | false =>
          have repeats := Source.fetch_repeats steady pager.pageToken world other
          generalize fetched : pager.source.fetch environment pager.pageToken world = made
            at repeats
          generalize again : pager.source.fetch environment pager.pageToken other = madeAgain
            at repeats
          cases repeats with
          | fault same =>
              rw [answers_of_fault (next_of_fault ended fetched),
                answers_of_fault (next_of_fault ended again)]
              refine ⟨rfl, fun undisturbed undisturbedToo => ?_⟩
              rw [same (undisturbed _ (List.mem_singleton.mpr rfl))
                (undisturbedToo _ (List.mem_singleton.mpr rfl))]
          | @page page after reached reachedAgain =>
              rw [answers_of_page (next_of_page ended fetched),
                answers_of_page (next_of_page ended again)]
              rcases @induction ({ pager with source := after }.advance page)
                (steady.fetch fetched) reached reachedAgain with ⟨samePages, same⟩
              refine ⟨congrArg (page :: ·) samePages, fun undisturbed undisturbedToo => ?_⟩
              exact congrArg (.ok (some page) :: ·)
                (same (fun fault member => undisturbed fault (List.mem_cons_of_mem _ member))
                  fun fault member => undisturbedToo fault (List.mem_cons_of_mem _ member))

/-! ### What a walk leaves behind -/

/-- What a walk may have made of its source: the columns of the first page are known, or a file is
open. -/
inductive Leftover (environment : Environment σ) : Source σ → Pager σ → Prop
  | untouched {source : Source σ} {pager : Pager σ} (atSource : pager.source = source)
      (atStart : pager.pageToken = none) : Leftover environment source pager
  | direct {source : DirectSource} {pager : Pager σ} {part : ResultPart} {outside : σ}
      (brought : (environment.results source.subject.queryId none source.maxRows
        outside).1.outcome = .ok part)
      (atSource : pager.source = .direct
        { source with columns := some (DirectSource.pageColumns source.columns true part) }) :
      Leftover environment (.direct source) pager
  | bulk {source current : BulkSource σ} {pager : Pager σ} (atSource : pager.source = .bulk current)
      (same : current.SameFile source) : Leftover environment (.bulk source) pager

end Pager

namespace DirectSource

theorem pageColumns_again (known : Option (List Column)) (part : ResultPart) :
    pageColumns (some (pageColumns known true part)) true part = pageColumns known true part := by
  unfold pageColumns
  cases known <;> cases part.columns.isEmpty <;> simp

end DirectSource

namespace BulkSource

variable {environment : Environment σ} {source current : BulkSource σ}

theorem SameFile.nextPage_eq (same : current.SameFile source) (stream : FileStream) :
    current.nextPage stream = source.nextPage stream := by
  apply same.congr fun source : BulkSource σ => source.nextPage stream
  intro source
  unfold nextPage
  split <;> rfl

theorem SameFile.askFile_eq (same : current.SameFile source) (world : World σ) :
    current.askFile environment world = source.askFile environment world :=
  same.congr (fun source : BulkSource σ => source.askFile environment world) fun _ => rfl

theorem SameFile.opened_eq (same : current.SameFile source) (download : Download) :
    current.opened download = source.opened download :=
  same.congr (fun source : BulkSource σ => source.opened download) fun _ => rfl

end BulkSource

namespace Pager

variable {environment : Environment σ} {source : Source σ} {pager after : Pager σ}
  {world reached : World σ} {answer : Except Fault (Option Page)}

theorem Leftover.next (steady : source.Steady environment)
    (leftover : Leftover environment source pager)
    (asked : pager.next environment world = (answer, after, reached)) :
    Leftover environment source after := by
  rcases exists_fetch asked with rfl | ⟨result, fetched, sameToken⟩
  · exact leftover
  cases leftover with
  | untouched atSource atStart =>
      rw [atSource, atStart] at fetched
      cases source with
      | direct source =>
          rcases DirectSource.fetch_leaves fetched with
            ⟨fault, failed, atSourceToo⟩ | ⟨part, outside, brought, atSourceToo⟩
          · exact .untouched atSourceToo ((sameToken fault failed).trans atStart)
          · exact .direct brought atSourceToo
      | bulk source =>
          rcases turned : source.fetch environment none world with ⟨page, next, settled⟩
          rw [Source.fetch, turned] at fetched
          exact .bulk (congrArg (·.2.1) fetched.symm) (BulkSource.fetch_sameFile turned)
  | @direct source _ part outside brought atSource =>
      rw [atSource] at fetched
      rcases DirectSource.fetch_leaves fetched with
        ⟨fault, -, atSourceToo⟩ | ⟨again, outsideAgain, broughtAgain, atSourceToo⟩
      · exact .direct brought atSourceToo
      · cases token : pager.pageToken with
        | none =>
            rw [token] at broughtAgain atSourceToo
            cases (steady none outside outsideAgain).unique brought broughtAgain
            rw [Option.isNone_none, DirectSource.pageColumns_again] at atSourceToo
            exact .direct brought atSourceToo
        | some later =>
            rw [token] at atSourceToo
            exact .direct brought atSourceToo
  | bulk atSource same =>
      rw [atSource] at fetched
      rcases turned : BulkSource.fetch environment _ pager.pageToken world with
        ⟨page, next, settled⟩
      rw [Source.fetch, turned] at fetched
      exact .bulk (congrArg (·.2.1) fetched.symm) ((BulkSource.fetch_sameFile turned).trans same)

theorem Leftover.restart (leftover : Leftover environment source pager) :
    Leftover environment source pager.restart := by
  cases leftover with
  | untouched atSource atStart => exact .untouched atSource rfl
  | direct brought atSource => exact .direct brought atSource
  | bulk atSource same => exact .bulk atSource same

theorem History.leftover (steady : source.Steady environment)
    (history : History environment { source } pager) : Leftover environment source pager := by
  induction history with
  | fresh => exact .untouched rfl rfl
  | asked history asked induction => exact induction.next steady asked
  | restarted history induction => exact induction.restart

inductive Coincide :
    Except Fault Page × Source σ × World σ → Except Fault Page × Source σ × World σ → Prop
  | same (made : Except Fault Page × Source σ × World σ) : Coincide made made
  | fault {fault : Fault} {after other : Source σ} {reached : World σ} :
      Coincide (.error fault, after, reached) (.error fault, other, reached)

theorem Leftover.coincide (steady : source.Steady environment)
    (leftover : Leftover environment source pager) (world : World σ) :
    Coincide (pager.source.fetch environment none world)
      (source.fetch environment none world) := by
  cases leftover with
  | untouched atSource atStart =>
      rw [atSource]
      exact .same _
  | @direct source _ part outside brought atSource =>
      rw [atSource]
      rcases asked : source.retry.run environment source.subject.scope source.token
        (·.ask (.results source.subject.queryId none source.maxRows)
          (environment.results source.subject.queryId none source.maxRows)) world with
        ⟨fault | again, reached⟩
      · rw [DirectSource.fetch_of_fault asked,
          @DirectSource.fetch_of_fault _ _ { source with columns := some _ } _ _ _ _ asked]
        exact .fault
      · rcases RetryPolicy.exists_outcome_of_run asked with ⟨outsideAgain, broughtAgain⟩
        cases (steady none outside outsideAgain).unique brought broughtAgain
        rw [DirectSource.fetch_of_part asked,
          @DirectSource.fetch_of_part _ _ { source with columns := some _ } _ _ _ _ asked]
        dsimp only [Option.isNone_none]
        rw [DirectSource.pageColumns_again]
        exact .same _
  | @bulk source current _ atSource same =>
      rw [atSource]
      simp only [Source.fetch]
      rcases asked : source.askFile environment world with ⟨fault | download, reached⟩
      · have askedToo := (same.askFile_eq world).trans asked
        rw [BulkSource.fetch_none_of_error asked, BulkSource.fetch_none_of_error askedToo]
        exact .fault
      · have askedToo := (same.askFile_eq world).trans asked
        rw [BulkSource.fetch_none asked, BulkSource.fetch_none askedToo, same.opened_eq,
          same.nextPage_eq]
        exact .same _

/-- Whatever a walk has left behind, it begins again like a fresh one. -/
theorem Leftover.answers_eq (steady : source.Steady environment)
    (leftover : Leftover environment source pager) (limit : Nat) (world : World σ) :
    pager.restart.answers environment limit world =
      ({ source } : Pager σ).answers environment limit world := by
  cases limit with
  | zero => rfl
  | succ limit =>
      have coincide := leftover.coincide steady world
      generalize again : pager.source.fetch environment none world = made at coincide
      have fresh : ({ source } : Pager σ).exhausted = false := rfl
      have begun : pager.restart.exhausted = false := rfl
      rcases fetched : source.fetch environment none world with ⟨fault | page, after, reached⟩
      · rw [fetched] at coincide
        have failed : ∃ other, made = (.error fault, other, reached) := by
          cases coincide with
          | same | fault => exact ⟨_, rfl⟩
        rcases failed with ⟨other, rfl⟩
        rw [answers_of_fault (next_of_fault begun again),
          answers_of_fault (next_of_fault fresh fetched)]
      · rw [fetched] at coincide
        cases coincide
        have later := @answers_congr _ environment
          ({ pager.restart with source := after }.advance page)
          (({ source := after } : Pager σ).advance page) rfl rfl rfl limit reached
        rw [answers_of_page (next_of_page begun again),
          answers_of_page (next_of_page fresh fetched), later]

/-! ### What a walk brings -/

theorem answers_leadsTo (environment : Environment σ) (limit : Nat) (pager : Pager σ)
    (world : World σ) : world.LeadsTo (pager.answers environment limit world).2 := by
  induction limit generalizing pager world with
  | zero => exact World.LeadsTo.refl world
  | succ limit induction =>
      have leads := pager.next_leadsTo environment world
      rcases asked : pager.next environment world with ⟨fault | _ | page, after, reached⟩
      · rw [asked] at leads
        rwa [answers_of_fault asked]
      · rw [asked] at leads
        rwa [answers, asked]
      · rw [asked] at leads
        rw [answers_of_page asked]
        exact leads.trans (induction after reached)

theorem Turns.exists_answers {fresh : Pager σ} {taken : List Turn}
    (earlier : Turns environment fresh taken pager) (limit : Nat) (world : World σ) :
    ∃ more last, Turns environment fresh (taken ++ more) last ∧
      more.map (·.answer) = (pager.answers environment limit world).1 ∧
      more.flatMap (·.calls) = (pager.answers environment limit world).2.since world := by
  induction limit generalizing taken pager world with
  | zero => exact ⟨[], pager, by rwa [List.append_nil], rfl, (World.since_self world).symm⟩
  | succ limit induction =>
      have leads := pager.next_leadsTo environment world
      rcases asked : pager.next environment world with ⟨answer, after, reached⟩
      rw [asked] at leads
      have turns := earlier.next asked
      rcases answer with fault | _ | page
      · rw [answers_of_fault asked]
        exact ⟨_, _, turns, rfl, List.append_nil _⟩
      · rw [answers, asked]
        exact ⟨_, _, turns, rfl, List.append_nil _⟩
      · rcases induction turns reached with ⟨more, last, turnsToo, answers, calls⟩
        rw [List.append_assoc] at turnsToo
        rw [answers_of_page asked]
        refine ⟨_, last, turnsToo, congrArg (_ :: ·) answers, ?_⟩
        rw [leads.since_eq_append (answers_leadsTo environment limit after reached), ← calls]
        rfl

theorem rows_of_answers (source : DirectSource) (limit : Nat) (world : World σ) :
    ResultPart.Rows
      (((({ source := .direct source } : Pager σ).answers environment limit world).2.since
        world).filterMap Sent.part?)
      ((pagesIn (({ source := .direct source } : Pager σ).answers environment limit
        world).1).flatMap (·.rows)) := by
  have fresh : Turns environment ({ source := .direct source } : Pager σ) [] _ := .nothing
  rcases fresh.exists_answers limit world with ⟨more, last, turns, answers, calls⟩
  rw [← answers, ← calls, pagesIn, List.filterMap_map, List.filterMap_flatMap]
  exact turns.walked.rows

def answersOf (pages : List Page) (ending : Option Fault) : List (Except Fault (Option Page)) :=
  pages.map (fun page => .ok (some page)) ++ [ending.elim (.ok none) .error]

theorem answers_of_walk {token : Option String} {pages : List Page} {ending : Option Fault}
    (walk : Walk (Source.Fetches environment) source token world pages ending)
    (atSource : pager.source = source) (atToken : pager.pageToken = token)
    (goesOn : pager.exhausted = false) (limit : Nat) :
    (pager.answers environment limit world).1 = (answersOf pages ending).take limit := by
  induction walk generalizing pager limit with
  | @last source after token world reached page fetched nothing =>
      subst atSource atToken
      have ended : ({ pager with source := after }.advance page).exhausted = true := by
        rw [advance, Page.isLast, nothing]
        rfl
      rcases limit with _ | _ | limit
      · rfl
      · rw [answers_of_page (next_of_page goesOn fetched)]
        rfl
      · rw [answers_of_page (next_of_page goesOn fetched), answers_of_exhausted ended]
        simp [answersOf]
  | @onward source after token world reached page more later ending fetched isMore rest
      induction =>
      subst atSource atToken
      have goesOnToo : ({ pager with source := after }.advance page).exhausted = false := by
        rw [advance, Page.isLast, isMore]
        rfl
      cases limit with
      | zero => rfl
      | succ limit =>
          have atMore : ({ pager with source := after }.advance page).pageToken = some more := by
            rw [pageToken_advance, isMore]
          rw [answers_of_page (next_of_page goesOn fetched)]
          exact congrArg (.ok (some page) :: ·) (induction rfl atMore goesOnToo limit)
  | @broken source after token world reached fault fetched =>
      subst atSource atToken
      cases limit with
      | zero => rfl
      | succ limit =>
          rw [answers_of_fault (next_of_fault goesOn fetched)]
          simp [answersOf]

/-- A walk that is begun again comes to the pages of a fresh walk, whatever has been asked of it,
if the service and the store give each time the same. The row of column names is taken off the
first page again, and the file is read again from its start. -/
theorem History.startsOver (steady : source.Steady environment)
    (history : History environment { source } pager) (limit : Nat) (world other : World σ) :
    pager.restart.answers environment limit world =
        ({ source } : Pager σ).answers environment limit world ∧
      pagesIn (pager.restart.answers environment limit world).1 =
        pagesIn (({ source } : Pager σ).answers environment limit other).1 ∧
      (Undisturbed (pager.restart.answers environment limit world).1 →
        Undisturbed (({ source } : Pager σ).answers environment limit other).1 →
        (pager.restart.answers environment limit world).1 =
          (({ source } : Pager σ).answers environment limit other).1) ∧
      (∀ direct, source = .direct direct →
        ResultPart.Rows
          (((pager.restart.answers environment limit world).2.since world).filterMap Sent.part?)
          ((pagesIn (pager.restart.answers environment limit world).1).flatMap (·.rows))) ∧
      (∀ bulk download reached, source = .bulk bulk →
        bulk.askFile environment world = (.ok download, reached) →
        (pager.restart.answers environment limit world).1 =
          (answersOf
            (pagesFrom bulk.columns 0
              (ResultFile.batches bulk.location.format bulk.pageSize download)).1
            (pagesFrom bulk.columns 0
              (ResultFile.batches bulk.location.format bulk.pageSize download)).2).take limit) := by
  have same := (history.leftover steady).answers_eq steady limit world
  rw [same]
  have repeats := @answers_repeats _ environment { source } steady limit world other
  refine ⟨rfl, repeats.1, repeats.2, ?_, ?_⟩
  · rintro direct rfl
    exact rows_of_answers direct limit world
  · rintro bulk download reached rfl asked
    have walk := walk_pagesFrom bulk (BulkSource.fetch_none asked) rfl
    exact answers_of_walk (walk.map Source.bulk BulkSource.Fetches.atSource) rfl rfl rfl limit

/-! ### A walk begun again behind its first page -/

/-- A service whose answers depend on the continuation token alone. -/
def namesakeService : Environment Unit :=
  { Rehearsal.deserted default with
    results := fun _ token _ outside =>
      ({ outcome := ({ pages := namesakes } : Rehearsal.Script).page token }, outside) }

theorem namesakeService_steady :
    (Source.direct namesakeSource : Source Unit).Steady namesakeService := by
  intro token outside again
  change Recurs Eq (({ pages := namesakes } : Rehearsal.Script).page token)
    (({ pages := namesakes } : Rehearsal.Script).page token)
  cases ({ pages := namesakes } : Rehearsal.Script).page token with
  | error error => exact .failure error
  | ok part => exact .value rfl

/-- Two pages come again, and the row of names is on neither of them. -/
theorem startsOver_namesakes :
    ∃ pager : Pager Unit,
      History namesakeService { source := .direct namesakeSource } pager ∧
      pager.pageToken = some "2" ∧
      pager.restart.answers namesakeService 3 { outside := () } =
        ({ source := .direct namesakeSource } : Pager Unit).answers namesakeService 3
          { outside := () } ∧
      (pagesIn (pager.restart.answers namesakeService 3 { outside := () }).1).map (·.rows) =
        [[[some "a", some "a"]], [[some "a", some "a"], [none, some "b"]]] := by
  have first : ({ source := .direct namesakeSource } : Pager Unit).next namesakeService
      { outside := () } = (.ok (some _), _, _) := rfl
  have history := History.asked .fresh first
  exact ⟨_, history, rfl, (history.startsOver namesakeService_steady 3 _ { outside := () }).1,
    rfl⟩

end Pager

end RemoteQuery
