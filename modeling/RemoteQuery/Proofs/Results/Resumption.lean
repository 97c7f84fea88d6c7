import RemoteQuery.Proofs.Number.Digits
import RemoteQuery.Proofs.Results.Failure

/-! # Going on with a file

A file is read from its start to its end, so a request can only go on where the latest page
ends, by the token that this page carries. Where nothing is left of the file no page carries a
token, but the number of the next page is still taken for one, and an empty page comes of it.
-/

namespace RemoteQuery

open ResultFile (Batch)

variable {σ : Type}

/-! ## The batches of a file -/

namespace ResultFile

/-- Every batch has rows in it, and there is nothing behind a failure of the file. -/
inductive Proper : List Batch → Prop
  | nothing : Proper []
  | rows {rows : List RawRow} {rest : List Batch} (something : rows ≠ [])
      (behind : Proper rest) : Proper (.ok rows :: rest)
  | broken (message : String) : Proper [.error (.resultFile message)]

theorem proper_batchesFrom (size : Nat) (failure : Option String) (waiting rows : List RawRow) :
    Proper (batchesFrom size failure waiting rows) := by
  induction rows generalizing waiting with
  | nil =>
      unfold batchesFrom
      cases failure with
      | some message => exact .broken message
      | none =>
          cases waiting with
          | nil => exact .nothing
          | cons row earlier => exact .rows (by simp) .nothing
  | cons row rest induction =>
      unfold batchesFrom
      split
      · exact .rows (by simp) (induction [])
      · exact induction (row :: waiting)

theorem proper_batches (format : FileFormat) (size : Nat) (download : Download) :
    Proper (batches format size download) := by
  unfold batches
  dsimp only
  split
  · exact proper_batchesFrom _ _ _ _
  · exact .nothing

end ResultFile

namespace BulkSource

/-! ## Requests to a source -/

structure Request where
  token : Option String
  answer : Except Fault Page

/-- The request has brought a page, or has begun the file and found no page in it. -/
def Request.moves (request : Request) : Bool :=
  match request.token, request.answer with
  | _, .ok _ => true
  | none, .error (.resultFile _) => true
  | _, _ => false

inductive Requests (environment : Environment σ) (fresh : BulkSource σ) :
    List Request → BulkSource σ → Prop
  | nothing : Requests environment fresh [] fresh
  | next {made : List Request} {source after : BulkSource σ} {world reached : World σ}
      {token : Option String} {answer : Except Fault Page}
      (earlier : Requests environment fresh made source)
      (fetched : source.fetch environment token world = (answer, after, reached)) :
      Requests environment fresh (made ++ [⟨token, answer⟩]) after

/-- The latest request that has brought a page, unless the file has been begun since then. -/
def latest? (made : List Request) : Option Request :=
  (made.filter Request.moves).getLast?

def Names (made : List Request) (token : String) : Prop :=
  ∃ asked page, latest? made = some ⟨asked, .ok page⟩ ∧ page.nextToken = some token

/-- No page carries the token, but it is the number of the page behind the last one of the
file, or that of the first page of a file in which none was found. -/
inductive Overruns (made : List Request) : String → Prop
  | behindLast {asked : Option String} {page : Page} {number : Nat}
      (latest : latest? made = some ⟨asked, .ok page⟩) (last : page.nextToken = none)
      (something : page.rows ≠ [])
      (numbered : asked.getD (Number.text 0) = Number.text number) :
      Overruns made (Number.text (number + 1))
  | beforeFirst {asked : Option String} {fault : Fault}
      (latest : latest? made = some ⟨asked, .error fault⟩) : Overruns made (Number.text 0)

theorem latest?_concat (made : List Request) (request : Request) :
    latest? (made ++ [request]) = if request.moves then some request else latest? made := by
  unfold latest?
  rw [List.filter_append]
  cases moves : request.moves <;> simp [moves]

/-! ## Where a source stands -/

inductive Standing : Option Request → Option FileStream → Prop
  | closed : Standing none none
  | failed {fault : Fault} {stream : FileStream} (emptied : stream.toCome = [])
      (first : stream.handedOut = 0) : Standing (some ⟨none, .error fault⟩) (some stream)
  | ended {asked : Option String} {page : Page} (last : page.nextToken = none)
      (nothing : page.rows = []) : Standing (some ⟨asked, .ok page⟩) none
  | behind {asked : Option String} {page : Page} {stream : FileStream} {number : Nat}
      (handedOut : stream.handedOut = number + 1)
      (numbered : asked.getD (Number.text 0) = Number.text number) (something : page.rows ≠ [])
      (token : (page.nextToken = none ∧ stream.toCome = []) ∨
        page.nextToken = some stream.pageToken) :
      Standing (some ⟨asked, .ok page⟩) (some stream)

theorem Standing.emptied {request : Option Request} {stream after : FileStream}
    (standing : Standing request (some stream)) (emptied : after.toCome = [])
    (sameNumber : after.handedOut = stream.handedOut) : Standing request (some after) := by
  have sameToken : after.pageToken = stream.pageToken := congrArg Number.text sameNumber
  cases standing with
  | failed _ first => exact .failed emptied (sameNumber.trans first)
  | behind handedOut numbered something token =>
      apply Standing.behind (sameNumber.trans handedOut) numbered something
      rcases token with ⟨last, -⟩ | next
      · exact .inl ⟨last, emptied⟩
      · exact .inr (next.trans (congrArg some sameToken.symm))

section

variable {environment : Environment σ} {source after : BulkSource σ} {made : List Request}
  {world reached : World σ} {answer : Except Fault Page} {token : Option String}

def FileProper (source : BulkSource σ) : Prop :=
  ∀ stream, source.stream = some stream → ResultFile.Proper stream.toCome

theorem nextPage_proper (source : BulkSource σ) {stream : FileStream}
    (proper : ResultFile.Proper stream.toCome) :
    (source.nextPage stream).2.FileProper := by
  intro next isOpen
  generalize coming : stream.toCome = batches at proper
  cases proper with
  | nothing =>
      rw [nextPage_of_nothing source coming] at isOpen
      cases isOpen
  | @rows rows rest something behind =>
      rw [nextPage_of_rows source coming] at isOpen
      cases isOpen
      cases rest <;> exact behind
  | broken message =>
      rw [nextPage_of_error source coming] at isOpen
      cases isOpen
      exact .nothing

theorem proper_of_which {stream : FileStream} (proper : source.FileProper)
    (which : (token = none ∧ ∃ download, stream = source.opened download ∧
        source.askFile environment world = (.ok download, reached)) ∨
      source.stream = some stream ∧ token = some stream.pageToken) :
    ResultFile.Proper stream.toCome := by
  rcases which with ⟨-, download, rfl, -⟩ | ⟨isOpen, -⟩
  · exact ResultFile.proper_batches _ _ _
  · exact proper stream isOpen

theorem fetch_proper (proper : source.FileProper)
    (fetched : source.fetch environment token world = (answer, after, reached)) :
    after.FileProper := by
  rcases fetch_cases fetched with ⟨fault, -, rfl, -⟩ | ⟨stream, turned, which⟩
  · exact proper
  · have properAfter := source.nextPage_proper (proper_of_which proper which)
    rwa [turned] at properAfter

theorem fetch_standing (proper : source.FileProper)
    (standing : Standing (latest? made) source.stream)
    (fetched : source.fetch environment token world = (answer, after, reached)) :
    Standing (latest? (made ++ [⟨token, answer⟩])) after.stream := by
  rw [latest?_concat]
  rcases fetch_cases fetched with ⟨fault, rfl, rfl, other⟩ | ⟨stream, turned, which⟩
  · have stays : Request.moves ⟨token, .error fault⟩ = false := by
      cases fault with
      | resultFile message => exact absurd rfl (other message)
      | _ => cases token <;> rfl
    rwa [stays, if_neg Bool.false_ne_true]
  · have properStream := proper_of_which proper which
    have number : token.getD (Number.text 0) = Number.text stream.handedOut := by
      rcases which with ⟨rfl, download, rfl, -⟩ | ⟨-, rfl⟩ <;> rfl
    generalize coming : stream.toCome = batches at properStream
    cases properStream with
    | nothing =>
        rw [nextPage_of_nothing source coming] at turned
        cases turned
        rw [Request.moves, if_pos rfl]
        exact .ended rfl rfl
    | @rows rows rest something behind =>
        rw [nextPage_of_rows source coming] at turned
        cases turned
        rw [Request.moves, if_pos rfl]
        apply Standing.behind rfl number something
        cases rest with
        | nil => exact .inl ⟨rfl, rfl⟩
        | cons next later => exact .inr (nextToken_of_text _ _ _)
    | broken message =>
        rw [nextPage_of_error source coming] at turned
        cases turned
        rcases which with ⟨rfl, download, rfl, -⟩ | ⟨isOpen, rfl⟩
        · rw [Request.moves, if_pos rfl]
          exact .failed rfl rfl
        · rw [Request.moves, if_neg Bool.false_ne_true]
          rw [isOpen] at standing
          exact standing.emptied rfl rfl

theorem Requests.standing {fresh : BulkSource σ} (closed : fresh.stream = none)
    (requests : Requests environment fresh made source) :
    source.FileProper ∧ Standing (latest? made) source.stream := by
  induction requests with
  | nothing =>
      constructor
      · intro stream isOpen
        cases closed.symm.trans isOpen
      · rw [closed]
        exact .closed
  | next earlier fetched induction =>
      rcases induction with ⟨proper, standing⟩
      exact ⟨fetch_proper proper fetched, fetch_standing proper standing fetched⟩

theorem Standing.of_names {stream? : Option FileStream} {token : String}
    (standing : Standing (latest? made) stream?) (names : Names made token) :
    ∃ stream, stream? = some stream ∧ stream.pageToken = token := by
  rcases names with ⟨asked, page, latest, next⟩
  rw [latest] at standing
  cases standing with
  | ended last => cases last.symm.trans next
  | behind _ _ _ which =>
      rcases which with ⟨last, -⟩ | same
      · cases last.symm.trans next
      · exact ⟨_, rfl, Option.some.inj (same.symm.trans next)⟩

/-- A token that no page carries may be that of an open file of which nothing is left. -/
theorem Standing.of_overruns {stream? : Option FileStream} {token : String}
    (standing : Standing (latest? made) stream?) (overruns : Overruns made token) :
    ∃ stream, stream? = some stream ∧ stream.pageToken = token ∧ stream.toCome = [] := by
  rcases overruns with ⟨latest, last, something, numbered⟩ | ⟨latest⟩
  · rw [latest] at standing
    cases standing with
    | ended _ nothing => exact absurd nothing something
    | behind handedOut alsoNumbered _ which =>
        have sameNumber := Number.text_injective (numbered.symm.trans alsoNumbered)
        rcases which with ⟨-, emptied⟩ | next
        · exact ⟨_, rfl, by rw [FileStream.pageToken, handedOut, sameNumber], emptied⟩
        · cases last.symm.trans next
  · rw [latest] at standing
    cases standing with
    | failed emptied first => exact ⟨_, rfl, by rw [FileStream.pageToken, first], emptied⟩

theorem Standing.names_or_overruns {stream : FileStream}
    (standing : Standing (latest? made) (some stream)) :
    Names made stream.pageToken ∨ Overruns made stream.pageToken := by
  generalize standsAt : latest? made = request at standing
  cases standing with
  | failed _ first =>
      right
      rw [FileStream.pageToken, first]
      exact .beforeFirst standsAt
  | behind handedOut numbered something which =>
      rcases which with ⟨last, -⟩ | next
      · right
        rw [FileStream.pageToken, handedOut]
        exact .behindLast standsAt last something numbered
      · exact .inl ⟨_, _, standsAt, next⟩

/-- A token that the latest page carries is the one by which its file goes on. A number that
no page carries gives an empty page where nothing is left of the file. By any other token
nothing is read, and the source stays where it is. -/
theorem Requests.resumes {fresh : BulkSource σ} (closed : fresh.stream = none)
    (requests : Requests environment fresh made source) (token : String) (world : World σ) :
    (Names made token → ∃ stream, source.stream = some stream ∧
      source.fetch environment (some token) world =
        ((source.nextPage stream).1, (source.nextPage stream).2, world)) ∧
    (Overruns made token →
      source.fetch environment (some token) world =
        (.ok (.of source.columns [] none none), { source with stream := none }, world)) ∧
    (¬Names made token → ¬Overruns made token →
      source.fetch environment (some token) world =
        (.error (.usage (notLatestMessage source.subject.queryId)), source, world)) := by
  have standing := (requests.standing closed).2
  refine ⟨?_, ?_, ?_⟩
  · intro names
    rcases standing.of_names names with ⟨stream, isOpen, rfl⟩
    exact ⟨stream, isOpen, fetch_latest isOpen⟩
  · intro overruns
    rcases standing.of_overruns overruns with ⟨stream, isOpen, rfl, emptied⟩
    rw [fetch_latest isOpen, nextPage_of_nothing source emptied]
  · intro unnamed within
    apply fetch_stale
    intro same
    rcases Option.map_eq_some_iff.mp same with ⟨stream, isOpen, rfl⟩
    rw [isOpen] at standing
    rcases standing.names_or_overruns with names | overruns
    · exact unnamed names
    · exact within overruns

end

/-! ### A token that no page carries -/

def twoRows : World Rehearsal.Script :=
  fileWorld [[97, 10, 98, 10]] none

def behindFirstRow : BulkSource Rehearsal.Script × World Rehearsal.Script :=
  ((fileSource 1).fetch (Rehearsal.environment true default) none twoRows).2

/-- The first page carries the token of the second one, and another token is turned down. -/
theorem resumes_secondRow :
    ∃ made, Requests (Rehearsal.environment true default) (fileSource 1) made behindFirstRow.1 ∧
      Names made "1" ∧
      (∃ stream, behindFirstRow.1.stream = some stream ∧
        behindFirstRow.1.fetch (Rehearsal.environment true default) (some "1") twoRows =
          ((behindFirstRow.1.nextPage stream).1, (behindFirstRow.1.nextPage stream).2,
            twoRows)) ∧
      behindFirstRow.1.fetch (Rehearsal.environment true default) (some "7") twoRows =
        (.error (.usage (notLatestMessage "q1")), behindFirstRow.1, twoRows) := by
  have first : (fileSource 1).fetch (Rehearsal.environment true default) none twoRows =
      (.ok (.of fileColumns [[some "a"]] (some "1") none), behindFirstRow.1,
        behindFirstRow.2) := rfl
  have requests := Requests.nothing.next first
  have named : Names [⟨none, .ok (.of fileColumns [[some "a"]] (some "1") none)⟩] "1" :=
    ⟨_, _, rfl, rfl⟩
  refine ⟨_, requests, named, (requests.resumes rfl "1" twoRows).1 named,
    (requests.resumes rfl "7" twoRows).2.2 ?_ ?_⟩
  · rintro ⟨asked, page, latest, next⟩
    cases latest
    exact absurd next (by decide)
  · generalize token : "7" = number
    rintro (⟨latest, last, -, -⟩ | ⟨latest⟩)
    · cases latest
      cases last
    · cases latest

/-- Behind a last page, which carries no token, the number of a further page is taken. -/
theorem lastPage_overrun :
    ∃ made source after,
      Requests (Rehearsal.environment true default) (fileSource 2) made source ∧
      (∀ request ∈ made, ∀ page, request.answer = .ok page → page.nextToken = none) ∧
      source.fetch (Rehearsal.environment true default) (some "1") twoRows =
        (.ok (.of fileColumns [] none none), after, twoRows) := by
  have only : (fileSource 2).fetch (Rehearsal.environment true default) none twoRows =
      (.ok (.of fileColumns [[some "a"], [some "b"]] none none), _, _) := rfl
  refine ⟨_, _, _, Requests.nothing.next only, ?_, rfl⟩
  intro request member page isPage
  rw [List.mem_singleton.mp member] at isPage
  cases isPage
  rfl

end BulkSource

end RemoteQuery
