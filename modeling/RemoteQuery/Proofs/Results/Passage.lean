import RemoteQuery.Proofs.Results.Failure
import RemoteQuery.Proofs.Results.Table
import RemoteQuery.Proofs.Retry.Calls

/-! # Pages of the service, passed on

A walk through the pages of the service asks once for each part of the results, by the token
of the part before, and stops behind the last part. Its pages have the rows of the parts as
the service sent them, but for one row of column names at the very start.
-/

namespace RemoteQuery

variable {σ : Type}

/-! ## Parts of results -/

namespace ResultPart

/-- No part follows: the continuation token is missing or empty. -/
def IsLast (part : ResultPart) : Prop :=
  part.nextToken = none ∨ part.nextToken = some ""

/-- A row has one cell for each column of a part, with the name of this column in it, and
there is at least one column. -/
def Names (part : ResultPart) (row : RawRow) : Prop :=
  part.columns ≠ [] ∧ List.Forall₂ (fun column cell => some column.name = cell) part.columns row

/-- The rows of the results that come in some parts. A row of column names that the first
part begins with is none of them; any other row is. -/
inductive Rows : List ResultPart → List RawRow → Prop
  | nothing : Rows [] []
  | headed {first : ResultPart} {later : List ResultPart} {header : RawRow} {rest : List RawRow}
      (begins : first.rows = header :: rest) (names : first.Names header) :
      Rows (first :: later) (rest ++ later.flatMap (·.rows))
  | bare {first : ResultPart} {later : List ResultPart}
      (unnamed : ∀ header ∈ first.rows.head?, ¬first.Names header) :
      Rows (first :: later) (first.rows ++ later.flatMap (·.rows))

def Ended (parts : List ResultPart) : Prop :=
  ∃ last ∈ parts.getLast?, last.IsLast

theorem not_ended_nil : ¬Ended [] := by
  rintro ⟨last, isLast, -⟩
  cases isLast

theorem ended_concat {parts : List ResultPart} {part : ResultPart} :
    Ended (parts ++ [part]) ↔ part.IsLast := by
  simp [Ended]

/-- A continuation token that is handed on is one by which something is asked for. -/
theorem isNone_nextToken_iff {part : ResultPart} :
    (part.nextToken.filter (!·.isEmpty)).isNone = true ↔ part.IsLast := by
  unfold IsLast
  cases part.nextToken with
  | none => simp
  | some token => by_cases empty : token = "" <;> simp [Option.filter, empty]

theorem filter_nextToken {part : ResultPart} (goesOn : ¬part.IsLast) :
    part.nextToken.filter (!·.isEmpty) = part.nextToken := by
  unfold IsLast at goesOn
  cases found : part.nextToken with
  | none => exact absurd (.inl found) goesOn
  | some token =>
      have nonempty : token ≠ "" := by
        rintro rfl
        exact goesOn (.inr found)
      simp [Option.filter, nonempty]

theorem isHeader_iff {part : ResultPart} {row : RawRow} :
    DirectSource.isHeader part.columns row = true ↔ part.Names row := by
  have cells : row = part.columns.map (fun column => some column.name) ↔
      List.Forall₂ (fun column cell => some column.name = cell) part.columns row := by
    rw [← List.forall₂_map_left_iff, List.forall₂_eq_eq_eq, eq_comm]
  simp only [DirectSource.isHeader, Names, Bool.and_eq_true, Bool.not_eq_true', beq_iff_eq,
    List.isEmpty_eq_false_iff, cells]

theorem rows_first (part : ResultPart) : Rows [part] (DirectSource.dataRows true part) := by
  have same : ∀ rows : List RawRow, rows = rows ++ List.flatMap (·.rows) ([] : List ResultPart) :=
    fun rows => (List.append_nil rows).symm
  unfold DirectSource.dataRows
  split
  · rename_i row rest begins
    split
    · rename_i isHeader
      rw [same rest]
      exact .headed begins (isHeader_iff.mp isHeader)
    · rename_i noHeader
      rw [← begins, same part.rows]
      refine .bare fun header first names => noHeader ?_
      rw [begins, List.head?_cons, Option.mem_some_iff] at first
      exact isHeader_iff.mpr (first ▸ names)
  · rename_i empty
    rw [same []]
    have bare : Rows [part] (part.rows ++ List.flatMap (·.rows) ([] : List ResultPart)) :=
      .bare fun header first => by rw [empty] at first; cases first
    rwa [empty] at bare

theorem Rows.concat {parts : List ResultPart} {rows : List RawRow} (delivered : Rows parts rows)
    (nonempty : parts ≠ []) (part : ResultPart) : Rows (parts ++ [part]) (rows ++ part.rows) := by
  have onePart : ∀ later : List ResultPart,
      later.flatMap (·.rows) ++ part.rows = (later ++ [part]).flatMap (·.rows) := by simp
  cases delivered with
  | nothing => contradiction
  | headed begins names =>
      rw [List.append_assoc, onePart]
      exact .headed begins names
  | bare unnamed =>
      rw [List.append_assoc, onePart]
      exact .bare unnamed

theorem Rows.exists_part {parts : List ResultPart} {rows : List RawRow}
    (delivered : Rows parts rows) {raw : RawRow} (member : raw ∈ rows) :
    ∃ part ∈ parts, raw ∈ part.rows := by
  cases delivered with
  | nothing => cases member
  | @headed first later header rest begins names =>
      rcases List.mem_append.mp member with inFirst | inLater
      · refine ⟨first, List.mem_cons_self, ?_⟩
        rw [begins]
        exact List.mem_cons_of_mem header inFirst
      · obtain ⟨part, isLater, inPart⟩ := List.mem_flatMap.mp inLater
        exact ⟨part, List.mem_cons_of_mem first isLater, inPart⟩
  | @bare first later unnamed =>
      rw [← List.flatMap_cons] at member
      exact List.mem_flatMap.mp member

theorem Rows.next {parts : List ResultPart} {rows : List RawRow} (delivered : Rows parts rows)
    (part : ResultPart) :
    Rows (parts ++ [part]) (rows ++ DirectSource.dataRows parts.isEmpty part) := by
  cases parts with
  | nil =>
      cases delivered
      exact rows_first part
  | cons first later =>
      have behind : DirectSource.dataRows (first :: later).isEmpty part = part.rows :=
        DirectSource.dataRows_later part
      rw [behind]
      exact delivered.concat (List.cons_ne_nil first later) part

end ResultPart

namespace DirectSource

def request (source : DirectSource) (token : Option String) : Call :=
  .results source.subject.queryId token source.maxRows

def pageOf (source : DirectSource) (first : Bool) (part : ResultPart) : Page :=
  .of (pageColumns source.columns first part) (dataRows first part) part.nextToken
    part.updateCount

variable {environment : Environment σ} {source after : DirectSource} {token : Option String}
  {world reached : World σ} {answer : Except Fault Page}

theorem fetch_cases (fetched : source.fetch environment token world = (answer, after, reached)) :
    (∃ part, answer = .ok (source.pageOf token.isNone part) ∧
      after = { source with columns := some (pageColumns source.columns token.isNone part) } ∧
      Tried (source.request token) (reached.since world) (.ok part)) ∨
    ∃ fault, answer = .error fault ∧ after = source ∧
      Tried (source.request token) (reached.since world) (.error fault) := by
  have tried := source.retry.run_tried environment source.subject.scope source.token
    (.results source.subject.queryId token source.maxRows)
    (environment.results source.subject.queryId token source.maxRows) world
  unfold fetch Environment.askResults at fetched
  split at fetched
  · rename_i fault settled ran
    rw [ran] at tried
    cases fetched
    exact .inr ⟨fault, rfl, rfl, tried⟩
  · rename_i part settled ran
    rw [ran] at tried
    cases fetched
    exact .inl ⟨part, rfl, rfl, tried⟩

end DirectSource

namespace Pager

/-! ## Requests one after the other -/

structure Turn where
  answer : Except Fault (Option Page)
  calls : List Sent

namespace Turn

def page? (turn : Turn) : Option Page :=
  turn.answer.toOption.join

def parts (turn : Turn) : List ResultPart :=
  turn.calls.filterMap Sent.part?

end Turn

def partsOf (turns : List Turn) : List ResultPart :=
  turns.flatMap Turn.parts

def pagesOf (turns : List Turn) : List Page :=
  turns.filterMap Turn.page?

theorem partsOf_concat (turns : List Turn) (turn : Turn) :
    partsOf (turns ++ [turn]) = partsOf turns ++ turn.parts := by
  simp [partsOf]

theorem pagesOf_concat (turns : List Turn) (turn : Turn) :
    pagesOf (turns ++ [turn]) = pagesOf turns ++ turn.page?.toList := by
  rw [pagesOf, List.filterMap_append, ← pagesOf]
  cases found : turn.page? <;> simp [found]

/-- Requests to a walk, one after the other. Whatever happens in the world between them. -/
inductive Turns (environment : Environment σ) (fresh : Pager σ) : List Turn → Pager σ → Prop
  | nothing : Turns environment fresh [] fresh
  | next {turns : List Turn} {pager after : Pager σ} {world reached : World σ}
      {answer : Except Fault (Option Page)} (earlier : Turns environment fresh turns pager)
      (asked : pager.next environment world = (answer, after, reached)) :
      Turns environment fresh (turns ++ [⟨answer, reached.since world⟩]) after

/-- What a request is about, behind the parts that came before: the part behind them, asked
for by the token of the last of them. Once there is no further part, nothing is called. -/
inductive Turn.Follows (source : DirectSource) (earlier : List ResultPart) : Turn → Prop
  | page {page : Page} {part : ResultPart} {calls : List Sent}
      (goesOn : ¬ResultPart.Ended earlier)
      (tried : Tried (source.request (earlier.getLast?.bind (·.nextToken))) calls (.ok part)) :
      Turn.Follows source earlier ⟨.ok (some page), calls⟩
  | fault {fault : Fault} {calls : List Sent} (goesOn : ¬ResultPart.Ended earlier)
      (tried : Tried (source.request (earlier.getLast?.bind (·.nextToken))) calls
        (.error fault)) :
      Turn.Follows source earlier ⟨.error fault, calls⟩
  | nothing (ended : ResultPart.Ended earlier) : Turn.Follows source earlier ⟨.ok none, []⟩

/-! ## A walk through the pages of the service -/

section

variable {environment : Environment σ} {source : DirectSource} {pager after : Pager σ}
  {world reached : World σ} {answer : Except Fault (Option Page)} {taken : List Turn}

def knownColumns (source : DirectSource) : List ResultPart → Option (List Column)
  | [] => source.columns
  | first :: _ => some (DirectSource.pageColumns source.columns true first)

theorem knownColumns_concat {parts : List ResultPart} (nonempty : parts ≠ [])
    (part : ResultPart) : knownColumns source (parts ++ [part]) = knownColumns source parts := by
  cases parts with
  | nil => contradiction
  | cons first later => rfl

structure Walked (source : DirectSource) (taken : List Turn) (pager : Pager σ) : Prop where
  atSource : pager.source =
    .direct { source with columns := knownColumns source (partsOf taken) }
  pageToken : ¬ResultPart.Ended (partsOf taken) →
    pager.pageToken = (partsOf taken).getLast?.bind (·.nextToken)
  atStart : ¬ResultPart.Ended (partsOf taken) →
    pager.pageToken.isNone = (partsOf taken).isEmpty
  exhausted : pager.exhausted = true ↔ ResultPart.Ended (partsOf taken)
  onePage : (pagesOf taken).length = (partsOf taken).length
  rows : ResultPart.Rows (partsOf taken) ((pagesOf taken).flatMap (·.rows))
  columns : ∀ page ∈ pagesOf taken, some page.columns = knownColumns source (partsOf taken)

theorem walked_nothing (source : DirectSource) :
    Walked (σ := σ) source [] { source := .direct source } where
  atSource := rfl
  pageToken _ := rfl
  atStart _ := rfl
  exhausted := by simp [partsOf, ResultPart.not_ended_nil]
  onePage := rfl
  rows := .nothing
  columns page member := by cases member

theorem Walked.parts_ne_nil (walked : Walked source taken pager) {page : Page}
    (member : page ∈ pagesOf taken) : partsOf taken ≠ [] := by
  have onePage := walked.onePage
  intro noParts
  rw [noParts, List.length_nil, List.length_eq_zero_iff] at onePage
  rw [onePage] at member
  cases member

theorem Walked.stays (walked : Walked source taken pager) {turn : Turn}
    (noPage : turn.page? = none) (noPart : turn.parts = [])
    (sameSource : after.source = pager.source) (sameToken : after.pageToken = pager.pageToken)
    (sameEnd : after.exhausted = pager.exhausted) : Walked source (taken ++ [turn]) after := by
  have parts : partsOf (taken ++ [turn]) = partsOf taken := by
    rw [partsOf_concat, noPart, List.append_nil]
  have pages : pagesOf (taken ++ [turn]) = pagesOf taken := by
    rw [pagesOf_concat, noPage, Option.toList_none, List.append_nil]
  constructor
  · rw [parts, sameSource, walked.atSource]
  · rw [parts, sameToken]
    exact walked.pageToken
  · rw [parts, sameToken]
    exact walked.atStart
  · rw [parts, sameEnd]
    exact walked.exhausted
  · rw [parts, pages]
    exact walked.onePage
  · rw [parts, pages]
    exact walked.rows
  · rw [parts, pages]
    exact walked.columns

theorem Walked.moves (walked : Walked source taken pager) {part : ResultPart} {page : Page}
    {calls : List Sent} (goesOn : ¬ResultPart.Ended (partsOf taken))
    (isPage : page = DirectSource.pageOf
      { source with columns := knownColumns source (partsOf taken) } pager.pageToken.isNone part)
    (brings : calls.filterMap Sent.part? = [part])
    (atSource : after.source = .direct { source with columns := some page.columns })
    (pageToken : after.pageToken = page.nextToken) (exhausted : after.exhausted = page.isLast) :
    Walked source (taken ++ [⟨.ok (some page), calls⟩]) after := by
  have parts : partsOf (taken ++ [⟨.ok (some page), calls⟩]) = partsOf taken ++ [part] := by
    rw [partsOf_concat, Turn.parts, brings]
  have pages : pagesOf (taken ++ [⟨.ok (some page), calls⟩]) = pagesOf taken ++ [page] :=
    pagesOf_concat taken _
  have tokenOfPart : page.nextToken = part.nextToken.filter (!·.isEmpty) := by rw [isPage]; rfl
  have first := walked.atStart goesOn
  have known : knownColumns source (partsOf taken ++ [part]) = some page.columns := by
    rw [isPage, first]
    cases partsOf taken <;> rfl
  have goesOnToo : ¬ResultPart.Ended (partsOf taken ++ [part]) → ¬part.IsLast :=
    fun more isLast => more (ResultPart.ended_concat.mpr isLast)
  constructor
  · rw [parts, known, atSource]
  · rw [parts]
    intro more
    rw [pageToken, tokenOfPart, ResultPart.filter_nextToken (goesOnToo more), List.getLast?_concat,
      Option.bind_some]
  · rw [parts]
    intro more
    have something : page.nextToken.isNone = false := by
      rw [tokenOfPart, ← Bool.not_eq_true, ResultPart.isNone_nextToken_iff]
      exact goesOnToo more
    rw [pageToken, something]
    simp
  · rw [parts, exhausted, ResultPart.ended_concat, Page.isLast, tokenOfPart]
    exact ResultPart.isNone_nextToken_iff
  · rw [parts, pages, List.length_append, List.length_append, walked.onePage]
    rfl
  · rw [parts, pages, List.flatMap_append, List.flatMap_singleton, isPage, first]
    exact walked.rows.next part
  · rw [parts, pages]
    intro given member
    rcases List.mem_append.mp member with before | here
    · rw [knownColumns_concat (walked.parts_ne_nil before)]
      exact walked.columns given before
    · rw [known, List.mem_singleton.mp here]

theorem Walked.next (walked : Walked source taken pager)
    (asked : pager.next environment world = (answer, after, reached)) :
    Walked source (taken ++ [⟨answer, reached.since world⟩]) after ∧
      Turn.Follows source (partsOf taken) ⟨answer, reached.since world⟩ := by
  by_cases ended : ResultPart.Ended (partsOf taken)
  · rw [next_of_exhausted (walked.exhausted.mpr ended)] at asked
    cases asked
    rw [World.since_self]
    exact ⟨walked.stays rfl rfl rfl rfl rfl, .nothing ended⟩
  · have goesOn : pager.exhausted = false := by
      rw [← Bool.not_eq_true, walked.exhausted]
      exact ended
    rw [Pager.next, goesOn, if_neg Bool.false_ne_true, walked.atSource, Source.fetch] at asked
    rcases fetched : DirectSource.fetch environment
        { source with columns := knownColumns source (partsOf taken) } pager.pageToken world with
      ⟨result, next, settled⟩
    rw [fetched] at asked
    have token := walked.pageToken ended
    rcases DirectSource.fetch_cases fetched with
      ⟨part, rfl, rfl, tried⟩ | ⟨fault, rfl, rfl, tried⟩
    · cases asked
      refine ⟨walked.moves ended rfl tried.parts rfl rfl rfl, ?_⟩
      rw [token] at tried
      exact .page ended tried
    · cases asked
      refine ⟨walked.stays rfl tried.parts walked.atSource.symm rfl goesOn.symm, .fault ended ?_⟩
      rw [← token]
      exact tried

theorem Turns.walked (turns : Turns environment { source := .direct source } taken pager) :
    Walked source taken pager := by
  induction turns with
  | nothing => exact walked_nothing source
  | next earlier asked induction => exact (induction.next asked).1

theorem Turns.follows (turns : Turns environment { source := .direct source } taken pager)
    {earlier later : List Turn} {turn : Turn} (divided : taken = earlier ++ turn :: later) :
    turn.Follows source (partsOf earlier) := by
  induction turns generalizing later with
  | nothing => cases List.append_ne_nil_of_right_ne_nil earlier (List.cons_ne_nil _ _) divided.symm
  | next before asked induction =>
      rcases List.eq_nil_or_concat' later with rfl | ⟨front, final, rfl⟩
      · obtain ⟨rfl, last⟩ := List.append_inj' divided rfl
        rw [← (List.cons.inj last).1]
        exact (before.walked.next asked).2
      · rw [← List.cons_append, ← List.append_assoc] at divided
        exact induction (List.append_inj' divided rfl).1

end

structure PassesOn (source : DirectSource) (taken : List Turn) : Prop where
  /-- Each request asks for the part behind those before, if there is one. -/
  follows : ∀ earlier turn later, taken = earlier ++ turn :: later →
    turn.Follows source (partsOf earlier)
  onePage : (pagesOf taken).length = (partsOf taken).length
  rows : ResultPart.Rows (partsOf taken) ((pagesOf taken).flatMap (·.rows))

/-- Whatever the service sends, a walk through its pages asks once for each part, by the token
of the part before, and passes the rows on, without the row of column names at their start. -/
theorem Turns.passesOn {environment : Environment σ} {source : DirectSource} {pager : Pager σ}
    {taken : List Turn} (turns : Turns environment { source := .direct source } taken pager) :
    PassesOn source taken :=
  ⟨fun _ _ _ => turns.follows, turns.walked.onePage, turns.walked.rows⟩

/-! ### Rows that look like column names -/

/-- Two columns of one name. The row of the names comes three times, twice on the first page
and once on the second; only the first of them is no row of the results. -/
def namesakes : List (Option String × ResultPart) :=
  let columns := [Column.ofType "a" "varchar", Column.ofType "a" "varchar"]
  let names := [some "a", some "a"]
  [(none, { columns, rows := [names, names], nextToken := some "2" }),
    (some "2", { columns, rows := [names, [none, some "b"]], nextToken := some "" })]

def namesakePages : Page × Page :=
  let columns := Column.normalize [Column.ofType "a" "varchar", Column.ofType "a" "varchar"]
  ({ columns, rows := [[some "a", some "a"]], nextToken := some "2" },
    { columns, rows := [[some "a", some "a"], [none, some "b"]], nextToken := none })

/-- The service is busy once, and then sends the parts. -/
def busyOnce : World Rehearsal.Script :=
  { outside :=
      { pages := namesakes, resultCalls := [{ outcome := .error (.operational "busy") }] } }

def namesakeSource : DirectSource :=
  { subject := { queryId := "q1", database := "default", catalog := "AwsDataCatalog" }
    maxRows := 2, retry := {}, token := ⟨0⟩ }

def behindOne : Pager Rehearsal.Script × World Rehearsal.Script :=
  (next (Rehearsal.environment false default) { source := .direct namesakeSource } busyOnce).2

def behindTwo : Pager Rehearsal.Script × World Rehearsal.Script :=
  (next (Rehearsal.environment false default) behindOne.1 behindOne.2).2

theorem passesOn_namesakes :
    ∃ taken : List Turn,
      Turns (Rehearsal.environment false default) { source := .direct namesakeSource } taken
        behindTwo.1 ∧
      (pagesOf taken).flatMap (·.rows) =
        [[some "a", some "a"], [some "a", some "a"], [none, some "b"]] ∧
      (taken.map fun turn => turn.calls.length) = [2, 1, 0] ∧
      PassesOn namesakeSource taken := by
  have first : next (Rehearsal.environment false default) { source := .direct namesakeSource }
      busyOnce = (.ok (some namesakePages.1), behindOne.1, behindOne.2) :=
    Prod.ext (by decide +kernel) (by rw [behindOne])
  have second : next (Rehearsal.environment false default) behindOne.1 behindOne.2 =
      (.ok (some namesakePages.2), behindTwo.1, behindTwo.2) :=
    Prod.ext (by decide +kernel) (by rw [behindTwo])
  have third : next (Rehearsal.environment false default) behindTwo.1 behindTwo.2 =
      (.ok none, behindTwo.1, behindTwo.2) :=
    next_of_exhausted (by decide +kernel)
  have turns := ((Turns.nothing.next first).next second).next third
  exact ⟨_, turns, rfl, by decide +kernel, turns.passesOn⟩

end Pager

end RemoteQuery
