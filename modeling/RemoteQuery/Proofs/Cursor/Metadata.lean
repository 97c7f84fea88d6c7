import RemoteQuery.Proofs.Cursor.Opening
import RemoteQuery.Proofs.Cursor.Reading
import RemoteQuery.Proofs.Results.Passage

/-! # Columns named by the service

The columns that the first part of the results names are the columns of all pages, and a
cursor reads all rows by them. If the first part names none, there are none on any page,
whatever later parts name.
-/

namespace RemoteQuery

variable {σ : Type}

/-! ## Columns of parts -/

theorem Column.normalize_eq_nil_iff {columns : List Column} :
    normalize columns = [] ↔ columns = [] := by
  cases columns with
  | nil => simp [normalize, normalizeFrom]
  | cons first later => simp [normalize, normalizeFrom]

namespace ResultPart

def firstNamed : List ResultPart → List Column
  | [] => []
  | part :: later => if part.columns.isEmpty then firstNamed later else part.columns

theorem firstNamed_eq_nil_iff {parts : List ResultPart} :
    firstNamed parts = [] ↔ ∀ part ∈ parts, part.columns = [] := by
  induction parts with
  | nil => simp [firstNamed]
  | cons part later induction =>
      cases named : part.columns with
      | nil => simp [firstNamed, named, induction]
      | cons column others => simp [firstNamed, named]

/-- Columns are those that the first of some parts names. They are also those that any part
names first, if the first part names some, or if none does. -/
structure OfFirst (parts : List ResultPart) (columns : List Column) : Prop where
  first : ∃ part ∈ parts.head?, columns = Column.normalize part.columns
  named : columns = Column.normalize (firstNamed parts) ↔
    (∃ part ∈ parts.head?, part.columns ≠ []) ∨ ∀ part ∈ parts, part.columns = []

theorem ofFirst_cons (first : ResultPart) (later : List ResultPart) :
    OfFirst (first :: later) (Column.normalize first.columns) := by
  refine ⟨⟨first, rfl, rfl⟩, ?_⟩
  cases named : first.columns with
  | nil =>
      have noColumns : Column.normalize [] = [] := rfl
      rw [noColumns, eq_comm, Column.normalize_eq_nil_iff, firstNamed_eq_nil_iff]
      simp [named]
  | cons column others => simp [firstNamed, named]

end ResultPart

open ResultPart (OfFirst)

/-! ## Columns of pages -/

theorem Source.fetch_format {environment : Environment σ} {source after : Source σ}
    {token : Option String} {world reached : World σ} {answer : Except Fault Page}
    (fetched : source.fetch environment token world = (answer, after, reached)) :
    after.format = source.format := by
  cases source <;> cases fetched <;> rfl

namespace Pager

variable {environment : Environment σ} {source : DirectSource} {pager : Pager σ}
  {taken : List Turn}

theorem next_format {after : Pager σ} {world reached : World σ}
    {answer : Except Fault (Option Page)}
    (stepped : pager.next environment world = (answer, after, reached)) :
    after.source.format = pager.source.format := by
  unfold next at stepped
  split at stepped
  · cases stepped
    rfl
  · split at stepped
    all_goals
      rename_i fetched
      cases stepped
      exact Source.fetch_format fetched

theorem knownColumns_cons (fresh : source.columns = none) (first : ResultPart)
    (later : List ResultPart) :
    knownColumns source (first :: later) = some (Column.normalize first.columns) := by
  simp only [knownColumns, DirectSource.pageColumns, fresh]

theorem Walked.first (walked : Walked source taken pager) (fresh : source.columns = none)
    {page : Page} (member : page ∈ pagesOf taken) :
    ∃ first later, partsOf taken = first :: later ∧
      page.columns = Column.normalize first.columns := by
  have same := walked.columns page member
  obtain ⟨first, later, parts⟩ := List.exists_cons_of_ne_nil (walked.parts_ne_nil member)
  rw [parts, knownColumns_cons fresh] at same
  exact ⟨first, later, parts, Option.some.inj same⟩

theorem Walked.ofFirst (walked : Walked source taken pager) (fresh : source.columns = none)
    (count : Nat) (page : Page) (isPage : page ∈ (pagesOf taken)[count]?) :
    OfFirst ((partsOf taken).take (count + 1)) page.columns := by
  obtain ⟨first, later, parts, same⟩ := walked.first fresh (List.mem_of_getElem? isPage)
  rw [parts, List.take_succ_cons, same]
  exact ResultPart.ofFirst_cons first _

end Pager

/-! ## Columns of a cursor -/

namespace Cursor

variable {connection : Connection} {environment : Environment σ} {limit : Nat} {sql : String}
  {launch : Launch} {cursor opened after : Cursor σ} {world reached : World σ}
  {source : DirectSource} {first : ResultPart} {calls later : List Sent}

structure ReadsBy (environment : Environment σ) (source : DirectSource) (first : ResultPart)
    (calls : List Sent) (cursor : Cursor σ) : Prop where
  columns : cursor.columns = Column.normalize first.columns
  walk : ∃ taken pager, cursor.pager = some pager ∧
    Pager.Turns environment { source := .direct source } taken pager ∧
    Pager.partsOf taken = calls.filterMap Sent.part? ∧
    (Pager.partsOf taken).head? = some first ∧
    cursor.buffer ⊆ (Pager.pagesOf taken).flatMap (·.rows)

theorem ReadsBy.ofFirst (reads : ReadsBy environment source first calls cursor) :
    OfFirst (calls.filterMap Sent.part?) cursor.columns := by
  obtain ⟨same, taken, pager, -, -, parts, begins, -⟩ := reads
  obtain ⟨others, whole⟩ := List.head?_eq_some_iff.mp begins
  rw [← parts, whole, same]
  exact ResultPart.ofFirst_cons first others

theorem ReadsBy.brought (reads : ReadsBy environment source first calls cursor) :
    ∀ raw ∈ cursor.buffer, Brought calls raw := by
  obtain ⟨same, taken, pager, -, turns, parts, -, buffered⟩ := reads
  intro raw member
  rw [Brought, ← parts]
  exact turns.walked.rows.exists_part (buffered member)

theorem ReadsBy.step (reads : ReadsBy environment source first calls cursor)
    {pager next : Pager σ} {answer : Except Fault (Option Page)}
    (atPager : cursor.pager = some pager)
    (stepped : pager.next environment world = (answer, next, reached))
    (atNext : after.pager = some next) (sameColumns : after.columns = cursor.columns)
    (buffered : after.buffer = cursor.buffer ++ answer.toOption.join.toList.flatMap (·.rows)) :
    ReadsBy environment source first (calls ++ reached.since world) after := by
  obtain ⟨same, taken, walking, isPager, turns, parts, begins, inPages⟩ := reads
  cases isPager.symm.trans atPager
  refine ⟨sameColumns.trans same, _, next, atNext, turns.next stepped, ?_, ?_, ?_⟩
  · rw [Pager.partsOf_concat, parts, List.filterMap_append]
    rfl
  · rw [Pager.partsOf_concat, List.head?_append, begins]
    rfl
  · rw [Pager.pagesOf_concat, List.flatMap_append, buffered]
    exact List.append_subset.mpr
      ⟨List.subset_append_of_subset_left _ inPages, List.subset_append_right _ _⟩

theorem carried_readsBy (fresh : source.columns = none) :
    Carried environment (ReadsBy (σ := σ) environment source first) where
  drawn _ fewer reads := by
    obtain ⟨same, taken, pager, isPager, turns, parts, begins, inPages⟩ := reads
    exact ⟨same, taken, pager, isPager, turns, parts, begins, List.Subset.trans fewer inPages⟩
  page {calls cursor pager next page world reached} reads atPager stepped := by
    refine reads.step atPager stepped rfl ?_ (congrArg _ (List.flatMap_singleton _ page).symm)
    obtain ⟨same, taken, walking, isPager, turns, parts, begins, -⟩ := reads
    cases isPager.symm.trans atPager
    have walked := (turns.next stepped).walked
    have member : page ∈ Pager.pagesOf (taken ++ [⟨.ok (some page), reached.since world⟩]) := by
      rw [Pager.pagesOf_concat]
      exact List.mem_append_right _ (List.mem_singleton_self page)
    obtain ⟨opening, others, whole, named⟩ := walked.first fresh member
    have sameFirst : opening = first := by
      have head := congrArg List.head? whole
      rw [Pager.partsOf_concat, List.head?_append, begins] at head
      exact (Option.some.inj head).symm
    change (if page.columns.isEmpty then cursor.columns else page.columns) = cursor.columns
    rw [named, sameFirst, same, ite_self]
  failed reads atPager stepped := reads.step atPager stepped rfl rfl (List.append_nil _).symm

theorem openResults_readsBy (fresh : source.columns = none)
    (opens : openResults environment (.direct source) cursor world = (.ok (), opened, reached)) :
    ∃ first, ReadsBy environment source first (reached.since world) opened := by
  obtain ⟨page, pager, stepped, rfl⟩ := openResults_cases opens
  have turns := Pager.Turns.nothing.next stepped
  obtain ⟨first, others, whole, named⟩ :=
    turns.walked.first fresh (List.mem_singleton_self page)
  refine ⟨first, named, _, pager, rfl, turns, List.append_nil _, ?_, ?_⟩
  · rw [whole, List.head?_cons]
  · exact (List.flatMap_singleton (·.rows) page).symm ▸ List.Subset.refl page.rows

def ReadsDirectly (cursor : Cursor σ) : Prop :=
  ∃ pager, cursor.pager = some pager ∧ pager.source.format = .direct

theorem readsBy_of_launch
    (launched : cursor.launch connection environment limit sql launch world =
      some (.ok (), opened, reached)) (direct : opened.ReadsDirectly) :
    ∃ source first, source.columns = none ∧ ∀ {later after},
      Fetched connection environment opened later after →
      ReadsBy environment source first (reached.since world ++ later) after := by
  obtain @⟨ready, inner, token, last, source, settled, middle, reached, settles, selected,
    isRecord, opens⟩ := opening_of_launch launched
  rcases selectSource_cases selected with ⟨file, rfl⟩ | ⟨source, rfl, fresh, rfl, -⟩
  · obtain ⟨page, pager, stepped, rfl⟩ := openResults_cases opens
    obtain ⟨other, atPager, isDirect⟩ := direct
    cases atPager
    rw [Pager.next_format stepped] at isDirect
    cases isDirect
  · obtain ⟨first, reads⟩ := openResults_readsBy fresh opens
    have begins : ReadsBy environment source first (reached.since world)
        { inner with state := .consumable } := by
      have leads := openResults_reads environment (.direct source) ready middle
      rw [opens] at leads
      have parts : (reached.since world).filterMap Sent.part? =
          (reached.since middle).filterMap Sent.part? := by
        rw [settles.leads.since_eq_append leads.leads, List.filterMap_append, settles.noParts,
          List.nil_append]
      obtain ⟨same, taken, pager, isPager, turns, allParts, begins, inPages⟩ := reads
      exact ⟨same, taken, pager, isPager, turns, allParts.trans parts.symm, begins, inPages⟩
    exact ⟨source, first, fresh, fun fetched => (carried_readsBy fresh).fetched begins fetched⟩

/-- The columns that the parts of a query's results give to the pages of a walk through them,
and to a cursor that reads its rows from them. -/
structure ColumnsOfFirst (connection : Connection) (environment : Environment σ) : Prop where
  /-- Each page has columns by the parts up to the one that it comes of. -/
  pages : ∀ {source : DirectSource} {taken : List Pager.Turn} {pager : Pager σ},
    source.columns = none → Pager.Turns environment { source := .direct source } taken pager →
    ∀ (count : Nat), ∀ page ∈ (Pager.pagesOf taken)[count]?,
      OfFirst ((Pager.partsOf taken).take (count + 1)) page.columns
  /-- A cursor has columns by the parts up to now. -/
  cursor : ∀ {limit sql launch cursor opened after} {world reached : World σ} {later},
    Cursor.launch connection environment limit sql launch cursor world =
      some (.ok (), opened, reached) → ReadsDirectly opened →
    Fetched connection environment opened later after →
    OfFirst ((reached.since world ++ later).filterMap Sent.part?) after.columns
  /-- A cursor reads the rows of all parts by the columns that it has had from the start. -/
  rows : ∀ {limit sql launch cursor opened after final} {world reached middle last : World σ}
    {later fetchLimit fetch rows},
    Cursor.launch connection environment limit sql launch cursor world =
      some (.ok (), opened, reached) → ReadsDirectly opened →
    Fetched connection environment opened later after →
    after.fetch connection environment fetchLimit fetch middle = some (.ok rows, final, last) →
    ∀ row ∈ rows, ∃ raw, Brought (reached.since world ++ later ++ last.since middle) raw ∧
      Column.castRow connection.sentinels opened.columns raw = .ok row

theorem columnsOfFirst (connection : Connection) (environment : Environment σ) :
    ColumnsOfFirst connection environment where
  pages fresh turns := turns.walked.ofFirst fresh
  cursor launched direct fetched := by
    obtain ⟨source, first, fresh, reads⟩ := readsBy_of_launch launched direct
    exact (reads fetched).ofFirst
  rows {limit sql launch cursor opened after final world reached middle last later fetchLimit
      fetch rows} launched direct fetched delivers := by
    obtain ⟨source, first, fresh, reads⟩ := readsBy_of_launch launched direct
    rcases fetch_cases delivers with ⟨misuse, refused, isRefusal, -, -⟩ | ⟨consumable, gathers⟩
    · cases isRefusal
    · rw [(reads .nothing).columns]
      exact (carried_readsBy fresh).rows ReadsBy.columns ReadsBy.brought (reads fetched) gathers rfl

/-! ### Columns named by the first part, and by the second one only -/

theorem columnsOfFirst_threePages :
    ∃ opened reached after last,
      Cursor.launch { config := {}, sentinels := {} } (Rehearsal.environment false default) 1
        "SELECT c FROM t" .own { token := ⟨0⟩, fetchSize := 1000 } succeedsAtOnce =
          some (.ok (), opened, reached) ∧
      ReadsDirectly opened ∧
      opened.fetch { config := {}, sentinels := {} } (Rehearsal.environment false default) 3
        (.many (some 3)) reached =
          some (.ok [[.text "a"], [.text "b"], [.text "c"]], after, last) ∧
      OfFirst ((reached.since succeedsAtOnce ++ ([] ++ last.since reached)).filterMap Sent.part?)
        after.columns := by
  have session : ∃ opened reached after last,
      Cursor.launch { config := {}, sentinels := {} } (Rehearsal.environment false default) 1
        "SELECT c FROM t" .own { token := ⟨0⟩, fetchSize := 1000 } succeedsAtOnce =
          some (.ok (), opened, reached) ∧
      ReadsDirectly opened ∧
      opened.fetch { config := {}, sentinels := {} } (Rehearsal.environment false default) 3
        (.many (some 3)) reached =
          some (.ok [[.text "a"], [.text "b"], [.text "c"]], after, last) :=
    ⟨_, _, _, _, rfl, ⟨_, rfl, rfl⟩, rfl⟩
  obtain ⟨opened, reached, after, last, launched, direct, fetched⟩ := session
  exact ⟨opened, reached, after, last, launched, direct, fetched,
    (columnsOfFirst _ _).cursor launched direct (.fetch .nothing fetched)⟩

/-- The first part has no rows and no columns. -/
def namedLater : List (Option String × ResultPart) :=
  [(none, { columns := [], rows := [], nextToken := some "2" }),
    (some "2", { columns := [.ofType "a" "integer"], rows := [[some "1"]], nextToken := none })]

def namedLaterWorld : World Rehearsal.Script :=
  { outside :=
      { submissions := [{ outcome := .ok "q1" }]
        statuses := [{ outcome := .ok { state := .succeeded } }]
        pages := namedLater }
    nextToken := 1 }

def behindUnnamed : Pager Rehearsal.Script × World Rehearsal.Script :=
  (Pager.next (Rehearsal.environment false default) { source := .direct Pager.namesakeSource }
    namedLaterWorld).2

/-- The column of the second part is on no page, and a cursor cannot read the row. -/
theorem namedLater_unused :
    (∃ taken pager,
      Pager.Turns (Rehearsal.environment false default) { source := .direct Pager.namesakeSource }
        taken pager ∧
      Pager.partsOf taken = namedLater.map Prod.snd ∧
      ResultPart.firstNamed (Pager.partsOf taken) = [.ofType "a" "integer"] ∧
      (Pager.pagesOf taken).map (·.columns) = [[], []]) ∧
    ∃ opened reached after last fault,
      Cursor.launch { config := {}, sentinels := {} } (Rehearsal.environment false default) 1
        "SELECT a FROM t" .own { token := ⟨0⟩, fetchSize := 1000 } namedLaterWorld =
          some (.ok (), opened, reached) ∧
      opened.fetch { config := {}, sentinels := {} } (Rehearsal.environment false default) 3 .one
        reached = some (.error fault, after, last) ∧ after.columns = [] := by
  refine ⟨?_, _, _, _, _, _, rfl, rfl, rfl⟩
  have first : Pager.next (Rehearsal.environment false default)
      { source := .direct Pager.namesakeSource } namedLaterWorld =
        (.ok (some _), behindUnnamed.1, behindUnnamed.2) := rfl
  have second : Pager.next (Rehearsal.environment false default) behindUnnamed.1
      behindUnnamed.2 = (.ok (some _), _, _) := rfl
  exact ⟨_, _, (Pager.Turns.nothing.next first).next second, rfl, rfl, rfl⟩

end Cursor

end RemoteQuery
