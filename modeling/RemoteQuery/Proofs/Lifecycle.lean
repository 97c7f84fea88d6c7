import RemoteQuery.Execution

/-! # The life of a record

A record begins when its query is submitted. News, counts of changed rows and failures that
the engine notes can follow each other in any way, and anything can come behind the query's
end. What a record says about the query itself never changes, its counters only grow, and
its end is final.
-/

namespace RemoteQuery

open Calendar (Instant)

/-! ## Greatest counts -/

private theorem maxCount_of_le {left right : UInt64} (less : right ≤ left) :
    max left right = left := by
  change (if left ≤ right then right else left) = left
  split
  · rename_i greater
    exact UInt64.le_antisymm less greater
  · rfl

private theorem maxCount_of_not_le {left right : UInt64} (greater : ¬right ≤ left) :
    max left right = right := by
  change (if left ≤ right then right else left) = right
  exact if_pos ((UInt64.le_total left right).resolve_right greater)

instance lawfulMaxCount : Std.LawfulOrderLeftLeaningMax UInt64 where
  max_eq_left _ _ := maxCount_of_le
  max_eq_right _ _ := maxCount_of_not_le

def greatestCount (counts : List UInt64) : UInt64 :=
  counts.max?.getD 0

theorem foldl_max_zero (counts : List UInt64) : counts.foldl max 0 = greatestCount counts := by
  rw [List.foldl_max]
  exact if_pos UInt64.zero_le

namespace Execution

/-! ## Changes -/

inductive Change where
  | news (status : Status) (now : Instant)
  | changedRows (count : UInt64)
  | failure (message : String) (now : Instant)

def change (execution : Execution) : Change → Execution
  | .news status now => execution.applyStatus status now
  | .changedRows count => execution.recordUpdateCount count
  | .failure message now => execution.markFailed message now

def changed (changes : List Change) (execution : Execution) : Execution :=
  changes.foldl change execution

/-- The news that a change brings to a record whose query has not ended. -/
def heard (execution : Execution) : Change → Option Status
  | .news status _ => if execution.isTerminal then none else some status
  | .changedRows _ | .failure _ _ => none

def allHeard : List Change → Execution → List Status
  | [], _ => []
  | next :: rest, execution =>
      (execution.heard next).toList ++ allHeard rest (execution.change next)

variable {execution earlier middle later : Execution}

@[simp] theorem changed_nil : execution.changed [] = execution := rfl

@[simp] theorem changed_cons (next : Change) (rest : List Change) :
    execution.changed (next :: rest) = (execution.change next).changed rest := rfl

theorem changed_append (left right : List Change) :
    execution.changed (left ++ right) = (execution.changed left).changed right :=
  List.foldl_append

/-! ## What the past settles -/

structure Continues (earlier later : Execution) : Prop where
  queryId : later.queryId = earlier.queryId
  sql : later.sql = earlier.sql
  database : later.database = earlier.database
  catalog : later.catalog = earlier.catalog
  submittedAt : later.submittedAt = earlier.submittedAt
  elapsedMillis : earlier.elapsedMillis ≤ later.elapsedMillis
  scannedBytes : earlier.scannedBytes ≤ later.scannedBytes
  updateCount : ∀ count, earlier.updateCount = some count →
    ∃ more, later.updateCount = some more ∧ count ≤ more
  final : earlier.isTerminal = true →
    later.state = earlier.state ∧ later.errorMessage = earlier.errorMessage ∧
      later.completedAt = earlier.completedAt ∧
      later.elapsedMillis = earlier.elapsedMillis ∧ later.scannedBytes = earlier.scannedBytes
  /-- Behind the end, a location can only be filled in, and only once. -/
  location : earlier.isTerminal = true →
    earlier.location = none ∨ later.location = earlier.location

namespace Continues

theorem refl (execution : Execution) : execution.Continues execution where
  queryId := rfl
  sql := rfl
  database := rfl
  catalog := rfl
  submittedAt := rfl
  elapsedMillis := UInt64.le_refl _
  scannedBytes := UInt64.le_refl _
  updateCount count known := ⟨count, known, UInt64.le_refl _⟩
  final _ := ⟨rfl, rfl, rfl, rfl, rfl⟩
  location _ := .inr rfl

theorem isTerminal (continues : earlier.Continues later) (ended : earlier.isTerminal = true) :
    later.isTerminal = true := by
  rw [Execution.isTerminal, (continues.final ended).1]
  exact ended

theorem trans (left : earlier.Continues middle) (right : middle.Continues later) :
    earlier.Continues later where
  queryId := right.queryId.trans left.queryId
  sql := right.sql.trans left.sql
  database := right.database.trans left.database
  catalog := right.catalog.trans left.catalog
  submittedAt := right.submittedAt.trans left.submittedAt
  elapsedMillis := UInt64.le_trans left.elapsedMillis right.elapsedMillis
  scannedBytes := UInt64.le_trans left.scannedBytes right.scannedBytes
  updateCount count known := by
    rcases left.updateCount count known with ⟨more, knownStill, grows⟩
    rcases right.updateCount more knownStill with ⟨most, knownLater, growsOn⟩
    exact ⟨most, knownLater, UInt64.le_trans grows growsOn⟩
  final ended := by
    rcases left.final ended with ⟨state, message, time, elapsed, scanned⟩
    rcases right.final (left.isTerminal ended) with
      ⟨stateStill, messageStill, timeStill, elapsedStill, scannedStill⟩
    exact ⟨stateStill.trans state, messageStill.trans message, timeStill.trans time,
      elapsedStill.trans elapsed, scannedStill.trans scanned⟩
  location ended := by
    rcases left.location ended with missing | same
    · exact .inl missing
    · rcases right.location (left.isTerminal ended) with missing | sameStill
      · exact .inl (same ▸ missing)
      · exact .inr (sameStill.trans same)

end Continues

private theorem le_greatest (count known : UInt64) : known ≤ greatest count (some known) :=
  Std.left_le_max

private theorem continues_advance (undecided : execution.isTerminal = false) (status : Status)
    (now : Instant) : execution.Continues (execution.advance status now) where
  queryId := rfl
  sql := rfl
  database := rfl
  catalog := rfl
  submittedAt := rfl
  elapsedMillis := Std.left_le_max
  scannedBytes := Std.left_le_max
  updateCount count known := by
    rw [advance, known]
    cases status.updateCount with
    | none => exact ⟨count, rfl, UInt64.le_refl _⟩
    | some more => exact ⟨_, rfl, le_greatest more count⟩
  final ended := absurd ended (by simp [undecided])
  location ended := absurd ended (by simp [undecided])

theorem continues_applyStatus (status : Status) (now : Instant) :
    execution.Continues (execution.applyStatus status now) := by
  unfold applyStatus
  split
  · refine { Continues.refl execution with location := fun _ => ?_ }
    cases execution.location with
    | none => exact .inl rfl
    | some location => exact .inr rfl
  · rename_i undecided
    exact continues_advance (eq_false_of_ne_true undecided) status now

theorem continues_recordUpdateCount (count : UInt64) :
    execution.Continues (execution.recordUpdateCount count) :=
  { Continues.refl execution with
    updateCount := fun known same => by
      rw [recordUpdateCount, same]
      exact ⟨_, rfl, le_greatest count known⟩ }

theorem continues_markFailed (message : String) (now : Instant) :
    execution.Continues (execution.markFailed message now) := by
  unfold markFailed
  split
  · exact .refl execution
  · rename_i undecided
    exact { Continues.refl execution with
      final := fun ended => absurd ended undecided
      location := fun ended => absurd ended undecided }

theorem continues_change (execution : Execution) (next : Change) :
    execution.Continues (execution.change next) := by
  cases next with
  | news status now => exact continues_applyStatus status now
  | changedRows count => exact continues_recordUpdateCount count
  | failure message now => exact continues_markFailed message now

theorem continues_changed (changes : List Change) (execution : Execution) :
    execution.Continues (execution.changed changes) := by
  induction changes generalizing execution with
  | nil => exact .refl execution
  | cons next rest induction => exact (continues_change execution next).trans (induction _)

/-! ## The time of the end -/

def EndsInTime (execution : Execution) : Prop :=
  execution.completedAt.isSome = execution.isTerminal

theorem EndsInTime.change (inTime : execution.EndsInTime) (next : Change) :
    (execution.change next).EndsInTime := by
  unfold EndsInTime at inTime ⊢
  cases next with
  | news status now =>
      simp only [Execution.change, applyStatus]
      split
      · exact inTime
      · rename_i undecided
        rw [eq_false_of_ne_true undecided] at inTime
        simp only [advance, isTerminal]
        cases status.state.isTerminal with
        | true => rfl
        | false => exact inTime
  | changedRows count => exact inTime
  | failure message now =>
      simp only [Execution.change, markFailed]
      split
      · exact inTime
      · rfl

theorem EndsInTime.changed (inTime : execution.EndsInTime) (changes : List Change) :
    (execution.changed changes).EndsInTime := by
  induction changes generalizing execution with
  | nil => exact inTime
  | cons next rest induction => exact induction (inTime.change next)

/-! ## Counters -/

def Counts (counter : Execution → UInt64) (told : Status → Option UInt64) : Prop :=
  ∀ (execution : Execution) (next : Change), counter (execution.change next) =
    ((execution.heard next).bind told).toList.foldl max (counter execution)

theorem Counts.changed {counter : Execution → UInt64} {told : Status → Option UInt64}
    (counts : Counts counter told) (changes : List Change) (execution : Execution) :
    counter (execution.changed changes) =
      ((allHeard changes execution).filterMap told).foldl max (counter execution) := by
  induction changes generalizing execution with
  | nil => rfl
  | cons next rest induction =>
      rw [changed_cons, induction, counts, allHeard, List.filterMap_append,
        List.foldl_append]
      congr 1
      cases execution.heard next with
      | none => rfl
      | some status => cases heard : told status <;> simp [heard]

private theorem max_getD_zero (count : UInt64) (told : Option UInt64) :
    max count (told.getD 0) = told.toList.foldl max count := by
  cases told with
  | none => exact Std.LawfulOrderLeftLeaningMax.max_eq_left _ _ UInt64.zero_le
  | some more => rfl

private theorem counts_of_advance {counter : Execution → UInt64}
    {told : Status → Option UInt64}
    (advances : ∀ execution status now,
      counter (advance status now execution) = max (counter execution) ((told status).getD 0))
    (relocates : ∀ (execution : Execution) location,
      counter { execution with location } = counter execution)
    (recounts : ∀ (execution : Execution) updateCount,
      counter { execution with updateCount } = counter execution)
    (fails : ∀ (execution : Execution) state errorMessage completedAt,
      counter { execution with state, errorMessage, completedAt } = counter execution) :
    Counts counter told := by
  intro execution next
  cases next with
  | news status now =>
      simp only [change, applyStatus, heard]
      split
      · exact relocates execution _
      · rw [advances, max_getD_zero]
        rfl
  | changedRows count => exact recounts execution _
  | failure message now =>
      simp only [change, markFailed, heard]
      split
      · rfl
      · exact fails execution _ _ _

theorem counts_elapsedMillis : Counts (·.elapsedMillis) (·.elapsedMillis) :=
  counts_of_advance (fun _ _ _ => rfl) (fun _ _ => rfl) (fun _ _ => rfl) fun _ _ _ _ => rfl

theorem counts_scannedBytes : Counts (·.scannedBytes) (·.bytesScanned) :=
  counts_of_advance (fun _ _ _ => rfl) (fun _ _ => rfl) (fun _ _ => rfl) fun _ _ _ _ => rfl

/-! ## Any two moments -/

/-- What holds of a record at two moments of its life: behind some changes, and behind
further ones. -/
structure Lives (fresh : Execution) (before further : List Change) : Prop where
  continues : (fresh.changed before).Continues (fresh.changed (before ++ further))
  endsInTime : (fresh.changed before).completedAt.isSome = (fresh.changed before).isTerminal
  elapsedMillis : (fresh.changed before).elapsedMillis =
    greatestCount ((allHeard before fresh).filterMap (·.elapsedMillis))
  scannedBytes : (fresh.changed before).scannedBytes =
    greatestCount ((allHeard before fresh).filterMap (·.bytesScanned))

/-- Whatever changes follow the submission of a query, its record keeps what it says about
the query, its counters are the greatest that were told before the query's end, and the end
is final. -/
theorem changed_lives (queryId sql database catalog : String) (submittedAt : Instant)
    (before further : List Change) :
    Lives { queryId, sql, database, catalog, submittedAt } before further where
  continues := by
    rw [changed_append]
    exact continues_changed further _
  endsInTime := by
    have inTime : EndsInTime { queryId, sql, database, catalog, submittedAt } := rfl
    exact inTime.changed before
  elapsedMillis := by
    rw [counts_elapsedMillis.changed, foldl_max_zero]
  scannedBytes := by
    rw [counts_scannedBytes.changed, foldl_max_zero]

end Execution

end RemoteQuery
