import RemoteQuery.Proofs.Cursor.Rows
import RemoteQuery.Proofs.Retry.Calls

/-! # What fetches carry on

Whatever the pages of a walk keep, together with the calls that are made for them, all fetches
of a cursor keep.
-/

namespace RemoteQuery.Cursor

variable {σ : Type}

def Brought (calls : List Sent) (raw : RawRow) : Prop :=
  ∃ part ∈ calls.filterMap Sent.part?, raw ∈ part.rows

theorem Brought.append {calls : List Sent} {raw : RawRow} (brought : Brought calls raw)
    (later : List Sent) : Brought (calls ++ later) raw := by
  obtain ⟨part, member, isRow⟩ := brought
  rw [Brought, List.filterMap_append]
  exact ⟨part, List.mem_append_left _ member, isRow⟩

section

variable (connection : Connection) (environment : Environment σ)

/-- Fetches one after the other, whatever they answer, and the calls that are made for them.
Whatever happens in the world between two fetches. -/
inductive Fetched (opened : Cursor σ) : List Sent → Cursor σ → Prop
  | nothing : Fetched opened [] opened
  | fetch {calls : List Sent} {cursor after : Cursor σ} {world reached : World σ} {limit : Nat}
      {fetch : Fetch} {answer : Delivery} (earlier : Fetched opened calls cursor)
      (fetched : cursor.fetch connection environment limit fetch world =
        some (answer, after, reached)) :
      Fetched opened (calls ++ reached.since world) after

/-- What holds of a cursor and the calls made for it whenever a page has been asked for, and
neither rows that leave the buffer nor the state matter to. -/
structure Carried (Holds : List Sent → Cursor σ → Prop) : Prop where
  drawn {calls : List Sent} {cursor : Cursor σ} {buffer : List RawRow} (state : CursorState)
    (fewer : buffer ⊆ cursor.buffer) (holds : Holds calls cursor) :
    Holds calls { cursor with buffer, state }
  page {calls : List Sent} {cursor : Cursor σ} {pager next : Pager σ} {page : Page}
    {world reached : World σ} (holds : Holds calls cursor) (atPager : cursor.pager = some pager)
    (stepped : pager.next environment world = (.ok (some page), next, reached)) :
    Holds (calls ++ reached.since world) (cursor.takePage page next)
  failed {calls : List Sent} {cursor : Cursor σ} {pager next : Pager σ} {fault : Fault}
    {world reached : World σ} (holds : Holds calls cursor) (atPager : cursor.pager = some pager)
    (stepped : pager.next environment world = (.error fault, next, reached)) :
    Holds (calls ++ reached.since world) { cursor with pager := some next, state := .failed }

end

namespace Carried

variable {connection : Connection} {environment : Environment σ}
  {Holds : List Sent → Cursor σ → Prop} {calls : List Sent} {cursor after : Cursor σ}
  {world reached : World σ}

theorem loads {answer : Except Fault Bool} (carried : Carried environment Holds)
    (holds : Holds calls cursor)
    (loads : Loads environment cursor world answer after reached) :
    Holds (calls ++ reached.since world) after := by
  cases loads with
  | withoutPager missing | behindLast atPager exhausted =>
      rw [World.since_self, List.append_nil]
      exact holds
  | page atPager stepped => exact carried.page holds atPager stepped
  | failed atPager stepped => exact carried.failed holds atPager stepped

theorem finds {answer : Except Fault (Option Row)} (carried : Carried environment Holds)
    (holds : Holds calls cursor)
    (finds : Finds connection environment cursor world answer after reached) :
    Holds (calls ++ reached.since world) after := by
  induction finds generalizing calls with
  | @row cursor world raw rest values buffered cast =>
      rw [World.since_self, List.append_nil]
      exact carried.drawn cursor.state (buffered ▸ List.subset_cons_self raw rest) holds
  | @badRow cursor world raw rest fault buffered cast =>
      rw [World.since_self, List.append_nil]
      exact carried.drawn .failed (buffered ▸ List.subset_cons_self raw rest) holds
  | nothing empty loads | badPage empty loads => exact carried.loads holds loads
  | page empty loads rest induction =>
      rw [loads.preserves.leads.since_eq_append rest.preserves.leads, ← List.append_assoc]
      exact induction (carried.loads holds loads)

/-- Where certain columns are carried on, and rows that were brought, a row is read from one of
these by the columns. -/
theorem row {columns : List Column} {answer : Except Fault (Option Row)} {row : Row}
    (carried : Carried environment Holds)
    (columned : ∀ {calls cursor}, Holds calls cursor → cursor.columns = columns)
    (brought : ∀ {calls cursor}, Holds calls cursor → ∀ raw ∈ cursor.buffer, Brought calls raw)
    (holds : Holds calls cursor)
    (finds : Finds connection environment cursor world answer after reached)
    (found : answer = .ok (some row)) :
    ∃ raw, Brought (calls ++ reached.since world) raw ∧
      Column.castRow connection.sentinels columns raw = .ok row := by
  induction finds generalizing calls with
  | @row cursor world raw rest values buffered cast =>
      cases found
      have member : raw ∈ cursor.buffer := by
        rw [buffered]
        exact List.mem_cons_self
      rw [columned holds] at cast
      rw [World.since_self, List.append_nil]
      exact ⟨raw, brought holds raw member, cast⟩
  | badRow buffered cast | nothing empty loads | badPage empty loads => cases found
  | page empty loads rest induction =>
      rw [loads.preserves.leads.since_eq_append rest.preserves.leads, ← List.append_assoc]
      exact induction (carried.loads holds loads) found

theorem gathers {wants : Nat → Prop} {answer : Delivery} (carried : Carried environment Holds)
    (holds : Holds calls cursor)
    (gathers : Gathers connection environment wants cursor world answer after reached) :
    Holds (calls ++ reached.since world) after := by
  induction gathers generalizing calls with
  | enough unasked =>
      rw [World.since_self, List.append_nil]
      exact holds
  | ended asked finds | failed asked finds => exact carried.finds holds finds
  | row asked finds rest induction =>
      rw [finds.preserves.leads.since_eq_append rest.preserves.leads, ← List.append_assoc]
      exact induction (carried.finds holds finds)

theorem fetch {limit : Nat} {fetch : Fetch} {answer : Delivery}
    (carried : Carried environment Holds) (holds : Holds calls cursor)
    (fetched : cursor.fetch connection environment limit fetch world =
      some (answer, after, reached)) : Holds (calls ++ reached.since world) after := by
  rcases fetch_cases fetched with ⟨misuse, refused, rfl, rfl, rfl⟩ | ⟨consumable, gathers⟩
  · rw [World.since_self, List.append_nil]
    exact holds
  · exact carried.gathers holds gathers

theorem rows {columns : List Column} {wants : Nat → Prop} {answer : Delivery} {rows : List Row}
    (carried : Carried environment Holds)
    (columned : ∀ {calls cursor}, Holds calls cursor → cursor.columns = columns)
    (brought : ∀ {calls cursor}, Holds calls cursor → ∀ raw ∈ cursor.buffer, Brought calls raw)
    (holds : Holds calls cursor)
    (gathers : Gathers connection environment wants cursor world answer after reached)
    (delivered : answer = .ok rows) :
    ∀ row ∈ rows, ∃ raw, Brought (calls ++ reached.since world) raw ∧
      Column.castRow connection.sentinels columns raw = .ok row := by
  induction gathers generalizing calls rows with
  | enough unasked | ended asked finds =>
      cases delivered
      intro row member
      cases member
  | failed asked finds => cases delivered
  | @row wants cursor next after world middle reached row answer asked finds rest induction =>
      cases answer with
      | error fault => cases delivered
      | ok others =>
          obtain rfl : row :: others = rows := Except.ok.inj delivered
          have others := induction (carried.finds holds finds) rfl
          obtain ⟨raw, known, cast⟩ := carried.row columned brought holds finds rfl
          rw [finds.preserves.leads.since_eq_append rest.preserves.leads, ← List.append_assoc]
          exact List.forall_mem_cons.mpr ⟨⟨raw, known.append _, cast⟩, others⟩

theorem fetched {later : List Sent} (carried : Carried environment Holds)
    (holds : Holds calls cursor) (fetched : Fetched connection environment cursor later after) :
    Holds (calls ++ later) after := by
  induction fetched with
  | nothing =>
      rw [List.append_nil]
      exact holds
  | fetch earlier here induction =>
      rw [← List.append_assoc]
      exact carried.fetch induction here

end Carried

end RemoteQuery.Cursor
