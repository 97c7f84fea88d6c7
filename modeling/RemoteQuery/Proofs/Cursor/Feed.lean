import RemoteQuery.Proofs.Cursor.Session

/-! # Feeds

The pages of a source, read one after the other, make up a feed: their rows, each cast
with its columns, and a failure behind them if the pages end with one. Requests take rows
from the front of a feed.
-/

namespace RemoteQuery

variable {σ : Type}

/-! ## Feeds -/

/-- All pages of a walk that ends after less than `limit` of them, with the failure that
ends it, unless it ends behind the last page. -/
def Pager.readAll (environment : Environment σ) :
    (limit : Nat) → Pager σ → World σ → Option (List Page × Option Fault)
  | 0, _, _ => none
  | limit + 1, pager, world =>
      match pager.next environment world with
      | (.ok none, _, _) => some ([], none)
      | (.error fault, _, _) => some ([], some fault)
      | (.ok (some page), pager, world) =>
          (readAll environment limit pager world).map fun (pages, ending) =>
            (page :: pages, ending)

/-- The rows of pages, each cast with the columns of its page. A page that has none has
the latest columns before it. -/
def castPages (sentinels : Sentinels) : List Column → List Page → List (Except Fault Row)
  | _, [] => []
  | columns, page :: rest =>
      let columns := if page.columns.isEmpty then columns else page.columns
      page.rows.map (Column.castRow sentinels columns) ++ castPages sentinels columns rest

/-- Rows that are to be handed out, some of which may turn out to be faults, and the fault
behind them, if there is one. -/
structure Feed where
  rows : List (Except Fault Row)
  ending : Option Fault

namespace Feed

def ofPages (sentinels : Sentinels) (pages : List Page) (ending : Option Fault) : Feed :=
  { rows := castPages sentinels [] pages, ending }

def items (feed : Feed) : List (Except Fault Row) :=
  feed.rows ++ feed.ending.toList.map .error

def drop (count : Nat) (feed : Feed) : Feed :=
  { feed with rows := feed.rows.drop count }

def Fails (feed : Feed) (wants : Nat → Prop) (fault : Fault) : Prop :=
  ∃ before, wants before ∧ feed.items[before]? = some (.error fault) ∧
    ∀ earlier < before, ∃ row, feed.items[earlier]? = some (.ok row)

/-- The right answer to someone who wants certain rows: the fault that is in the way, if
there is one, otherwise those rows, and fewer only where the feed ends. -/
structure Served (feed : Feed) (wants : Nat → Prop) (answer : Delivery) : Prop where
  failed_iff : ∀ fault, answer = .error fault ↔ feed.Fails wants fault
  rows : ∀ rows, answer = .ok rows →
    rows.map .ok <+: feed.rows ∧ (∀ before < rows.length, wants before) ∧
      (wants rows.length → rows.length = feed.rows.length ∧ feed.ending = none)

/-! ## One request -/

inductive Serves (wants : Nat → Prop) : Feed → Delivery → Option Feed → Prop
  | rows {rows : List Row} {rest : List (Except Fault Row)} {ending : Option Fault}
      (asked : ∀ before < rows.length, wants before)
      (whole : wants rows.length → rest = [] ∧ ending = none) :
      Serves wants ⟨rows.map .ok ++ rest, ending⟩ (.ok rows) (some ⟨rest, ending⟩)
  | fault {feed : Feed} {rows : List Row} {fault : Fault} {rest : List (Except Fault Row)}
      (asked : wants rows.length)
      (reached : feed.items = rows.map .ok ++ .error fault :: rest) :
      Serves wants feed (.error fault) none

inductive Draws : Feed → Except Fault (Option Row) → Option Feed → Prop
  | row {row : Row} {rest : List (Except Fault Row)} {ending : Option Fault} :
      Draws ⟨.ok row :: rest, ending⟩ (.ok (some row)) (some ⟨rest, ending⟩)
  | badRow {fault : Fault} {rest : List (Except Fault Row)} {ending : Option Fault} :
      Draws ⟨.error fault :: rest, ending⟩ (.error fault) none
  | nothing : Draws ⟨[], none⟩ (.ok none) (some ⟨[], none⟩)
  | broken {fault : Fault} : Draws ⟨[], some fault⟩ (.error fault) none

variable {wants : Nat → Prop} {feed next : Feed} {left : Option Feed}

theorem Draws.serves_error {fault : Fault} (draws : feed.Draws (.error fault) left)
    (asked : wants 0) : feed.Serves wants (.error fault) left := by
  cases draws with
  | badRow => exact @Serves.fault wants _ [] fault _ asked rfl
  | broken => exact @Serves.fault wants _ [] fault [] asked rfl

theorem Draws.serves_none (draws : feed.Draws (.ok none) left) :
    feed.Serves wants (.ok []) left := by
  cases draws with
  | nothing =>
      exact @Serves.rows wants [] [] none (fun _ short => nomatch short)
        fun _ => ⟨rfl, rfl⟩

theorem serves_of_not_wants (unasked : ¬wants 0) :
    feed.Serves wants (.ok []) (some feed) :=
  @Serves.rows wants [] feed.rows feed.ending (fun _ short => nomatch short)
    fun asked => absurd asked unasked

theorem Draws.serves_some {row : Row} {answer : Delivery}
    (draws : feed.Draws (.ok (some row)) (some next)) (asked : wants 0)
    (serves : next.Serves (fun before => wants (before + 1)) answer left) :
    feed.Serves wants (answer.map (row :: ·)) left := by
  cases draws with
  | row =>
      cases serves with
      | @rows rows rest ending askedRest whole =>
          refine @Serves.rows wants (row :: rows) _ _ ?_ whole
          intro before within
          cases before with
          | zero => exact asked
          | succ before => exact askedRest before (Nat.lt_of_succ_lt_succ within)
      | @fault feed rows fault rest askedRest reached =>
          refine @Serves.fault wants _ (row :: rows) _ rest askedRest ?_
          exact congrArg (.ok row :: ·) reached

private theorem lt_of_error {rows : List Row} {rest : List (Except Fault Row)}
    {index : Nat} {fault : Fault}
    (reached : (rows.map .ok ++ rest)[index]? = some (.error fault)) :
    rows.length ≤ index := by
  by_cases within : index < rows.length
  · rw [List.getElem?_append_left (by simpa using within)] at reached
    simp at reached
  · exact Nat.le_of_not_lt within

theorem Serves.served {answer : Delivery}
    (closed : ∀ earlier later, earlier ≤ later → wants later → wants earlier)
    (serves : feed.Serves wants answer left) : feed.Served wants answer := by
  cases serves with
  | @rows rows rest ending asked whole =>
      constructor
      · intro fault
        refine iff_of_false (fun wrong => by cases wrong) ?_
        rintro ⟨before, wanted, reached, -⟩
        rw [items, List.append_assoc] at reached
        have behind := lt_of_error reached
        rcases whole (closed _ _ behind wanted) with ⟨rfl, rfl⟩
        rw [List.getElem?_append_right (by simpa using behind)] at reached
        simp at reached
      · intro given same
        cases same
        refine ⟨List.prefix_append _ _, asked, fun wanted => ?_⟩
        rcases whole wanted with ⟨rfl, rfl⟩
        simp
  | @fault feed rows fault rest asked reached =>
      have first : feed.items[rows.length]? = some (.error fault) := by
        rw [reached, List.getElem?_append_right (by simp)]
        simp
      have fine : ∀ earlier < rows.length, ∃ row, feed.items[earlier]? = some (.ok row) := by
        intro earlier within
        refine ⟨rows[earlier], ?_⟩
        rw [reached, List.getElem?_append_left (by simpa using within)]
        simp [within]
      constructor
      · intro other
        constructor
        · intro same
          cases same
          exact ⟨rows.length, asked, first, fine⟩
        · rintro ⟨before, wanted, reachedToo, fineToo⟩
          have behind : rows.length ≤ before := by
            rw [reached] at reachedToo
            exact lt_of_error reachedToo
          have same : before = rows.length := by
            refine Nat.le_antisymm (Nat.le_of_not_lt fun further => ?_) behind
            rcases fineToo rows.length further with ⟨row, isRow⟩
            rw [first] at isRow
            cases isRow
          rw [same, first] at reachedToo
          cases reachedToo
          rfl
      · intro given same
        cases same

/-! ## Many requests -/

def handedOut (answers : List Delivery) : List Row :=
  answers.flatMap fun answer =>
    match answer with
    | .ok rows => rows
    | .error _ => []

/-- The right answers to requests one after the other: together they hand out the feed from
the front; each is right for what those before it have left, and after a failure every
request is refused. -/
structure Delivered (fetchSize : UInt64) (feed : Feed) (fetches : List Fetch)
    (answers : List Delivery) : Prop where
  answered : answers.length = fetches.length
  inOrder : (handedOut answers).map .ok <+: feed.rows
  served : ∀ index fetch answer, fetches[index]? = some fetch → answers[index]? = some answer →
    (∀ earlier ∈ answers.take index, ∃ rows, earlier = .ok rows) →
    (feed.drop (handedOut (answers.take index)).length).Served (fetch.Wants fetchSize) answer
  refused : ∀ index answer fault, answers[index]? = some answer →
    .error fault ∈ answers.take index → answer = .error Misuse.lastExecutionFailed.fault

inductive Runs (fetchSize : UInt64) : Feed → List Fetch → List Delivery → Prop
  | done {feed : Feed} : Runs fetchSize feed [] []
  | served {feed next : Feed} {fetch : Fetch} {rest : List Fetch} {rows : List Row}
      {later : List Delivery}
      (serves : feed.Serves (fetch.Wants fetchSize) (.ok rows) (some next))
      (runs : Runs fetchSize next rest later) :
      Runs fetchSize feed (fetch :: rest) (.ok rows :: later)
  | failed {feed : Feed} {fetch : Fetch} {rest : List Fetch} {fault : Fault}
      (serves : feed.Serves (fetch.Wants fetchSize) (.error fault) none) :
      Runs fetchSize feed (fetch :: rest)
        (.error fault :: rest.map fun _ => .error Misuse.lastExecutionFailed.fault)

theorem wants_closed (fetchSize : UInt64) (fetch : Fetch) (earlier later : Nat)
    (sooner : earlier ≤ later) (wanted : fetch.Wants fetchSize later) :
    fetch.Wants fetchSize earlier := by
  cases fetch with
  | one => exact Nat.lt_of_le_of_lt sooner wanted
  | many size => exact Nat.lt_of_le_of_lt sooner wanted
  | all => trivial

@[simp] theorem handedOut_nil : handedOut [] = [] := rfl

@[simp] theorem handedOut_cons_ok (rows : List Row) (later : List Delivery) :
    handedOut (.ok rows :: later) = rows ++ handedOut later := rfl

@[simp] theorem handedOut_cons_error (fault : Fault) (later : List Delivery) :
    handedOut (.error fault :: later) = handedOut later := rfl

@[simp] theorem handedOut_refusals (fetches : List Fetch) (fault : Fault) :
    handedOut (fetches.map fun _ => .error fault) = [] := by
  induction fetches with
  | nil => rfl
  | cons fetch rest induction => rw [List.map_cons, handedOut_cons_error, induction]

private theorem Serves.delivered {fetchSize : UInt64} {fetch : Fetch} {rest : List Fetch}
    {rows : List Row} {later : List Delivery}
    (serves : feed.Serves (fetch.Wants fetchSize) (.ok rows) (some next))
    (delivered : next.Delivered fetchSize rest later) :
    feed.Delivered fetchSize (fetch :: rest) (.ok rows :: later) := by
  have right := serves.served (wants_closed fetchSize fetch)
  have behind : next = feed.drop rows.length := by
    cases serves with
    | rows asked whole => simp [drop]
  have before : feed.rows = rows.map .ok ++ next.rows := by
    cases serves with
    | rows asked whole => rfl
  constructor
  · simp [delivered.answered]
  · rw [handedOut_cons_ok, List.map_append, before]
    exact (List.prefix_append_right_inj _).mpr delivered.inOrder
  · intro index given answer asked answered fine
    cases index with
    | zero =>
        cases asked
        cases answered
        exact right
    | succ index =>
        have rightLater := delivered.served index given answer asked answered
          fun earlier member => fine earlier (List.mem_cons_of_mem _ member)
        rw [behind] at rightLater
        simpa [drop, List.drop_drop, Nat.add_comm] using rightLater
  · intro index answer fault answered failed
    cases index with
    | zero => cases failed
    | succ index =>
        rcases List.mem_cons.mp failed with same | failed
        · cases same
        · exact delivered.refused index answer fault answered failed

private theorem Serves.delivered_refusals {fetchSize : UInt64} {fetch : Fetch}
    {rest : List Fetch} {fault : Fault}
    (serves : feed.Serves (fetch.Wants fetchSize) (.error fault) none) :
    feed.Delivered fetchSize (fetch :: rest)
      (.error fault :: rest.map fun _ => .error Misuse.lastExecutionFailed.fault) := by
  constructor
  · simp
  · rw [handedOut_cons_error, handedOut_refusals]
    exact List.nil_prefix
  · intro index given answer asked answered fine
    cases index with
    | zero =>
        cases asked
        cases answered
        exact serves.served (wants_closed fetchSize fetch)
    | succ index =>
        rcases fine _ List.mem_cons_self with ⟨rows, wrong⟩
        cases wrong
  · intro index answer other answered failed
    cases index with
    | zero => cases failed
    | succ index =>
        rw [List.getElem?_cons_succ, List.getElem?_map, Option.map_eq_some_iff] at answered
        rcases answered with ⟨_, -, same⟩
        exact same.symm

theorem Runs.delivered {fetchSize : UInt64} {fetches : List Fetch} {answers : List Delivery}
    (runs : feed.Runs fetchSize fetches answers) :
    feed.Delivered fetchSize fetches answers := by
  induction runs with
  | done => constructor <;> simp
  | served serves runs induction => exact serves.delivered induction
  | failed serves => exact serves.delivered_refusals

end Feed

end RemoteQuery
