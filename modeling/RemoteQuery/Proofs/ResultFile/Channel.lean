import RemoteQuery.ResultFile.Reading

/-! # Batches on their way

One task parses a file and puts its batches into a channel, another one takes them out. The
channel has room for a few batches only, so each task may have to wait for the other. In
whatever order the two go on, the batches that are taken out are those of the file.
-/

namespace RemoteQuery.ResultFile

/-! ## The parser -/

inductive Parser where
  /-- Rows wait for more of them, the last first. The others are not read yet. -/
  | reading (waiting unread : List RawRow)
  /-- A batch is to be put into the channel. Behind it the parser goes on, or ends. -/
  | sending (batch : Batch) (unread : Option (List RawRow))
  | ended

namespace Parser

def read (size : Nat) (failure : Option String) (waiting : List RawRow) :
    List RawRow → Parser
  | row :: unread =>
      if size ≤ waiting.length + 1 then .sending (.ok (row :: waiting).reverse) (some unread)
      else .reading (row :: waiting) unread
  | [] =>
      match failure with
      | some message => .sending (.error (.resultFile message)) none
      | none => if waiting.isEmpty then .ended else .sending (.ok waiting.reverse) none

def behind : Option (List RawRow) → Parser
  | some unread => .reading [] unread
  | none => .ended

def toCome (size : Nat) (failure : Option String) : Parser → List Batch
  | .reading waiting unread => batchesFrom size failure waiting unread
  | .sending batch (some unread) => batch :: batchesFrom size failure [] unread
  | .sending batch none => [batch]
  | .ended => []

/-- A bound on the steps that are left. -/
def work : Parser → Nat
  | .reading _ unread => 2 * unread.length + 2
  | .sending _ (some unread) => 2 * unread.length + 3
  | .sending _ none => 1
  | .ended => 0

variable {size : Nat} {failure : Option String}

theorem read_cons (waiting unread : List RawRow) (row : RawRow) :
    read size failure waiting (row :: unread) =
      if size ≤ waiting.length + 1 then
        .sending (.ok (row :: waiting).reverse) (some unread)
      else .reading (row :: waiting) unread := rfl

theorem toCome_read (waiting unread : List RawRow) :
    (read size failure waiting unread).toCome size failure =
      batchesFrom size failure waiting unread := by
  cases unread with
  | cons row unread =>
      rw [read_cons, batchesFrom]
      split <;> rfl
  | nil =>
      cases failure with
      | some message => rfl
      | none => cases waiting <;> rfl

theorem toCome_sending (batch : Batch) (unread : Option (List RawRow)) :
    (sending batch unread).toCome size failure =
      batch :: (behind unread).toCome size failure := by
  cases unread <;> rfl

theorem work_read (waiting unread : List RawRow) :
    (read size failure waiting unread).work < (reading waiting unread).work := by
  cases unread with
  | cons row unread =>
      rw [read_cons]
      split <;> simp only [work, List.length_cons] <;> omega
  | nil =>
      cases failure with
      | some message => simp [read, work]
      | none => cases waiting <;> simp [read, work]

theorem work_behind (batch : Batch) (unread : Option (List RawRow)) :
    (behind unread).work < (sending batch unread).work := by
  cases unread <;> simp [behind, work]

end Parser

/-! ## The channel -/

def channelRoom : Nat := 2

structure Channel where
  size : Nat
  failure : Option String
  parser : Parser
  /-- The batches in the channel, the first one in front. -/
  underWay : List Batch := []

namespace Channel

/-- A channel with a parser that has just begun. Without room for a batch it does not. -/
def start (size : Nat) (reading : Reading) : Channel :=
  { size
    failure := reading.failure
    parser := if hasRoom size then .reading [] reading.rows else .ended }

/-- The next step of the parser, unless it has ended or waits for room in the channel. -/
def advance? (channel : Channel) : Option Channel :=
  match channel.parser with
  | .reading waiting unread =>
      some { channel with parser := .read channel.size channel.failure waiting unread }
  | .sending batch unread =>
      if channel.underWay.length < channelRoom then
        some { channel with
          parser := .behind unread
          underWay := channel.underWay ++ [batch] }
      else none
  | .ended => none

/-- What is taken out of a channel: the batch in front, or nothing where the parser has
ended. Until there is one of them, the parser goes on. -/
inductive Receives : Channel → Option Batch → Channel → Prop
  | batch {size : Nat} {failure : Option String} {parser : Parser} {batch : Batch}
      {rest : List Batch} :
      Receives ⟨size, failure, parser, batch :: rest⟩ (some batch) ⟨size, failure, parser, rest⟩
  | closed {size : Nat} {failure : Option String} :
      Receives ⟨size, failure, .ended, []⟩ none ⟨size, failure, .ended, []⟩
  | meanwhile {channel next after : Channel} {received : Option Batch}
      (goesOn : channel.advance? = some next) (later : Receives next received after) :
      Receives channel received after

def toCome (channel : Channel) : List Batch :=
  channel.underWay ++ channel.parser.toCome channel.size channel.failure

theorem toCome_start (format : FileFormat) (size : Nat) (download : Download) :
    (start size (ResultFile.read format download)).toCome = batches format size download := by
  rw [toCome, start, batches]
  dsimp only
  split <;> rfl

variable {channel next after : Channel}

theorem toCome_of_advance (goesOn : channel.advance? = some next) :
    next.toCome = channel.toCome := by
  rcases channel with ⟨size, failure, parser, underWay⟩
  cases parser with
  | reading waiting unread =>
      cases goesOn
      exact congrArg (underWay ++ ·) (Parser.toCome_read waiting unread)
  | sending batch unread =>
      simp only [advance?, Option.ite_none_right_eq_some, Option.some.injEq] at goesOn
      rcases goesOn with ⟨-, rfl⟩
      simp [toCome, Parser.toCome_sending]
  | ended => cases goesOn

theorem work_of_advance (goesOn : channel.advance? = some next) :
    next.parser.work < channel.parser.work := by
  rcases channel with ⟨size, failure, parser, underWay⟩
  cases parser with
  | reading waiting unread =>
      cases goesOn
      exact Parser.work_read waiting unread
  | sending batch unread =>
      simp only [advance?, Option.ite_none_right_eq_some, Option.some.injEq] at goesOn
      rcases goesOn with ⟨-, rfl⟩
      exact Parser.work_behind batch unread
  | ended => cases goesOn

/-- There are never more batches in the channel than it has room for. -/
theorem bounded_of_advance (bounded : channel.underWay.length ≤ channelRoom)
    (goesOn : channel.advance? = some next) : next.underWay.length ≤ channelRoom := by
  rcases channel with ⟨size, failure, parser, underWay⟩
  cases parser with
  | reading waiting unread =>
      cases goesOn
      exact bounded
  | sending batch unread =>
      simp only [advance?, Option.ite_none_right_eq_some, Option.some.injEq] at goesOn
      rcases goesOn with ⟨room, rfl⟩
      rwa [List.length_append, List.length_singleton]
  | ended => cases goesOn

theorem Receives.bounded {received : Option Batch} (receives : channel.Receives received after)
    (bounded : channel.underWay.length ≤ channelRoom) :
    after.underWay.length ≤ channelRoom := by
  induction receives with
  | batch => exact Nat.le_of_succ_le bounded
  | closed => exact bounded
  | meanwhile goesOn later induction => exact induction (bounded_of_advance bounded goesOn)

/-- Whatever the parser does meanwhile, the batch that is taken out is the next one. -/
theorem Receives.isNext {received : Option Batch} (receives : channel.Receives received after) :
    received = channel.toCome.head? ∧ after.toCome = channel.toCome.tail := by
  induction receives with
  | batch => exact ⟨rfl, rfl⟩
  | closed => exact ⟨rfl, rfl⟩
  | meanwhile goesOn later induction => rwa [toCome_of_advance goesOn] at induction

theorem exists_advance {size : Nat} {failure : Option String} {parser : Parser}
    (running : parser ≠ .ended) : ∃ next, advance? ⟨size, failure, parser, []⟩ = some next := by
  cases parser with
  | reading waiting unread => exact ⟨_, rfl⟩
  | sending batch unread => exact ⟨_, rfl⟩
  | ended => exact absurd rfl running

/-- Neither task ever waits for the other in vain. -/
theorem exists_receives (channel : Channel) :
    ∃ received after, channel.Receives received after := by
  induction work : channel.parser.work using Nat.strongRecOn generalizing channel with
  | ind work induction =>
      rcases channel with ⟨size, failure, parser, _ | ⟨batch, rest⟩⟩
      · by_cases ended : parser = .ended
        · subst ended
          exact ⟨none, _, .closed⟩
        · rcases exists_advance ended with ⟨next, goesOn⟩
          rcases induction _ (work ▸ work_of_advance goesOn) next rfl with
            ⟨received, after, receives⟩
          exact ⟨received, after, .meanwhile goesOn receives⟩
      · exact ⟨some batch, _, .batch⟩

end Channel

end RemoteQuery.ResultFile
