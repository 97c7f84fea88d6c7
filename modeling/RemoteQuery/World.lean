import RemoteQuery.Calendar.Duration
import RemoteQuery.Service.Record

namespace RemoteQuery

open Calendar (Duration Instant)

/-! The engine's surroundings: a service, a store of result files, a clock, a source of
random bits, and tokens by which a caller can ask for the end of what is going on.

The surroundings answer as they like. All that they remember is a state of some type
`σ`, which the engine passes on and never looks into; time goes by only where an
answer, a wait or a look at the clock takes time. -/

/-- A token can be fired once and for all. Tokens are told apart by their numbers. -/
structure Token where
  number : Nat
deriving Repr, DecidableEq, Inhabited

inductive Call where
  | submit (submission : Submission)
  | status (queryId : String)
  | results (queryId : String) (token : Option String) (maxRows : Nat)
  | cancel (queryId : String)
  | schema (table : Table)
  | object (uri : String)
deriving Repr, DecidableEq, Inhabited

/-! ## Answers -/

/-- What comes of a call: a value, or a failure that the service reports. -/
abbrev Outcome (α : Type) := Except ServiceError α

structure Answer (α : Type) where
  outcome : α
  /-- The time until the answer is there. -/
  delay : Duration := 0
  /-- Tokens fired while the call is under way. -/
  early : List Token := []
  /-- Tokens fired in the step in which the answer comes. -/
  late : List Token := []

def Answer.map {α β : Type} (change : α → β) (answer : Answer α) : Answer β :=
  { answer with outcome := change answer.outcome }

/-- How a call goes that might never end. -/
inductive Reply (α : Type) where
  | answer (answer : Answer α)
  /-- No answer ever comes; at most some tokens are fired. -/
  | silence (fired : List Token)

/-- A file on its way from the store: its bytes in the pieces in which they come, and
what breaks the download off behind them, if something does. -/
structure Download where
  pieces : List (List UInt8)
  failure : Option String := none
deriving Repr, DecidableEq, Inhabited

structure Service (σ : Type) where
  submit : Submission → σ → Answer (Outcome String) × σ
  status : String → σ → Reply (Outcome Status) × σ
  results : String → Option String → Nat → σ → Answer (Outcome ResultPart) × σ
  cancel : String → σ → Answer (Outcome Unit) × σ
  schema : Table → σ → Answer (Outcome (List Column)) × σ

structure Environment (σ : Type) extends Service σ where
  /-- The store of result files, where there is one. -/
  object : Option (String → σ → Answer (Outcome Download) × σ)
  /-- Tokens fired while the engine waits. -/
  pause : Duration → σ → List Token × σ
  /-- 128 random bits. -/
  random : σ → (UInt64 × UInt64) × σ
  /-- The time that a look at the clock takes, if any. Two looks in a row may show the same
  time, but the clock does not go back. -/
  step : Duration
  /-- The calendar's time at a time of the clock. -/
  wallClock : Duration → Instant

/-! ## The world

The world is the state of the surroundings together with what the engine can know of
it: the clock, the tokens that have been fired, and the calls made so far. -/

abbrev Call.Response : Call → Type
  | .submit _ => String
  | .status _ => Status
  | .results _ _ _ => ResultPart
  | .cancel _ => Unit
  | .schema _ => List Column
  | .object _ => Download

/-- A call, the time at which it was made, and its outcome with the time at which that
was there, unless the call was given up before. -/
structure Sent where
  time : Duration
  call : Call
  answered : Option (Duration × Outcome call.Response) := none

structure World (σ : Type) where
  outside : σ
  clock : Duration := 0
  fired : List Token := []
  /-- The number of the next new token. -/
  nextToken : Nat := 0
  /-- The calls so far, in order. -/
  sent : List Sent := []

namespace World

variable {σ α : Type}

def isFired (token : Token) (world : World σ) : Bool :=
  world.fired.contains token

def fire (tokens : List Token) (world : World σ) : World σ :=
  { world with fired := world.fired ++ tokens }

def mint (world : World σ) : Token × World σ :=
  (⟨world.nextToken⟩, { world with nextToken := world.nextToken + 1 })

def now (environment : Environment σ) (world : World σ) : Duration × World σ :=
  let clock := world.clock + environment.step
  (clock, { world with clock })

def note (sent : Sent) (world : World σ) : World σ :=
  { world with sent := world.sent ++ [sent] }

def ask (call : Call) (answering : σ → Answer (Outcome call.Response) × σ) (world : World σ) :
    Outcome call.Response × World σ :=
  let (answer, outside) := answering world.outside
  let clock := world.clock + answer.delay
  (answer.outcome,
    ({ world with outside, clock }.fire (answer.early ++ answer.late)).note
      ⟨world.clock, call, some (clock, answer.outcome)⟩)

inductive Raced (α : Type) where
  /-- The token was fired before the answer was there. -/
  | interrupted
  | answered (outcome : α)
  /-- Nothing happens any more. -/
  | stuck

def race (token : Token) (call : Call)
    (replying : σ → Reply (Outcome call.Response) × σ) (world : World σ) :
    Raced (Outcome call.Response) × World σ :=
  let (reply, outside) := replying world.outside
  match reply with
  | .silence fired =>
      (if fired.contains token then .interrupted else .stuck,
        ({ world with outside }.fire fired).note ⟨world.clock, call, none⟩)
  | .answer answer =>
      let clock := world.clock + answer.delay
      let reached := { world with outside, clock }
      if answer.early.contains token then
        (.interrupted, (reached.fire answer.early).note ⟨world.clock, call, none⟩)
      else
        (.answered answer.outcome,
          (reached.fire (answer.early ++ answer.late)).note
            ⟨world.clock, call, some (clock, answer.outcome)⟩)

/-- Wait, unless the token has been fired or is fired meanwhile. The answer says
whether it was. A token that is fired in the step in which the wait ends comes first. -/
def wait (environment : Environment σ) (token : Token) (duration : Duration)
    (world : World σ) : Bool × World σ :=
  if world.isFired token then (true, world)
  else
    let (fired, outside) := environment.pause duration world.outside
    (fired.contains token, { world with outside, clock := world.clock + duration }.fire fired)

end World

/-! ## Calls -/

namespace Environment

variable {σ : Type}

def askSubmit (environment : Environment σ) (submission : Submission) (world : World σ) :
    Outcome String × World σ :=
  world.ask (.submit submission) (environment.submit submission)

def askResults (environment : Environment σ) (queryId : String) (token : Option String)
    (maxRows : Nat) (world : World σ) : Outcome ResultPart × World σ :=
  world.ask (.results queryId token maxRows) (environment.results queryId token maxRows)

def askCancel (environment : Environment σ) (queryId : String) (world : World σ) :
    Outcome Unit × World σ :=
  world.ask (.cancel queryId) (environment.cancel queryId)

def askSchema (environment : Environment σ) (table : Table) (world : World σ) :
    Outcome (List Column) × World σ :=
  world.ask (.schema table) (environment.schema table)

end Environment

end RemoteQuery
