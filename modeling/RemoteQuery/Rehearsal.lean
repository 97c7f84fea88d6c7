import RemoteQuery.World

namespace RemoteQuery

open Calendar (Duration Instant)

/-! Rehearsed surroundings: each kind of call has a queue of steps, and each call plays the
next step of its queue. Pages are found by their continuation tokens and files by
their names, as often as they are asked for. -/

namespace Rehearsal

structure Step (α : Type) where
  outcome : Outcome α
  /-- The script's current token is fired during the call. -/
  fires : Bool := false
  /-- The answer is late by this much. -/
  delay : Option Duration := none
  /-- There is no answer. -/
  silent : Bool := false

structure Script where
  current : Option Token := none
  submissions : List (Step String) := []
  statuses : List (Step Status) := []
  schemas : List (Step (List Column)) := []
  /-- Cancel requests succeed once the queue has been played. -/
  cancellations : List (Step Unit) := []
  /-- Played before a page is looked for; a step that succeeds lets the page through. -/
  resultCalls : List (Step Unit) := []
  pages : List (Option String × ResultPart) := []
  /-- Played before a file is looked for; a step that succeeds lets the file through. -/
  objectCalls : List (Step Unit) := []
  objects : List (String × Download) := []
  /-- How often random bits have been asked for. -/
  drawn : UInt64 := 0

variable {α β : Type}

def Step.tokens (current : Option Token) (step : Step α) : List Token :=
  if step.fires then current.toList else []

/-- A token fired during a call is seen before an answer that is late, and together with
one that is not. -/
def Step.toAnswer (current : Option Token) (step : Step α) : Answer (Outcome α) :=
  let tokens := step.tokens current
  { outcome := step.outcome
    delay := step.delay.getD 0
    early := if step.delay.isSome then tokens else []
    late := if step.delay.isSome then [] else tokens }

def Step.toReply (current : Option Token) (step : Step α) : Reply (Outcome α) :=
  if step.silent then .silence (step.tokens current) else .answer (step.toAnswer current)

def Step.andThen (next : α → Outcome β) (step : Step α) : Step β :=
  { step with outcome := step.outcome.bind next }

def nextStep (last : Step α) : List (Step α) → Step α × List (Step α)
  | [] => (last, [])
  | step :: rest => (step, rest)

/-- A step for a call that the script says nothing about. -/
def unscripted (what : String) : Step α :=
  { outcome := .error (.programming ("no scripted " ++ what)) }

def succeeds : Step Unit :=
  { outcome := .ok () }

def Script.page (script : Script) (token : Option String) : Outcome ResultPart :=
  match script.pages.lookup token with
  | some part => .ok part
  | none => .error (.programming ("no scripted page for token " ++ token.getD "<first>"))

def Script.object (script : Script) (uri : String) : Outcome Download :=
  match script.objects.lookup uri with
  | some download => .ok download
  | none => .error (.programming ("no such object: " ++ uri))

def submit (script : Script) : Answer (Outcome String) × Script :=
  let (step, submissions) := nextStep (unscripted "submit") script.submissions
  (step.toAnswer script.current, { script with submissions })

def status (script : Script) : Reply (Outcome Status) × Script :=
  let (step, statuses) := nextStep (unscripted "status") script.statuses
  (step.toReply script.current, { script with statuses })

def schema (script : Script) : Answer (Outcome (List Column)) × Script :=
  let (step, schemas) := nextStep (unscripted "schema") script.schemas
  (step.toAnswer script.current, { script with schemas })

def cancel (script : Script) : Answer (Outcome Unit) × Script :=
  let (step, cancellations) := nextStep succeeds script.cancellations
  (step.toAnswer script.current, { script with cancellations })

def results (token : Option String) (script : Script) :
    Answer (Outcome ResultPart) × Script :=
  let (step, resultCalls) := nextStep succeeds script.resultCalls
  ((step.andThen fun _ => script.page token).toAnswer script.current, { script with resultCalls })

def object (uri : String) (script : Script) : Answer (Outcome Download) × Script :=
  let (step, objectCalls) := nextStep succeeds script.objectCalls
  ((step.andThen fun _ => script.object uri).toAnswer script.current, { script with objectCalls })

/-- Surroundings that follow a script, with a store if there is to be one. The calendar
shows one and the same time. -/
def environment (hasStore : Bool) (today : Instant) : Environment Script where
  submit := fun _ => submit
  status := fun _ => status
  results := fun _ token _ => results token
  cancel := fun _ => cancel
  schema := fun _ => schema
  object := if hasStore then some object else none
  pause := fun _ script => ([], script)
  random := fun script => ((script.drawn, script.drawn), { script with drawn := script.drawn + 1 })
  step := 1
  wallClock := fun _ => today

/-- Surroundings without anything in them: calls fail or are never answered, nothing happens
during a wait, and the calendar shows one and the same time. -/
def deserted {σ : Type} (today : Instant) : Environment σ where
  submit := fun _ outside => ((unscripted "submit" : Step String).toAnswer none, outside)
  status := fun _ outside => (.silence [], outside)
  results := fun _ _ _ outside => ((unscripted "results" : Step ResultPart).toAnswer none, outside)
  cancel := fun _ outside => (succeeds.toAnswer none, outside)
  schema := fun _ outside => ((unscripted "schema" : Step (List Column)).toAnswer none, outside)
  object := none
  pause := fun _ outside => ([], outside)
  random := fun outside => ((0, 0), outside)
  step := 1
  wallClock := fun _ => today

end Rehearsal

end RemoteQuery
