import RemoteQuery.Http.Client
import RemoteQuery.Rehearsal

namespace RemoteQuery.Http

/-! A rehearsed server plays its responses one after the other, and keeps the requests that it
sees. -/

structure Server where
  connected : Bool := true
  responses : List Exchange := []
  requests : List Request := []

namespace Server

variable {σ : Type}

/-- What is sent once all responses have been played. -/
def afterwards : Exchange :=
  .response { status := 500, pieces := [Text.Utf8.encode "no scripted response"] }

/-- The wire to a server that stands beside other surroundings. -/
def transport (reason : String) : Transport (σ × Server) := fun request (outside, server) =>
  if server.connected then
    ({ outcome := server.responses.headD afterwards }, outside,
      { server with
        responses := server.responses.tail
        requests := server.requests ++ [request] })
  else unreachable reason request (outside, server)

def lift {α : Type} (play : σ → α × σ) (outside : σ × Server) : α × σ × Server :=
  let (answer, left) := play outside.1
  (answer, left, outside.2)

/-- Surroundings beside which there is a server. -/
def beside (environment : Environment σ) : Environment (σ × Server) where
  submit := fun submission => lift (environment.submit submission)
  status := fun queryId => lift (environment.status queryId)
  results := fun queryId token maxRows => lift (environment.results queryId token maxRows)
  cancel := fun queryId => lift (environment.cancel queryId)
  schema := fun table => lift (environment.schema table)
  object := environment.object.map fun object uri => lift (object uri)
  pause := fun duration => lift (environment.pause duration)
  random := lift environment.random
  step := environment.step
  wallClock := environment.wallClock

end Server

end RemoteQuery.Http
