import RemoteQuery.World

namespace RemoteQuery

/-! An interrupt of the program fires a token, so that whatever waits on the token ends.
The watcher of interrupts looks out for the token itself, too: once that is fired, there
is nothing left to watch for. -/

/-- What a watcher of interrupts comes upon first. -/
inductive Noticed where
  | interrupt
  /-- Somebody else has fired the token. -/
  | tokenFired
  /-- Interrupts cannot be watched for. -/
  | unavailable
deriving Repr, DecidableEq

def World.watchInterrupt {σ : Type} (token : Token) (noticed : Noticed) (world : World σ) :
    World σ :=
  match noticed with
  | .interrupt => world.fire [token]
  | .tokenFired | .unavailable => world

end RemoteQuery
