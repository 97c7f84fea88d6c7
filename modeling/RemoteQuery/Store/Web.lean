import RemoteQuery.Http.Exchange
import RemoteQuery.Text.Search

namespace RemoteQuery.Store

open Http (Exchange Transport statusText withoutSlashes)

/-! A store that is reached over the wire. A location in a bucket is looked for at an
endpoint under the names of the bucket and the file. -/

def afterScheme? (scheme location : String) : Option String :=
  (Text.after? scheme.toList location.toList).map String.ofList

structure Web where
  endpoint : Option String := none
deriving Repr, DecidableEq, Inhabited

namespace Web

def withEndpoint (endpoint : String) : Web :=
  { endpoint := some (withoutSlashes endpoint) }

def url (store : Web) (location : String) : Outcome String :=
  if (afterScheme? "http://" location).isSome || (afterScheme? "https://" location).isSome then
    .ok location
  else
    match afterScheme? "s3://" location, store.endpoint with
    | some path, some endpoint => .ok (endpoint ++ "/" ++ path)
    | some _, none => .error (.programming ("no S3 endpoint configured for " ++ location))
    | none, _ => .error (.programming ("unsupported object location " ++ location))

/-- A failure that may be gone the next time: of the server, or for lack of time. -/
def isTransient (status : Nat) : Bool :=
  (500 ≤ status ∧ status ≤ 599) ∨ status = 429 ∨ status = 408

def interpret (url : String) : Exchange → Outcome Download
  | .unreachable reason => .error (.operational ("failed to fetch " ++ url ++ ": " ++ reason))
  | .response response =>
      if response.isSuccess then
        .ok { pieces := response.pieces, failure := response.broken }
      else
        let message :=
          "fetch of " ++ url ++ " failed with status " ++ statusText response.status ++ ": " ++
            response.text
        .error
          (if isTransient response.status then .operational message else .programming message)

def object {σ : Type} (store : Web) (transport : Transport σ) (location : String)
    (outside : σ) : Answer (Outcome Download) × σ :=
  match store.url location with
  | .error error => ({ outcome := .error error }, outside)
  | .ok url =>
      let (answer, outside) := transport { method := "GET", url } outside
      (answer.map (interpret url), outside)

end Web

end RemoteQuery.Store
