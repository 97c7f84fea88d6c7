import RemoteQuery.Http.Wire

namespace RemoteQuery.Http

structure Client where
  endpoint : String
  catalog : String
  /-- Headers that go with every request. -/
  headers : List (String × String) := []
deriving Repr, DecidableEq, Inhabited

namespace Client

def ofEndpoint (endpoint catalog : String) : Client :=
  { endpoint := withoutSlashes endpoint, catalog }

def ofLookup (lookup : String → Option String) : Client :=
  let region := (lookup "ATHENA_REGION").getD "us-east-1"
  ofEndpoint ((lookup "ATHENA_ENDPOINT").getD ("https://athena." ++ region ++ ".amazonaws.com"))
    ((lookup "ATHENA_CATALOG").getD "AwsDataCatalog")

/-- The client with another header, in place of one of the same name. -/
def withHeader (name value : String) (client : Client) : Outcome Client :=
  (header name value).map fun added =>
    { client with headers := client.headers.filter (·.1 != added.1) ++ [added] }

def request (client : Client) (operation : String) (body : Json) : Request :=
  { method := "POST"
    url := client.endpoint
    headers := client.headers ++ [("x-amz-target", "AmazonAthena." ++ operation),
      ("content-type", "application/x-amz-json-1.1")]
    body := body.toString }

def decoded {α : Type} (decode : Json → Option α) (response : Response) : Except String α :=
  match response.broken with
  | some reason => .error reason
  | none =>
      match ((Text.Utf8.decode? response.body).bind Json.read?).bind decode with
      | some value => .ok value
      | none => .error response.undecodable

def interpret {α : Type} (operation : String) (decode : Json → Option (Outcome α)) :
    Exchange → Outcome α
  | .unreachable reason => .error (.operational (operation ++ " request failed: " ++ reason))
  | .response response =>
      if !response.isSuccess then .error (classify response.status response.text)
      else
        match decoded decode response with
        | .ok outcome => outcome
        | .error reason =>
            .error (.operational ("cannot decode " ++ operation ++ " response: " ++ reason))

variable {σ α : Type}

def perform (client : Client) (transport : Transport σ) (operation : String) (body : Json)
    (decode : Json → Option (Outcome α)) (outside : σ) : Answer (Outcome α) × σ :=
  let (answer, outside) := transport (client.request operation body) outside
  (answer.map (interpret operation decode), outside)

def service (client : Client) (transport : Transport σ) : Service σ where
  submit := fun submission =>
    client.perform transport "StartQueryExecution" (submitBody submission)
      fun json => (submitted? json).map .ok
  status := fun queryId outside =>
    let (answer, outside) :=
      client.perform transport "GetQueryExecution" (queryIdBody queryId) status? outside
    (.answer answer, outside)
  results := fun queryId token maxRows =>
    client.perform transport "GetQueryResults" (resultsBody queryId token maxRows)
      fun json => (results? json).map .ok
  cancel := fun queryId =>
    client.perform transport "StopQueryExecution" (queryIdBody queryId)
      fun json => (anything? json).map .ok
  schema := fun table =>
    client.perform transport "GetTableMetadata" (schemaBody client.catalog table)
      fun json => (schema? json).map .ok

end Client

end RemoteQuery.Http
