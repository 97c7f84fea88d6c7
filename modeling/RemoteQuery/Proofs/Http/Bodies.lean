import RemoteQuery.Http.Rehearsal
import RemoteQuery.Proofs.Json.Fields

/-! # Bodies of requests

Each call of the service is one request, and the text of its body is read back as one object.
The object has a member for each thing that was asked for and no other members, whatever
characters the texts consist of: what stands in one member cannot end it, change another or
begin a new one.
-/

namespace RemoteQuery.Http

/-! ## What is said -/

/-- The request is for this operation, and its body is an object in which each name stands
once at most, and for this. -/
def Request.Tells (operation : String) (content : String → Option Json) (request : Request) : Prop :=
  ("x-amz-target", "AmazonAthena." ++ operation) ∈ request.headers ∧
    ∃ members, Json.read? request.body = some (.object members) ∧
      (members.map Prod.fst).Nodup ∧ ∀ name, members.lookup name = content name

def submitContent (submission : Submission) : String → Option Json
  | "QueryString" => some (.string submission.sql)
  | "ClientRequestToken" => some (.string submission.requestToken)
  | "QueryExecutionContext" =>
      some (.object [("Database", .string submission.database),
        ("Catalog", .string submission.catalog)])
  | "ResultConfiguration" =>
      submission.outputLocation.map fun location => .object [("OutputLocation", .string location)]
  | "WorkGroup" => submission.workGroup.map .string
  | _ => none

def queryIdContent (queryId : String) : String → Option Json
  | "QueryExecutionId" => some (.string queryId)
  | _ => none

/-- What is said of a page of results. A page has a row at least and a thousand rows at most. -/
def resultsContent (queryId : String) (token : Option String) (maxRows : Nat) :
    String → Option Json
  | "QueryExecutionId" => some (.string queryId)
  | "NextToken" => token.map .string
  | "MaxResults" => some (.ofNat (max 1 (min 1000 maxRows)))
  | _ => none

def schemaContent (catalog : String) (table : Table) : String → Option Json
  | "CatalogName" => some (.string catalog)
  | "DatabaseName" => some (.string table.database)
  | "TableName" => some (.string table.name)
  | _ => none

/-! ## Members -/

section Members

variable {key name : String} {encode : String → Json} {value : Option String}

theorem lookup_member {member : Json} {rest : List (String × Json)} :
    ((key, member) :: rest).lookup name =
      if name = key then some member else rest.lookup name := by
  by_cases same : name = key
  · rw [same, List.lookup_cons_self, if_pos rfl]
  · rw [List.lookup_cons, beq_false_of_ne same, if_neg same]

theorem lookup_optionalMember :
    (optionalMember key encode value).lookup name =
      if name = key then value.map encode else none := by
  cases value with
  | none => simp [optionalMember]
  | some value => exact lookup_member

theorem names_optionalMember :
    ((optionalMember key encode value).map Prod.fst).Sublist [key] := by
  cases value <;> simp [optionalMember]

theorem readable_optionalMember (readable : ∀ text, (encode text).Readable) :
    ∀ member ∈ optionalMember key encode value, member.2.Readable := by
  cases value <;> simp [optionalMember, readable]

end Members

variable {client : Client} {operation : String} {content : String → Option Json}
  {members : List (String × Json)}

theorem Request.tells_request (names : List String)
    (readable : ∀ member ∈ members, member.2.Readable)
    (areNames : (members.map Prod.fst).Sublist names) (distinct : names.Nodup)
    (lookups : ∀ name, members.lookup name = content name) :
    (client.request operation (.object members)).Tells operation content := by
  refine ⟨List.mem_append_right _ List.mem_cons_self, members, ?_, distinct.sublist areNames,
    lookups⟩
  exact Json.read?_toString (Json.readable_object.mpr readable)

theorem tells_submitBody (submission : Submission) :
    (client.request operation (submitBody submission)).Tells operation
      (submitContent submission) := by
  refine Request.tells_request ["QueryString", "ClientRequestToken", "QueryExecutionContext",
    "ResultConfiguration", "WorkGroup"] ?_ ?_ (by decide) ?_
  · simp only [List.forall_mem_append]
    exact ⟨⟨by simp, readable_optionalMember (by simp)⟩, readable_optionalMember (by simp)⟩
  · simp only [List.map_append]
    exact ((List.Sublist.refl _).append names_optionalMember).append names_optionalMember
  · intro name
    simp only [List.lookup_append, lookup_member, lookup_optionalMember, List.lookup_nil]
    fun_cases submitContent submission name <;> simp_all

theorem tells_queryIdBody (queryId : String) :
    (client.request operation (queryIdBody queryId)).Tells operation (queryIdContent queryId) := by
  refine Request.tells_request _ (by simp) (.refl _) (by simp) ?_
  intro name
  simp only [lookup_member, List.lookup_nil]
  fun_cases queryIdContent queryId name <;> simp_all

theorem tells_resultsBody (queryId : String) (token : Option String) (maxRows : Nat) :
    (client.request operation (resultsBody queryId token maxRows)).Tells operation
      (resultsContent queryId token maxRows) := by
  refine Request.tells_request ["QueryExecutionId", "NextToken", "MaxResults"] ?_ ?_ (by decide) ?_
  · simp only [List.forall_mem_append]
    exact ⟨⟨by simp, readable_optionalMember (by simp)⟩, by simp⟩
  · simp only [List.map_append]
    exact ((List.Sublist.refl _).append names_optionalMember).append (.refl _)
  · have limited : min (max maxRows 1) greatestPage = max 1 (min 1000 maxRows) := by
      rw [greatestPage]
      omega
    intro name
    simp only [List.lookup_append, lookup_member, lookup_optionalMember, List.lookup_nil, limited]
    fun_cases resultsContent queryId token maxRows name <;> simp_all

theorem tells_schemaBody (catalog : String) (table : Table) :
    (client.request operation (schemaBody catalog table)).Tells operation
      (schemaContent catalog table) := by
  refine Request.tells_request _ (by simp) (.refl _) (by simp) ?_
  intro name
  simp only [lookup_member, List.lookup_nil]
  fun_cases schemaContent catalog table name <;> simp_all

/-! ## Reading it back -/

theorem Request.Tells.unique {request : Request} {other : String → Option Json}
    (tells : request.Tells operation content) (tellsOther : request.Tells operation other) :
    content = other := by
  obtain ⟨-, members, read, -, lookups⟩ := tells
  obtain ⟨-, _, readOther, -, lookupsOther⟩ := tellsOther
  rw [read] at readOther
  cases readOther
  exact funext fun name => (lookups name).symm.trans (lookupsOther name)

private theorem map_string_injective : Function.Injective (Option.map Json.string) :=
  Option.map_injective fun _ _ => Json.string.inj

theorem submitContent_injective : Function.Injective submitContent := by
  intro submission other same
  have each := congrFun same
  have sql := each "QueryString"
  have requestToken := each "ClientRequestToken"
  have context := each "QueryExecutionContext"
  have location : submission.outputLocation = other.outputLocation :=
    Option.map_injective (fun _ _ => by simp) (each "ResultConfiguration")
  have workGroup := map_string_injective (each "WorkGroup")
  cases submission
  cases other
  simp_all [submitContent]

theorem resultsContent_inj {queryId otherId : String} {token otherToken : Option String}
    {maxRows otherRows : Nat}
    (same : resultsContent queryId token maxRows = resultsContent otherId otherToken otherRows) :
    queryId = otherId ∧ token = otherToken := by
  have each := congrFun same
  exact ⟨Json.string.inj (Option.some.inj (each "QueryExecutionId")),
    map_string_injective (each "NextToken")⟩

/-! ## Calls -/

section Calls

variable {σ α : Type}

def recorded (transport : Transport σ) : Transport (σ × List Request) :=
  fun request (outside, sent) =>
    let (answer, outside) := transport request outside
    (answer, outside, sent ++ [request])

/-- A call puts one request on the wire, and this request says what there is to say. -/
def Asks (operation : String) (content : String → Option Json)
    (call : σ × List Request → α × σ × List Request) : Prop :=
  ∀ outside sent, ∃ request : Request,
    (call (outside, sent)).2.2 = sent ++ [request] ∧ request.Tells operation content

theorem asks_of_tells {transport : Transport σ} {body : Json} {decode : Json → Option (Outcome α)}
    (tells : (client.request operation body).Tells operation content) :
    Asks operation content (client.perform (recorded transport) operation body decode) :=
  fun _ _ => ⟨client.request operation body, rfl, tells⟩

structure Client.TellsWhatIsAsked (client : Client) (transport : Transport σ) : Prop where
  submit (submission : Submission) :
    Asks "StartQueryExecution" (submitContent submission)
      ((client.service (recorded transport)).submit submission)
  status (queryId : String) :
    Asks "GetQueryExecution" (queryIdContent queryId)
      ((client.service (recorded transport)).status queryId)
  results (queryId : String) (token : Option String) (maxRows : Nat) :
    Asks "GetQueryResults" (resultsContent queryId token maxRows)
      ((client.service (recorded transport)).results queryId token maxRows)
  cancel (queryId : String) :
    Asks "StopQueryExecution" (queryIdContent queryId)
      ((client.service (recorded transport)).cancel queryId)
  schema (table : Table) :
    Asks "GetTableMetadata" (schemaContent client.catalog table)
      ((client.service (recorded transport)).schema table)
  /-- No text in one place makes a request say something else in another. -/
  submissionToldApart (request : Request) (submission other : Submission) :
    request.Tells "StartQueryExecution" (submitContent submission) →
    request.Tells "StartQueryExecution" (submitContent other) → submission = other
  pageToldApart (request : Request) (queryId otherId : String)
    (token otherToken : Option String) (maxRows otherRows : Nat) :
    request.Tells "GetQueryResults" (resultsContent queryId token maxRows) →
    request.Tells "GetQueryResults" (resultsContent otherId otherToken otherRows) →
    queryId = otherId ∧ token = otherToken

/-- The bodies of all requests say exactly what was asked for. -/
theorem Client.tellsWhatIsAsked (client : Client) (transport : Transport σ) :
    client.TellsWhatIsAsked transport where
  submit submission := asks_of_tells (tells_submitBody submission)
  status queryId := fun _ _ => ⟨_, rfl, tells_queryIdBody queryId⟩
  results queryId token maxRows := asks_of_tells (tells_resultsBody queryId token maxRows)
  cancel queryId := asks_of_tells (tells_queryIdBody queryId)
  schema table := asks_of_tells (tells_schemaBody client.catalog table)
  submissionToldApart _ _ _ tells tellsOther :=
    submitContent_injective (tells.unique tellsOther)
  pageToldApart _ _ _ _ _ _ _ tells tellsOther := resultsContent_inj (tells.unique tellsOther)

example :
    (((Client.ofEndpoint "http://h/" "c").service (Server.transport "")).cancel "q\"1"
      ((), {})).2.2.requests.map (·.body) = ["\x7b\"QueryExecutionId\":\"q\\\"1\"\x7d"] := by
  decide +kernel

end Calls

end RemoteQuery.Http
