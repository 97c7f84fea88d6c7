import Mathlib
import RemoteQuery.Http.Client
import RemoteQuery.Proofs.Poller.Cancellation
import RemoteQuery.Proofs.Retry.Attempts

/-! # Complaints of the service

A response that is no success blames the request exactly if its body complains of a wrong
request. A complaint is read as a whole or not at all: where an object has a message that is no
text, or a second message, its type is not seen either, and the failure looks like one that
may pass. A failure that blames the request ends a retried call and a run of looks at once.
-/

namespace RemoteQuery.Http

open Calendar (Duration)

/-! ## Types -/

/-- The name of a type is what stands behind its last sign, or all of it where there is none. -/
def HasName (type name : String) : Prop :=
  '#' ∉ name.toList ∧ (type = name ∨ ∃ space : String, type = space ++ "#" ++ name)

theorem exists_hasName (type : String) : ∃ name, HasName type name := by
  -- The last sign of a text is the first one of its reverse.
  by_cases sign : '#' ∈ type.toList.reverse
  · obtain ⟨name, space, isText, noSign⟩ := List.eq_append_cons_of_mem sign
    refine ⟨String.ofList name.reverse, by simpa using noSign, .inr
      ⟨String.ofList space.reverse, String.toList_inj.mp ?_⟩⟩
    rw [← List.reverse_inj, isText]
    simp
  · exact ⟨type, by simpa using sign, .inl rfl⟩

theorem afterLastSign_of_hasName {type name : String} (hasName : HasName type name) :
    afterLastSign type = name := by
  obtain ⟨noSign, isType⟩ := hasName
  obtain ⟨rest, isText, ends⟩ : ∃ rest, type.toList.reverse = name.toList.reverse ++ rest ∧
      ∀ c ∈ rest.head?, c = '#' := by
    rcases isType with rfl | ⟨space, rfl⟩
    · exact ⟨[], (List.append_nil _).symm, nofun⟩
    · exact ⟨'#' :: space.toList.reverse, by simp, by simp⟩
  have stays : ∀ c ∈ name.toList.reverse, decide (c ≠ '#') = true := by
    intro c isIn
    rw [decide_eq_true_iff]
    rintro rfl
    exact noSign (List.mem_reverse.mp isIn)
  rw [afterLastSign, isText, Text.takeWhile_span stays (by simpa using ends), List.reverse_reverse,
    String.ofList_toList]

theorem afterLastSign_eq_iff {type name : String} :
    afterLastSign type = name ↔ HasName type name := by
  obtain ⟨other, hasName⟩ := exists_hasName type
  constructor
  · rintro rfl
    rwa [afterLastSign_of_hasName hasName]
  · exact afterLastSign_of_hasName

/-! ## Bodies -/

inductive IsMessage : Json → Prop
  | missing : IsMessage .null
  | text (message : String) : IsMessage (.string message)

def membersNamed (names : List String) (members : List (String × Json)) : List (String × Json) :=
  members.filter fun member => names.contains member.1

def Typed (type : String) (members : List (String × Json)) : Prop :=
  membersNamed ["__type"] members = [("__type", .string type)]

/-- An object has one message at most, whichever of the two names it goes by. -/
structure PlainMessage (members : List (String × Json)) : Prop where
  one : (membersNamed ["message", "Message"] members).length ≤ 1
  each : ∀ member ∈ membersNamed ["message", "Message"] members, IsMessage member.2

/-- A body is a complaint of a type: an object, or the list of its values. -/
inductive Complains (type : String) : Json → Prop
  | object {members : List (String × Json)} (typed : Typed type members)
      (plain : PlainMessage members) : Complains type (.object members)
  | list {rest : List Json} (short : rest.length ≤ 1) (each : ∀ json ∈ rest, IsMessage json) :
      Complains type (.array (.string type :: rest))

/-! ### Reading them -/

section Reading

variable {json : Json} {type : String} {members : List (String × Json)}

theorem option?_string?_eq_some_iff {text : Option String} :
    Json.option? Json.string? json = some text ↔ json = Json.ofOption .string text := by
  cases json <;> cases text <;> simp [Json.option?, Json.string?, Json.ofOption, eq_comm]

theorem isMessage_iff :
    IsMessage json ↔ ∃ message, Json.option? Json.string? json = some message := by
  constructor
  · rintro (_ | message)
    · exact ⟨none, rfl⟩
    · exact ⟨some message, rfl⟩
  · rintro ⟨message, found⟩
    rw [option?_string?_eq_some_iff.mp found]
    cases message with
    | none => exact .missing
    | some message => exact .text message

def fieldOf : List (String × Json) → Option (Option String)
  | [] => some none
  | [member] => Json.option? Json.string? member.2
  | _ => none

theorem fieldOf_eq_some_iff {given : List (String × Json)} {text : String} :
    fieldOf given = some (some text) ↔ ∃ name, given = [(name, .string text)] := by
  rcases given with _ | ⟨⟨name, value⟩, _ | _⟩ <;>
    simp [fieldOf, option?_string?_eq_some_iff, Json.ofOption]

theorem exists_fieldOf_iff {given : List (String × Json)} :
    (∃ text, fieldOf given = some text) ↔
      given.length ≤ 1 ∧ ∀ member ∈ given, IsMessage member.2 := by
  rcases given with _ | ⟨member, _ | _⟩ <;> simp [fieldOf, isMessage_iff]

theorem typed_iff :
    Typed type members ↔ fieldOf (membersNamed ["__type"] members) = some (some type) := by
  rw [fieldOf_eq_some_iff]
  constructor
  · exact fun typed => ⟨_, typed⟩
  · rintro ⟨name, found⟩
    have isMember : (name, Json.string type) ∈ membersNamed ["__type"] members :=
      found ▸ List.mem_cons_self
    obtain rfl : name = "__type" := by simpa using (List.mem_filter.mp isMember).2
    exact found

/-- An object is read field by field, and a field that cannot be read spoils the other. -/
theorem complaint?_object :
    complaint? (.object members) =
      (fieldOf (membersNamed ["__type"] members)).bind fun type =>
        (fieldOf (membersNamed ["message", "Message"] members)).bind fun message =>
          some { type, message } := by
  unfold complaint? Json.Fields.of? membersNamed
  simp only [Json.Fields.ofMembers?]
  generalize members.filter (fun member => ["__type"].contains member.1) = types
  generalize members.filter (fun member => ["message", "Message"].contains member.1) = messages
  -- Of each field there is no member, or one, or there are more.
  rcases types with _ | ⟨typeMember, _ | _⟩ <;> rcases messages with _ | ⟨messageMember, _ | _⟩ <;>
    simp [fieldOf, Json.Fields.defaulted, List.lookup_cons]

private theorem type_complaint?_object :
    (complaint? (.object members)).bind Complaint.type = some type ↔
      Typed type members ∧ PlainMessage members := by
  have plain : PlainMessage members ↔
      ∃ message, fieldOf (membersNamed ["message", "Message"] members) = some message :=
    ⟨fun plain => exists_fieldOf_iff.mpr ⟨plain.one, plain.each⟩,
      fun found => ⟨(exists_fieldOf_iff.mp found).1, (exists_fieldOf_iff.mp found).2⟩⟩
  rw [complaint?_object, typed_iff, plain]
  simp only [Option.bind_eq_some_iff, Option.some.injEq]
  constructor
  · rintro ⟨_, ⟨_, isType, message, isMessage, rfl⟩, rfl⟩
    exact ⟨isType, message, isMessage⟩
  · rintro ⟨isType, message, isMessage⟩
    exact ⟨_, ⟨_, isType, message, isMessage, rfl⟩, rfl⟩

private theorem type_complaint?_array {items : List Json} :
    (complaint? (.array items)).bind Complaint.type = some type ↔
      ∃ rest, items = .string type :: rest ∧ rest.length ≤ 1 ∧ ∀ json ∈ rest, IsMessage json := by
  unfold complaint? Json.Fields.of?
  rcases items with _ | ⟨first, _ | ⟨second, _ | _⟩⟩
  · simp [Json.Fields.defaulted]
  · simp [Json.Fields.defaulted, List.lookup_cons, option?_string?_eq_some_iff,
      Option.bind_eq_some_iff, Json.ofOption]
  · simp [Json.Fields.defaulted, List.lookup_cons, option?_string?_eq_some_iff,
      Option.bind_eq_some_iff, isMessage_iff, Json.ofOption]
  · simp

theorem type_complaint?_eq_some_iff :
    (complaint? json).bind Complaint.type = some type ↔ Complains type json := by
  cases json with
  | object members =>
      rw [type_complaint?_object]
      constructor
      · rintro ⟨typed, plain⟩
        exact .object typed plain
      · rintro (⟨typed, plain⟩ | _)
        exact ⟨typed, plain⟩
  | array items =>
      rw [type_complaint?_array]
      constructor
      · rintro ⟨rest, rfl, short, each⟩
        exact .list short each
      · rintro (_ | ⟨short, each⟩)
        exact ⟨_, rfl, short, each⟩
  | _ => exact iff_of_false nofun nofun

end Reading

/-! ## Whom a failure blames -/

section Classes

variable {status : Nat} {body : String}

private theorem type_ne_invalidRequest (status : Nat) :
    "HTTP " ++ Number.text status ≠ invalidRequest := by
  intro same
  have first := congrArg (fun text => text.toList.head?) same
  simp [invalidRequest] at first

theorem kind_classify_iff :
    (classify status body).kind = .programming ↔
      ∃ json type, Json.read? body = some json ∧ Complains type json ∧
        HasName type invalidRequest := by
  have told (type : String) :
      (((Json.read? body).bind complaint?).getD {}).type = some type ↔
        ∃ json, Json.read? body = some json ∧ Complains type json := by
    simp only [← type_complaint?_eq_some_iff]
    cases Json.read? body with
    | none => simp
    | some json => cases found : complaint? json <;> simp [found]
  have blames : (classify status body).kind = .programming ↔
      ((((Json.read? body).bind complaint?).getD {}).type.map afterLastSign).getD
        ("HTTP " ++ Number.text status) = invalidRequest := by
    unfold classify
    dsimp only
    split <;> simp_all [ServiceError.programming, ServiceError.operational]
  rw [blames]
  constructor
  · intro same
    cases found : (((Json.read? body).bind complaint?).getD {}).type with
    | none =>
        -- The status stands in for the type, and is the name of none.
        rw [found] at same
        exact absurd same (type_ne_invalidRequest status)
    | some type =>
        rw [found] at same
        obtain ⟨json, read, complains⟩ := (told type).mp found
        exact ⟨json, type, read, complains, afterLastSign_eq_iff.mp same⟩
  · rintro ⟨json, type, read, complains, hasName⟩
    rw [(told type).mpr ⟨json, read, complains⟩]
    exact afterLastSign_eq_iff.mpr hasName

theorem Typed.unique {type other : String} {members : List (String × Json)}
    (typed : Typed type members) (typedOther : Typed other members) : type = other := by
  simpa using typed.symm.trans typedOther

theorem kind_eq_operational {error : ServiceError} (noBlame : error.kind ≠ .programming) :
    error.kind = .operational := by
  cases kind : error.kind with
  | operational => rfl
  | programming => exact absurd kind noBlame

structure ClassifiesByType (status : Nat) (body : String) : Prop where
  blames : (classify status body).kind = .programming ↔
    ∃ json type, Json.read? body = some json ∧ Complains type json ∧ HasName type invalidRequest
  typed (type : String) (members : List (String × Json)) :
    Json.read? body = some (.object members) → Typed type members → PlainMessage members →
    ((classify status body).kind = .programming ↔ HasName type invalidRequest)
  /-- Next to a message that cannot be read the type is not seen. -/
  unseen (members : List (String × Json)) :
    Json.read? body = some (.object members) → ¬PlainMessage members →
    (classify status body).kind = .operational
  untyped : (∀ members, Json.read? body = some (.object members) →
      membersNamed ["__type"] members = []) →
    (∀ items, Json.read? body ≠ some (.array items)) →
    (classify status body).kind = .operational

theorem classifiesByType (status : Nat) (body : String) : ClassifiesByType status body where
  blames := kind_classify_iff
  typed type members read typed plain := by
    rw [kind_classify_iff]
    constructor
    · rintro ⟨json, other, readAgain, complains, hasName⟩
      rw [read] at readAgain
      cases readAgain
      cases complains with
      | object typedOther _ => exact typed.unique typedOther ▸ hasName
    · exact fun hasName => ⟨_, type, read, .object typed plain, hasName⟩
  unseen members read notPlain := by
    refine kind_eq_operational fun blames => ?_
    obtain ⟨json, type, readAgain, complains, -⟩ := kind_classify_iff.mp blames
    rw [read] at readAgain
    cases readAgain
    cases complains with
    | object _ plain => exact notPlain plain
  untyped noType noList := by
    refine kind_eq_operational fun blames => ?_
    obtain ⟨json, type, read, complains, -⟩ := kind_classify_iff.mp blames
    cases complains with
    | @object members typed _ => exact absurd ((noType members read).symm.trans typed) nofun
    | list _ _ => exact noList _ read

end Classes

/-! ## What becomes of a call that is to blame -/

section Calls

variable {σ α : Type} {client : Client} {transport : Transport σ} {operation message : String}
  {outside : σ}

inductive Rejects (transport : Transport σ) (request : Request) (outside : σ) :
    (message : String) → Prop
  | complaint {response : Response} {json : Json} {type : String}
      (answered : (transport request outside).1.outcome = .response response)
      (failed : response.isSuccess = false)
      (read : Json.read? response.text = some json)
      (complains : Complains type json)
      (hasName : HasName type invalidRequest) :
      Rejects transport request outside (classify response.status response.text).message

theorem outcome_perform_of_failed {body : Json} {decode : Json → Option (Outcome α)}
    {response : Response}
    (answered : (transport (client.request operation body) outside).1.outcome = .response response)
    (failed : response.isSuccess = false) :
    (client.perform transport operation body decode outside).1.outcome =
      .error (classify response.status response.text) := by
  have interpreted : (client.perform transport operation body decode outside).1.outcome =
      Client.interpret operation decode
        (transport (client.request operation body) outside).1.outcome := rfl
  rw [interpreted, answered, Client.interpret, failed]
  rfl

theorem Rejects.outcome_perform {body : Json} {decode : Json → Option (Outcome α)}
    (rejects : Rejects transport (client.request operation body) outside message) :
    (client.perform transport operation body decode outside).1.outcome =
      .error (.programming message) := by
  cases rejects with
  | @complaint response json type answered failed read complains hasName =>
      have blames : (classify response.status response.text).kind = .programming :=
        kind_classify_iff.mpr ⟨json, type, read, complains, hasName⟩
      rw [outcome_perform_of_failed answered failed]
      exact congrArg Except.error (congrArg (ServiceError.mk · _) blames)

theorem isRetryable_programming (message database catalog : String) :
    (ServiceError.programming message).isRetryable database catalog = false :=
  rfl

theorem attempts_of_blamed {scope : Scope} {attempt : World σ → Outcome α × World σ}
    {world : World σ} (blamed : (attempt world).1 = .error (.programming message))
    (policy : RetryPolicy) (environment : Environment σ) (token : Token) (started : Duration)
    (left failures : Nat) :
    policy.attempts environment scope token attempt started left failures world =
      (.error (.terminal scope.queryId message), ((attempt world).2.now environment).2) := by
  have made : attempt world = (.error (.programming message), (attempt world).2) :=
    Prod.ext blamed rfl
  unfold RetryPolicy.attempts
  rw [made]
  simp only [isRetryable_programming, Bool.not_false, if_true]
  rfl

private theorem race_of_answer {call : Call}
    {replying : σ → Reply (Outcome call.Response) × σ} {world : World σ} {later : σ}
    {answer : Answer (Outcome call.Response)}
    (replies : replying world.outside = (.answer answer, later)) (token : Token) :
    (world.race token call replying).1 =
      if answer.early.contains token then .interrupted else .answered answer.outcome := by
  unfold World.race
  rw [replies]
  dsimp only
  split <;> rfl

private theorem overdue?_outside (poller : Poller) (environment : Environment σ)
    (started : Duration) (world : World σ) :
    (poller.overdue? environment started world).2.outside = world.outside := by
  unfold Poller.overdue?
  split <;> rfl

theorem check_of_rejects {environment : Environment σ} {progress : Poller.Progress σ}
    (speaks : environment.toService = client.service transport)
    (rejects : Rejects transport
      (client.request "GetQueryExecution" (queryIdBody progress.execution.queryId))
      progress.world.outside message) (poller : Poller) (token : Token) (started : Duration) :
    (poller.check environment token started progress).1 =
      if (transport
          (client.request "GetQueryExecution" (queryIdBody progress.execution.queryId))
          progress.world.outside).1.early.contains token then .interrupted
      else .answered (.error (.programming message)) := by
  let performed := client.perform transport "GetQueryExecution"
    (queryIdBody progress.execution.queryId) status? progress.world.outside
  have blamed : performed.1.outcome = .error (.programming message) := rejects.outcome_perform
  have replies : environment.status progress.execution.queryId
      (poller.overdue? environment started progress.world).2.outside =
        (.answer performed.1, performed.2) := by
    rw [speaks, overdue?_outside]
    rfl
  unfold Poller.check
  rw [race_of_answer replies, blamed]
  rfl

structure Client.HeedsComplaints (client : Client) (transport : Transport σ) : Prop where
  reports (operation : String) (body : Json) (outside : σ) (response : Response) :
    (transport (client.request operation body) outside).1.outcome = .response response →
    response.isSuccess = false →
    ∀ {α : Type} (decode : Json → Option (Outcome α)),
      (client.perform transport operation body decode outside).1.outcome =
        .error (classify response.status response.text)
  classifies (status : Nat) (body : String) : ClassifiesByType status body
  /-- The attempt at which the service complains is the last one, whichever it is. -/
  results (environment : Environment σ) (queryId : String) (token : Option String)
    (maxRows : Nat) (world : World σ) (message : String) :
    environment.toService = client.service transport →
    Rejects transport (client.request "GetQueryResults" (resultsBody queryId token maxRows))
      world.outside message →
    ∀ (policy : RetryPolicy) (scope : Scope) (caller : Token) (started : Duration)
      (left failures : Nat),
      policy.attempts environment scope caller (environment.askResults queryId token maxRows)
          started left failures world =
        (.error (.terminal scope.queryId message),
          ((environment.askResults queryId token maxRows world).2.now environment).2)
  schema (environment : Environment σ) (table : Table) (world : World σ) (message : String) :
    environment.toService = client.service transport →
    Rejects transport (client.request "GetTableMetadata" (schemaBody client.catalog table))
      world.outside message →
    ∀ (policy : RetryPolicy) (scope : Scope) (caller : Token) (started : Duration)
      (left failures : Nat),
      policy.attempts environment scope caller (environment.askSchema table) started left
          failures world =
        (.error (.terminal scope.queryId message),
          ((environment.askSchema table world).2.now environment).2)
  /-- No look follows one at which the service complains. -/
  status (environment : Environment σ) (poller : Poller) (caller : Token) (started : Duration)
    (progress : Poller.Progress σ) (message : String) :
    environment.toService = client.service transport →
    Poller.Checks poller environment caller started progress →
    Rejects transport
      (client.request "GetQueryExecution" (queryIdBody progress.execution.queryId))
      progress.world.outside message →
    ∃ conclusion, poller.step environment caller started progress = .concluded conclusion ∧
      conclusion.outcome = .error
        (if (transport
            (client.request "GetQueryExecution" (queryIdBody progress.execution.queryId))
            progress.world.outside).1.early.contains caller then
          .cancelled progress.execution.queryId
        else .terminal (some progress.execution.queryId) message)

/-- Responses that are no success are classified by what they complain of, and a call of which
they complain is not made again. -/
theorem Client.heedsComplaints (client : Client) (transport : Transport σ) :
    client.HeedsComplaints transport where
  reports _ _ _ _ answered failed _ _ := outcome_perform_of_failed answered failed
  classifies := classifiesByType
  results environment queryId token maxRows world message speaks rejects policy scope caller
      started left failures := by
    refine attempts_of_blamed ?_ policy environment caller started left failures
    unfold Environment.askResults
    rw [speaks]
    exact rejects.outcome_perform
  schema environment table world message speaks rejects policy scope caller started left
      failures := by
    refine attempts_of_blamed ?_ policy environment caller started left failures
    unfold Environment.askSchema
    rw [speaks]
    exact rejects.outcome_perform
  status environment poller caller started progress message speaks checks rejects := by
    have checked := check_of_rejects speaks rejects poller caller started
    split at checked
    · rename_i early
      rw [if_pos early]
      exact ⟨_, (Poller.Look.firedMeanwhile checks (Prod.ext checked rfl)).step_eq, rfl⟩
    · rename_i inTime
      rw [if_neg inTime]
      exact Poller.step_of_failsForGood
        (.refused checks (Prod.ext checked rfl) (isRetryable_programming message _ _))

end Calls

/-! ### A complaint that is heard -/

def plainComplaint : String :=
  "\x7b\"__type\":\"com.amazonaws.athena#InvalidRequestException\",\"Message\":\"line 1\"\x7d"

def complaint : Response :=
  { status := 400, pieces := [Text.Utf8.encode plainComplaint] }

def complaining : Environment Unit where
  toService := Client.service (.ofEndpoint "http://h" "AwsDataCatalog") fun _ outside =>
    ({ outcome := .response complaint }, outside)
  object := none
  pause _ outside := ([], outside)
  random outside := ((0, 0), outside)
  step := 1
  wallClock _ := default

/-- The request is to blame, and the call is not made again. -/
theorem heedsComplaints_plainComplaint :
    (classify 400 plainComplaint).kind = .programming ∧
      (RetryPolicy.run complaining {} ⟨some "q1", "sales", "AwsDataCatalog"⟩ ⟨0⟩
          (complaining.askResults "q1" none 10) { outside := () }).1 =
        .error (.terminal (some "q1") "InvalidRequestException: line 1") := by
  have heeds := Client.heedsComplaints (.ofEndpoint "http://h" "AwsDataCatalog") fun _ outside =>
    (({ outcome := .response complaint } : Answer Exchange), (outside : Unit))
  let members : List (String × Json) :=
    [("__type", .string "com.amazonaws.athena#InvalidRequestException"),
      ("Message", .string "line 1")]
  have read : Json.read? plainComplaint = some (.object members) := by cbv
  have typed : Typed "com.amazonaws.athena#InvalidRequestException" members := rfl
  have plain : PlainMessage members :=
    ⟨Nat.le_refl 1, List.forall_mem_singleton.mpr (.text "line 1")⟩
  have hasName : HasName "com.amazonaws.athena#InvalidRequestException" invalidRequest :=
    ⟨by decide, .inr ⟨"com.amazonaws.athena", rfl⟩⟩
  have isText : complaint.text = plainComplaint := by decide +kernel
  have told : (classify complaint.status complaint.text).message =
      "InvalidRequestException: line 1" := by decide +kernel
  refine ⟨((heeds.classifies 400 plainComplaint).typed _ _ read typed plain).mpr hasName, ?_⟩
  have ended := heeds.results complaining "q1" none 10 (World.now complaining { outside := () }).2 _
    rfl
    (.complaint rfl rfl (isText ▸ read) (.object typed plain) hasName) {}
    ⟨some "q1", "sales", "AwsDataCatalog"⟩ ⟨0⟩ (World.now complaining { outside := () }).1
    (RetryPolicy.maxAttempts {}).toNat 0
  rw [told] at ended
  exact congrArg Prod.fst ended

/-! ### A complaint that is not heard -/

def numberedComplaint : String :=
  "\x7b\"__type\":\"InvalidRequestException\",\"message\":5\x7d"

/-- The type alone does not decide: the failure looks like one that may pass. A list that is no
object can blame the request. -/
theorem classify_numberedComplaint :
    (∃ members, Json.read? numberedComplaint = some (.object members) ∧
      Typed invalidRequest members ∧ HasName invalidRequest invalidRequest ∧
      classify 400 numberedComplaint = .operational ("HTTP 400: " ++ numberedComplaint) ∧
      (classify 400 numberedComplaint).isRetryable "sales" "AwsDataCatalog" = true) ∧
    (classify 400 "[\"InvalidRequestException\"]").kind = .programming := by
  have read : Json.read? numberedComplaint =
      some (.object [("__type", .string invalidRequest), ("message", .whole 5)]) := by cbv
  have isOperational : classify 400 numberedComplaint =
      .operational ("HTTP 400: " ++ numberedComplaint) := by decide +kernel
  refine ⟨⟨_, read, rfl, ⟨by decide, .inl rfl⟩, isOperational, ?_⟩, by decide +kernel⟩
  rw [isOperational]
  decide +kernel

end RemoteQuery.Http
