import RemoteQuery.Json.Fields

namespace RemoteQuery

inductive ServiceErrorKind where
  /-- The service or its catalog failed, perhaps only for now. -/
  | operational
  /-- The request itself is wrong, so that asking again does not help. -/
  | programming
deriving Repr, DecidableEq, Inhabited

namespace ServiceErrorKind

def toString : ServiceErrorKind → String
  | .operational => "OperationalError"
  | .programming => "ProgrammingError"

def name : ServiceErrorKind → String
  | .operational => "Operational"
  | .programming => "Programming"

def toJson (kind : ServiceErrorKind) : Json :=
  .string kind.name

def ofJson? : Json → Option ServiceErrorKind :=
  Json.choice? ([operational, programming].map fun kind => (kind.name, kind))

end ServiceErrorKind

structure ServiceError where
  kind : ServiceErrorKind
  message : String
deriving Repr, DecidableEq, Inhabited

namespace ServiceError

def operational (message : String) : ServiceError :=
  ⟨.operational, message⟩

def programming (message : String) : ServiceError :=
  ⟨.programming, message⟩

def toString (error : ServiceError) : String :=
  error.kind.toString ++ ": " ++ error.message

end ServiceError

end RemoteQuery
