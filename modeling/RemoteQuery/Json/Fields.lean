import RemoteQuery.Json.Reader

namespace RemoteQuery.Json

/-! Records in JSON. A record is an object with a member for each field, or an array
with the values of its fields in order. Members that are no field are ignored, and
a field that is given twice is refused. -/

/-- The values given for the fields of a record. -/
structure Fields where
  /-- The record is an array, so that fields can be missing only at its end. -/
  positional : Bool
  given : List (String × Json)

namespace Fields

/-- The fields among the members of an object, under their first names. -/
def ofMembers? (names : List (List String)) (members : List (String × Json)) :
    Option (List (String × Json)) :=
  match names with
  | [] => some []
  | aliases :: rest =>
      match members.filter fun member => aliases.contains member.1, aliases with
      | [], _ => ofMembers? rest members
      | [member], name :: _ => (ofMembers? rest members).map ((name, member.2) :: ·)
      | _, _ => none

/-- The fields of a record whose fields have the given names. Each field may have
several names, of which the first is used here. -/
def of? (names : List (List String)) : Json → Option Fields
  | .object members => (ofMembers? names members).map fun given => ⟨false, given⟩
  | .array items =>
      if items.length ≤ names.length then
        some ⟨true, (names.map (·.headD "")).zip items⟩
      else none
  | _ => none

def required {α : Type} (fields : Fields) (name : String) (decode : Json → Option α) :
    Option α :=
  (fields.given.lookup name).bind decode

/-- A field that may be null, and that an object may leave out. -/
def optional {α : Type} (fields : Fields) (name : String) (decode : Json → Option α) :
    Option (Option α) :=
  match fields.given.lookup name with
  | none => if fields.positional then none else some none
  | some value => option? decode value

def defaulted {α : Type} (fields : Fields) (name : String) (fallback : α)
    (decode : Json → Option α) : Option α :=
  match fields.given.lookup name with
  | none => some fallback
  | some value => decode value

end Fields

/-- A choice without contents: its name, or an object with the name as only key and
null as its value. -/
def choice? {α : Type} (choices : List (String × α)) : Json → Option α
  | .string name => choices.lookup name
  | .object [(name, .null)] => choices.lookup name
  | _ => none

end RemoteQuery.Json
