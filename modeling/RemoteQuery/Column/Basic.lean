import RemoteQuery.Column.Family
import RemoteQuery.Json.Fields

namespace RemoteQuery

/-- One column of a result. Ordinals count from one; a column that stands for itself
has ordinal zero. -/
structure Column where
  name : String
  wireType : String
  ordinal : Nat := 0
  nullable : Bool := true
  precision : Option UInt32 := none
  scale : Option UInt32 := none
deriving Repr, DecidableEq, Inhabited

namespace Column

def ofType (name wireType : String) : Column :=
  match Family.ofWireType wireType with
  | .decimal precision scale => { name, wireType, precision, scale }
  | _ => { name, wireType }

/-- The family of the cells. A parameter that the wire type leaves open is the
column's own. -/
def family (column : Column) : Family :=
  match Family.ofWireType column.wireType with
  | .decimal precision scale =>
      .decimal (precision.or column.precision) (scale.or column.scale)
  | family => family

def toString (column : Column) : String :=
  column.name ++ " " ++ column.wireType

/-! ## Lists of columns -/

def suffixed (name : String) (suffix : Nat) : String :=
  name ++ "_" ++ Number.text suffix

/-- The name with the least suffix that is not taken. One more suffix is tried than
there are names, so one of them is free; a result has fewer than 2³¹ columns, and no suffix
that is tried is greater. -/
def freshName (name : String) (taken : List String) : String :=
  let suffixes := List.range' 1 (taken.length + 1)
  ((suffixes.map (suffixed name)).find? (!taken.contains ·)).getD name

/-- The parameters of the wire type, for a column that has none. -/
def withParameters (column : Column) : Column :=
  match column.precision, column.scale, Family.ofWireType column.wireType with
  | none, none, .decimal precision scale => { column with precision, scale }
  | _, _, _ => column

def normalizeFrom (ordinal : Nat) (earlier taken : List String) : List Column → List Column
  | [] => []
  | column :: rest =>
      let name :=
        if earlier.contains column.name then freshName column.name taken else column.name
      ({ column with name, ordinal } : Column).withParameters ::
        normalizeFrom (ordinal + 1) (column.name :: earlier) (name :: taken) rest

/-- Columns with ordinals from one on and with names that differ. The first column of
a name keeps it; a later one gets the least suffix that makes a name which no other
column has. -/
def normalize (columns : List Column) : List Column :=
  normalizeFrom 1 [] (columns.map (·.name)) columns

example :
    (normalize [ofType "a" "date", ofType "a" "date", ofType "a_1" "date"]).map (·.name) =
      ["a", "a_2", "a_1"] := by cbv

/-! ## Records -/

def toJson (column : Column) : Json :=
  .object [("name", .string column.name), ("type", .string column.wireType),
    ("ordinal", .ofNat column.ordinal), ("nullable", .bool column.nullable),
    ("precision", .ofOption (Json.ofNat ·.toNat) column.precision),
    ("scale", .ofOption (Json.ofNat ·.toNat) column.scale)]

def ofJson? (json : Json) : Option Column := do
  let fields ← Json.Fields.of?
    [["name"], ["type"], ["ordinal"], ["nullable"], ["precision"], ["scale"]] json
  some {
    name := ← fields.required "name" Json.string?
    wireType := ← fields.required "type" Json.string?
    ordinal := ← fields.defaulted "ordinal" 0 (Json.below? (2 ^ 64))
    nullable := ← fields.defaulted "nullable" true Json.bool?
    precision := ← fields.defaulted "precision" none (Json.option? Json.uint32?)
    scale := ← fields.defaulted "scale" none (Json.option? Json.uint32?) }

end Column

namespace Family

def name : Family → String
  | .boolean => "Boolean"
  | .integer => "Integer"
  | .float => "Float"
  | .decimal _ _ => "Decimal"
  | .date => "Date"
  | .time => "Time"
  | .timestamp => "Timestamp"
  | .zonedTimestamp => "TimestampTz"
  | .text => "String"
  | .binary => "Binary"
  | .array => "Array"
  | .map => "Map"
  | .row => "Row"

def plain : List (String × Family) :=
  [Family.boolean, .integer, .float, .date, .time, .timestamp, .zonedTimestamp, .text, .binary,
    .array, .map, .row].map fun family => (family.name, family)

def toJson (family : Family) : Json :=
  match family with
  | .decimal precision scale =>
      .object [(family.name, .object
        [("precision", .ofOption (Json.ofNat ·.toNat) precision),
          ("scale", .ofOption (Json.ofNat ·.toNat) scale)])]
  | _ => .string family.name

def ofJson? : Json → Option Family
  | .object [("Decimal", contents)] => do
      let fields ← Json.Fields.of? [["precision"], ["scale"]] contents
      some (.decimal (← fields.optional "precision" Json.uint32?)
        (← fields.optional "scale" Json.uint32?))
  | json => Json.choice? plain json

end Family

end RemoteQuery
