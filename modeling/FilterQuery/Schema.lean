import FilterQuery.Json.Decoder
import FilterQuery.Json.Value
import FilterQuery.Registry
import FilterQuery.Query
import FilterQuery.RecordForm
import FilterQuery.Text.Blank

/-!
# Schemas

A schema names the object type that queries select and the attributes that they may
mention. The object type may not be blank.
-/
namespace FilterQuery

structure Schema where
  objectType : String
  attributes : Std.ExtTreeMap String ValueType := ∅

namespace Schema

/-- The attributes of the schema as a registry. -/
def registry (s : Schema) : Registry := .ofList s.attributes.toList

def isBlank (s : Schema) : Bool := (Text.trimChars s.objectType.toList).isEmpty

def toJson (s : Schema) : Json :=
  .object [("objectType", .string s.objectType),
    ("attributes", .object (s.attributes.toList.map fun (n, t) => (n, .string t.keyword)))]

structure Draft where
  objectType : Option String := none
  attributes : Std.ExtTreeMap String ValueType := ∅

/-- The value type of that name, or why there is none. -/
def typeOf (s : String) : Except String ValueType :=
  match ValueType.ofKeyword? s with
  | some t => .ok t
  | none => .error
      s!"unknown variant `{s}`, expected one of `integer`, `float`, `bool`, `string`"

/-- The last entry of a name counts. -/
def ofEntries (ts : List (String × ValueType)) : Std.ExtTreeMap String ValueType :=
  ts.foldl (fun m t => m.insert t.1 t.2) ∅

def form : RecordForm Draft Schema where
  title := "struct SchemaConfig"
  fields := ["objectType", "attributes"]
  closed := true
  empty := {}
  finish d :=
    match d.objectType with
    | some t => .ok ⟨t, d.attributes⟩
    | none => .error "objectType"

open Json in
def record (depth : Nat) : Record Draft Schema where
  toRecordForm := form
  set d name o :=
    if name = "objectType" then do
      return { d with objectType := some (← Decoder.string depth o) }
    else do
      return { d with attributes := ofEntries (← Decoder.entries (.variant typeOf) depth o) }

def decoder : Json.Decoder Schema := Json.Record.decoder record

end Schema

end FilterQuery
