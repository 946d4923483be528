import FilterQuery.ParseTree.Form
import FilterQuery.Yaml.Decoder

/-!
# Parse trees from YAML

A token is the text of a scalar that is not of another type, or a mapping with that text
and, perhaps, a span. Its fields may be numbered instead of named.
-/
namespace FilterQuery

open Yaml

namespace Span

def yamlRecord (depth : Nat) : Yaml.Record Draft Span where
  toRecordForm := form
  set d name p n := do
    let k ← Decoder.natural depth p n
    return if name = "start" then { d with start := some k } else { d with stop := some k }

def yamlDecoder : Yaml.Decoder Span := Yaml.Record.decoder yamlRecord

def offsetOfDatum? : Datum → Option UInt64
  | .atom (.int n) => if 0 ≤ n ∧ n < Nat.pow 2 64 then some (UInt64.ofNat n.toNat) else none
  | _ => none

/-- Whether a key means the field of that name and number. -/
def isKey (name : String) (number : Int) : Datum → Bool
  | .atom (.text s) => s == name
  | .atom (.int n) => n == number
  | _ => false

/-- Whether a key may name a field at all. -/
def isName : Datum → Bool
  | .atom (.text _) => true
  | .atom (.int n) => 0 ≤ n
  | _ => false

/-- The values of a field. -/
def valuesOf (name : String) (number : Int) (es : List (Datum × Datum)) : List Datum :=
  (es.filter fun e => isKey name number e.1).map (·.2)

def ofDatum? : Datum → Option Span
  | .sequence [a, b] => do return ⟨← offsetOfDatum? a, ← offsetOfDatum? b⟩
  | .mapping es =>
    match valuesOf "start" 0 es, valuesOf "end" 1 es with
    | [a], [b] =>
      if es.all fun e => isName e.1 then do
        return ⟨← offsetOfDatum? a, ← offsetOfDatum? b⟩
      else none
    | _, _ => none
  | _ => none

end Span

namespace Token

/-- The token of a value, if it has one of the two forms. -/
def ofDatum? : Datum → Option Token
  | .atom (.text s) => some ⟨s, {}⟩
  | .mapping es =>
    if es.all fun e => Span.isName e.1 then
      match Span.valuesOf "text" 0 es, Span.valuesOf "span" 1 es with
      | [.atom (.text s)], [] => some ⟨s, {}⟩
      | [.atom (.text s)], [v] => (Span.ofDatum? v).map fun span => ⟨s, span⟩
      | _, _ => none
    else none
  | _ => none

def yamlDecoder : Yaml.Decoder Token := fun depth p n => do
  match ofDatum? (← Decoder.datum depth p n) with
  | some t => return t
  | none => Decode.refuse mismatch

end Token

namespace OrderTerm

def yamlRecord (depth : Nat) : Yaml.Record Draft OrderTerm where
  toRecordForm := form
  set d name p n :=
    if name = "attribute" then do
      return { d with attributeName := some (← Token.yamlDecoder depth p n) }
    else do
      return { d with direction := ← Decoder.optional Token.yamlDecoder depth p n }

def yamlDecoder : Yaml.Decoder OrderTerm := Yaml.Record.decoder yamlRecord

end OrderTerm

def NodeKind.yamlDecoder : Yaml.Decoder NodeKind := .variant fun s => .ok (.ofName s)

namespace Node

/-- The fields of a node; `child` decodes the nodes inside. -/
def yamlRecord (child : Yaml.Decoder Node) (depth : Nat) : Yaml.Record Draft Node where
  toRecordForm := form
  set d name p n :=
    match name with
    | "kind" => do return { d with kind := some (← NodeKind.yamlDecoder depth p n) }
    | "span" => do return { d with node.span := ← Span.yamlDecoder depth p n }
    | "attribute" => do
      return { d with node.attributeName := ← Decoder.optional Token.yamlDecoder depth p n }
    | "values" => do
      return { d with node.values := ← Decoder.list Token.yamlDecoder depth p n }
    | "flags" => do
      return { d with node.flags := ← Decoder.list Token.yamlDecoder depth p n }
    | "objectType" => do
      return { d with node.objectType := ← Decoder.optional Token.yamlDecoder depth p n }
    | "orderTerms" => do
      return { d with node.orderTerms := ← Decoder.list OrderTerm.yamlDecoder depth p n }
    | _ => do return { d with node.children := ← Decoder.list child depth p n }

/-- Refuses a node for standing too deep. -/
def tooDeepInYaml : Yaml.Decoder Node := fun _ _ n => Decode.tooDeep n.mark

/-- A node takes up one level of nesting and its list of children another. -/
def decodeYamlAt : Nat → Yaml.Path → Yaml.Node → Yaml.Decode Node
  | 0, p, n => Yaml.Record.decoder (yamlRecord tooDeepInYaml) 0 p n
  | 1, p, n => Yaml.Record.decoder (yamlRecord tooDeepInYaml) 1 p n
  | depth + 2, p, n =>
    Yaml.Record.decoder (yamlRecord fun _ => decodeYamlAt depth) (depth + 2) p n

def yamlDecoder : Yaml.Decoder Node := decodeYamlAt

end Node

namespace ParseTree

def yamlRecord (depth : Nat) : Yaml.Record Draft ParseTree where
  toRecordForm := form
  set d name p n :=
    match name with
    | "name" => do return { d with name := ← Decoder.string depth p n }
    | "source" => do return { d with source := ← Decoder.string depth p n }
    | _ => do return { d with nodes := some (← Decoder.list Node.yamlDecoder depth p n) }

def yamlDecoder : Yaml.Decoder ParseTree := Yaml.Record.decoder yamlRecord

end ParseTree

end FilterQuery
