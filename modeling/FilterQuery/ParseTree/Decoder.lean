import FilterQuery.Json.Decoder
import FilterQuery.Json.Value
import FilterQuery.ParseTree.Form

/-!
# Parse trees from JSON

A token may be written as a bare string or as an object with its text and, perhaps, its
span; other members of tokens and of spans are passed over.
-/
namespace FilterQuery

namespace Span

open Json in
def record (depth : Nat) : Record Draft Span where
  toRecordForm := form
  set d name o := do
    let n ← Decoder.natural depth o
    return if name = "start" then { d with start := some n } else { d with stop := some n }

def decoder : Json.Decoder Span := Json.Record.decoder record

def offset? : Json → Option UInt64
  | .int n => if 0 ≤ n ∧ n < Nat.pow 2 64 then some (UInt64.ofNat n.toNat) else none
  | _ => none

/-- The span of a JSON value, if it has the form of one. -/
def ofJson? : Json → Option Span
  | .array [a, b] => do return ⟨← offset? a, ← offset? b⟩
  | .object ms =>
    match Json.named "start" (.object ms), Json.named "end" (.object ms) with
    | [a], [b] => do return ⟨← offset? a, ← offset? b⟩
    | _, _ => none
  | _ => none

end Span

namespace Token

/-- The token of a JSON value, if it has one of the two forms. -/
def ofJson? : Json → Option Token
  | .string s => some ⟨s, {}⟩
  | .object ms =>
    match Json.named "text" (.object ms), Json.named "span" (.object ms) with
    | [.string s], [] => some ⟨s, {}⟩
    | [.string s], [j] => (Span.ofJson? j).map fun span => ⟨s, span⟩
    | _, _ => none
  | _ => none

def decoder : Json.Decoder Token := fun depth o => do
  match ofJson? (← o.value depth) with
  | some t => return t
  | none => .error ⟨mismatch, none⟩

end Token

namespace OrderTerm

open Json in
def record (depth : Nat) : Record Draft OrderTerm where
  toRecordForm := form
  set d name o :=
    if name = "attribute" then do
      return { d with attributeName := some (← Token.decoder depth o) }
    else do
      return { d with direction := ← Decoder.optional Token.decoder depth o }

def decoder : Json.Decoder OrderTerm := Json.Record.decoder record

end OrderTerm

def NodeKind.decoder : Json.Decoder NodeKind := .variant fun s => .ok (.ofName s)

namespace Node

open Json in
/-- The fields of a node; `child` decodes the nodes inside. -/
def record (child : Decoder Node) (depth : Nat) : Record Draft Node where
  toRecordForm := form
  set d name o :=
    match name with
    | "kind" => do return { d with kind := some (← NodeKind.decoder depth o) }
    | "span" => do return { d with node.span := ← Span.decoder depth o }
    | "attribute" => do
      return { d with node.attributeName := ← Decoder.optional Token.decoder depth o }
    | "values" => do return { d with node.values := ← Decoder.list Token.decoder depth o }
    | "flags" => do return { d with node.flags := ← Decoder.list Token.decoder depth o }
    | "objectType" => do
      return { d with node.objectType := ← Decoder.optional Token.decoder depth o }
    | "orderTerms" => do
      return { d with node.orderTerms := ← Decoder.list OrderTerm.decoder depth o }
    | _ => do return { d with node.children := ← Decoder.list child depth o }

/-- A node takes up one level of nesting and its list of children another. -/
def decodeAt : Nat → Json.Outline → Except Json.Refusal Node
  | 0, o => Json.Record.decoder (record .tooDeep) 0 o
  | 1, o => Json.Record.decoder (record .tooDeep) 1 o
  | depth + 2, o => Json.Record.decoder (record fun _ => decodeAt depth) (depth + 2) o

def decoder : Json.Decoder Node := decodeAt

end Node

namespace ParseTree

open Json in
def record (depth : Nat) : Record Draft ParseTree where
  toRecordForm := form
  set d name o :=
    match name with
    | "name" => do return { d with name := ← Decoder.string depth o }
    | "source" => do return { d with source := ← Decoder.string depth o }
    | _ => do return { d with nodes := some (← Decoder.list Node.decoder depth o) }

def decoder : Json.Decoder ParseTree := Json.Record.decoder record

end ParseTree

end FilterQuery
