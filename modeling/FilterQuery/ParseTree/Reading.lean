import FilterQuery.Json.Reading
import FilterQuery.ParseTree.Decoder
import FilterQuery.Schema

/-!
# Parts of parse trees and schemas from JSON values
-/
namespace FilterQuery

def NodeKind.ofJson (j : Json) : Except String NodeKind :=
  j.readVariant fun s => .ok (.ofName s)

def ValueType.ofJson (j : Json) : Except String ValueType := j.readVariant Schema.typeOf

def Token.ofJson (j : Json) : Except String Token :=
  match Token.ofJson? j with
  | some t => .ok t
  | none => .error Token.mismatch

namespace OrderTerm

def directionOfJson : Json → Except String (Option Token)
  | .null => .ok none
  | j => (Token.ofJson j).map some

/-- Adds the members of an object to what has been read of a term. -/
def ofMembers (d : Draft) : List (String × Json) → Except String OrderTerm
  | [] =>
    match d.attributeName with
    | some a => .ok ⟨a, d.direction⟩
    | none => .error "missing field `attribute`"
  | (k, j) :: ms =>
    if k = "attribute" then do
      let t ← Token.ofJson j
      ofMembers { d with attributeName := some t } ms
    else if k = "direction" then do
      let t ← directionOfJson j
      ofMembers { d with direction := t } ms
    else .error s!"unknown field `{k}`, expected `attribute` or `direction`"

def ofJson : Json → Except String OrderTerm
  | .object ms => ofMembers {} ms
  | .array [] => .error "invalid length 0, expected struct OrderTerm with 2 elements"
  | .array [a] => do return ⟨← Token.ofJson a, none⟩
  | .array [a, b] => do return ⟨← Token.ofJson a, ← directionOfJson b⟩
  | .array (a :: b :: js) => do
    let _ ← Token.ofJson a
    let _ ← directionOfJson b
    .error s!"invalid length {js.length + 2}, expected fewer elements in array"
  | j => .error (j.typeMessage "struct OrderTerm")

end OrderTerm

end FilterQuery
