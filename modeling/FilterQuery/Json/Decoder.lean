import FilterQuery.Json.Outline
import FilterQuery.Json.Printer
import FilterQuery.RecordForm
import FilterQuery.Text.Escaped

/-!
# Decoding JSON texts

A decoder reads the outline of a text as a value of some type and refuses what does not
fit, at the first place in the order of the text. Records may stand as objects or as
arrays of their fields in order. Arrays and objects may nest up to a fixed depth; a
decoder is told how many levels are left.
-/
namespace FilterQuery.Json

/-- Why a text was refused, and where; some reasons get their place from what is around. -/
structure Refusal where
  message : String
  place : Option Place := none

namespace Refusal

def ofFlaw (f : Flaw) : Refusal := ⟨f.fault.message, some f.place⟩

/-- The refusal with a place, if it had none. -/
def placedAt (e : Refusal) (p : Place) : Refusal := ⟨e.message, e.place.or (some p)⟩

end Refusal

def refuse {α : Type} (message : String) (r : Rest) : Except Refusal α :=
  .error ⟨message, some ⟨r, 0⟩⟩

def flawed {α : Type} (f : Flaw) : Except Refusal α := .error (.ofFlaw f)

def ofFlawed {α : Type} (x : Except Flaw α) : Except Refusal α := x.mapError .ofFlaw

/-- How a number is named in a message. -/
def Number.description : Number → String
  | natural n => s!"integer `{n.toNat}`"
  | negative n => s!"integer `{n}`"
  | float x => "floating point `" ++ floatText x ++ "`"

/-- The levels of nesting that a text may have. -/
def depthLimit : Nat := 127

/-- A decoder of values at a depth. -/
abbrev Decoder (α : Type) := Nat → Outline → Except Refusal α

/-- The string that starts here with its opening quote. -/
def readString (start : Rest) : Except Refusal String :=
  ofFlawed ((Quoted.read start.tail).map fun p => String.ofList p.1)

/-- Refuses a value of another type than the one expected. Arrays and objects are refused
where they start, other values where they end. -/
def refuseType {α : Type} (expected : String) : Outline → Except Refusal α
  | .null _ stop => refuse s!"invalid type: null, expected {expected}" stop
  | .bool b _ stop =>
    refuse ("invalid type: boolean `" ++ toString b ++ s!"`, expected {expected}") stop
  | .number start stop => do
    let n ← ofFlawed (Number.read start)
    refuse s!"invalid type: {n.description}, expected {expected}" stop
  | .string start stop => do
    let s ← readString start
    refuse s!"invalid type: string {Text.quoted s}, expected {expected}" stop
  | .array start _ => refuse s!"invalid type: sequence, expected {expected}" start
  | .object start _ => refuse s!"invalid type: map, expected {expected}" start
  | .broken start => flawed (Outline.flawAt false start)

namespace Decoder

variable {α : Type}

/-- Refuses a value for standing too deep. -/
def tooDeep : Decoder α := fun _ o => flawed (.within .tooDeep o.start)

def string : Decoder String := fun _ o =>
  match o with
  | .string start _ => readString start
  | o => refuseType "a string" o

/-- A natural number of 64 bits. -/
def natural : Decoder UInt64 := fun _ o =>
  match o with
  | .number start stop => do
    match ← ofFlawed (Number.read start) with
    | .natural n => return n
    | .negative n =>
      refuse ("invalid value: " ++ (Number.negative n).description ++ ", expected usize") stop
    | .float x =>
      refuse ("invalid type: " ++ (Number.float x).description ++ ", expected usize") stop
  | o => refuseType "usize" o

/-- A value or `null`. -/
def optional (d : Decoder α) : Decoder (Option α) := fun depth o =>
  match o with
  | .null .. => .ok none
  | .broken ('n' :: r) => flawed (Outline.flawAt false ('n' :: r))
  | o => (d depth o).map some

/-- The point where a list of items is left when an item was refused. -/
def afterItem (stop : Rest) : Place :=
  match skipBlank stop with
  | ']' :: r => ⟨r, 0⟩
  | ',' :: r => ⟨skipBlank r, 0⟩
  | r => ⟨r, 0⟩

/-- The point where a list of members is left when a member was refused. -/
def afterMember (stop : Rest) : Place :=
  match skipBlank stop with
  | '\x7d' :: r => ⟨r, 0⟩
  | r => ⟨r, 0⟩

def placed (after : Rest → Place) (o : Outline) (x : Except Refusal α) : Except Refusal α :=
  x.mapError fun e => e.placedAt (after ((o.stop?).getD []))

def items (d : Outline → Except Refusal α) : Items → Except Refusal (List α)
  | .close _ => .ok []
  | .cons item next => do
    let a ← placed afterItem item (d item)
    let as ← items d next
    return a :: as
  | .cut gap => flawed (gap.arrayFlaw false)

/-- An array of values; they are one level deeper. -/
def list (d : Decoder α) : Decoder (List α) := fun depth o =>
  match o with
  | .array start parts =>
    match depth with
    | 0 => flawed (.within .tooDeep start)
    | depth + 1 => items (d depth) parts
  | o => refuseType "a sequence" o

/-- The key of a member of an object that is read as a map. -/
def members (d : Outline → Except Refusal α) : Members → Except Refusal (List (String × α))
  | .close _ => .ok []
  | .cons keyStart _ value next => do
    let k ← readString keyStart
    let a ← placed afterMember value (d value)
    let ms ← members d next
    return (k, a) :: ms
  | .noColon keyStart keyStop => do
    let _ ← readString keyStart
    flawed (colonFlaw keyStop)
  | .brokenKey start => flawed (Outline.flawAt false start)
  | .notKey here => flawed (.within .keyNotString here)
  | .cut gap => flawed (gap.objectFlaw false)

/-- The members of an object, in order and with repetitions. -/
def entries (d : Decoder α) : Decoder (List (String × α)) := fun depth o =>
  match o with
  | .object start parts =>
    match depth with
    | 0 => flawed (.within .tooDeep start)
    | depth + 1 => members (d depth) parts
  | o => refuseType "a map" o

end Decoder

/-- The end of an object that names a variant and closes. -/
def closeVariant {α : Type} (a : α) (stop : Rest) : Except Refusal α :=
  match skipBlank stop with
  | '\x7d' :: _ => .ok a
  | [] => flawed (.before .endInObject [])
  | r => flawed (.before .expectedValue r)

/-- A name out of a list of variants: as a string, or as the key of an object whose only
value is `null`. -/
def Decoder.variant {α : Type} (ofName : String → Except String α) : Decoder α := fun depth o =>
  let named (keyStart keyStop : Rest) : Except Refusal α := do
    let s ← readString keyStart
    match ofName s with
    | .ok a => return a
    | .error message => refuse message keyStop
  match o with
  | .string start stop => named start stop
  | .object start parts =>
    match depth with
    | 0 => flawed (.within .tooDeep start)
    | _ + 1 =>
      match parts with
      | .cons keyStart keyStop value _ => do
        let a ← named keyStart keyStop
        match value with
        | .null _ stop => closeVariant a stop
        | value => refuseType "unit" value
      | .noColon keyStart keyStop => do
        let _ ← named keyStart keyStop
        flawed (colonFlaw keyStop)
      | .brokenKey r => flawed (Outline.flawAt false r)
      | .notKey r => refuseType "variant identifier" (.ofText r)
      | .close stop => flawed (.before .expectedValue stop)
      | .cut _ => flawed (.before .endInValue [])
  | .array start _ => flawed (.within .expectedValue start)
  | .null start _ | .bool _ start _ | .number start _ => flawed (.within .expectedValue start)
  | .broken r =>
    flawed (if r.isEmpty ∨ r.head? = some '"' then Outline.flawAt false r
      else .within .expectedValue r)

/-! ## Records -/

/-- The form of a record with the way each of its fields is decoded. -/
structure Record (σ α : Type) extends RecordForm σ α where
  set : σ → String → Outline → Except Refusal σ

namespace Record

variable {σ α : Type}

/-- A key that was read: whether it is a field, unless it may not stand there. -/
def checkKey (r : Record σ α) (seen : List String) (keyStart keyStop : Rest) :
    Except Refusal (String × Bool) := do
  let k ← readString keyStart
  if k ∈ r.fields then
    if k ∈ seen then
      .error ⟨RecordForm.duplicateField k, some (Decoder.afterMember keyStop)⟩
    else return (k, true)
  else if r.closed then
    refuse (r.unknownField k) keyStop
  else return (k, false)

def ofMembers (r : Record σ α) (acc : σ) (seen : List String) : Members → Except Refusal α
  | .close stop =>
    match r.finish acc with
    | .ok a => .ok a
    | .error name => refuse (RecordForm.missingField name) stop
  | .cons keyStart keyStop value next => do
    let (k, known) ← r.checkKey seen keyStart keyStop
    if known then
      let acc' ← Decoder.placed Decoder.afterMember value (r.set acc k value)
      ofMembers r acc' (k :: seen) next
    else
      match value.skipFlaw? with
      | some f => flawed f
      | none => ofMembers r acc seen next
  | .noColon keyStart keyStop => do
    let _ ← r.checkKey seen keyStart keyStop
    flawed (colonFlaw keyStop)
  | .brokenKey start => flawed (Outline.flawAt false start)
  | .notKey here => flawed (.within .keyNotString here)
  | .cut gap => flawed (gap.objectFlaw false)

/-- Requires that an array ends here. -/
def closeItems {α : Type} (a : α) : Items → Except Refusal α
  | .close _ => .ok a
  | .cons item _ => flawed (.within .trailingCharacters item.start)
  | .cut (.afterComma here) =>
    flawed (.within (if here.isEmpty then .trailingCharacters else .trailingComma) here)
  | .cut (.unseparated here) =>
    flawed (.within (if here.isEmpty then .endInArray else .trailingCharacters) here)

/-- The fields in order; those at the end may be missing if they are not required. -/
def ofItems (r : Record σ α) (acc : σ) : List String → Items → Except Refusal α
  | [], parts =>
    match r.finish acc with
    | .ok a => closeItems a parts
    | .error name => .error ⟨RecordForm.missingField name, none⟩
  | _ :: _, .close stop =>
    match r.finish acc with
    | .ok a => .ok a
    | .error name =>
      refuse s!"invalid length {r.fields.idxOf name}, expected {r.title} with {r.fields.length} elements"
        stop
  | name :: names, .cons item next => do
    let acc' ← Decoder.placed Decoder.afterItem item (r.set acc name item)
    ofItems r acc' names next
  | _ :: _, .cut gap => flawed (gap.arrayFlaw false)

/-- The record as an object or an array; its fields are one level deeper, and are decoded
by what `r` gives for that depth. -/
def decoder (r : Nat → Record σ α) : Decoder α := fun depth o =>
  match o with
  | .object start parts =>
    match depth with
    | 0 => flawed (.within .tooDeep start)
    | depth + 1 => (r depth).ofMembers (r depth).empty [] parts
  | .array start parts =>
    match depth with
    | 0 => flawed (.within .tooDeep start)
    | depth + 1 => (r depth).ofItems (r depth).empty (r depth).fields parts
  | o => refuseType (r 0).title o

end Record

/-! ## Values without a fixed shape -/

def Number.toJson : Number → Json
  | natural n => .int n.toNat
  | negative n => .int n
  | float x => .float x

mutual

/-- The value as it stands. -/
def Outline.value (depth : Nat) : Outline → Except Refusal Json
  | .null .. => .ok .null
  | .bool b .. => .ok (.bool b)
  | .number start _ => (ofFlawed (Number.read start)).map Number.toJson
  | .string start _ => (readString start).map .string
  | .array start items =>
    match depth with
    | 0 => flawed (.within .tooDeep start)
    | depth + 1 => (items.values depth).map .array
  | .object start members =>
    match depth with
    | 0 => flawed (.within .tooDeep start)
    | depth + 1 => (members.values depth).map .object
  | .broken start => flawed (Outline.flawAt false start)

def Items.values (depth : Nat) : Items → Except Refusal (List Json)
  | .close _ => .ok []
  | .cons item next => do
    let j ← item.value depth
    let js ← next.values depth
    return j :: js
  | .cut gap => flawed (gap.arrayFlaw false)

def Members.values (depth : Nat) : Members → Except Refusal (List (String × Json))
  | .close _ => .ok []
  | .cons keyStart _ value next => do
    let k ← readString keyStart
    let j ← value.value depth
    let ms ← next.values depth
    return (k, j) :: ms
  | .noColon keyStart keyStop => do
    let _ ← readString keyStart
    flawed (colonFlaw keyStop)
  | .brokenKey start => flawed (Outline.flawAt false start)
  | .notKey here => flawed (.within .keyNotString here)
  | .cut gap => flawed (gap.objectFlaw false)

end

/-- Reads a text as one value, with nothing but blanks around it. -/
def decodeChars {α : Type} (d : Decoder α) (text : List Char) : Except Refusal α := do
  let o := Outline.ofText text
  let a ← d depthLimit o
  match skipBlank ((o.stop?).getD []) with
  | [] => return a
  | r => flawed (.within .trailingCharacters r)

/-- The refusal with the line and column of its place. -/
def Refusal.describe (e : Refusal) (text : List Char) : String :=
  match e.place with
  | none => e.message
  | some p =>
    let q := p.position text
    s!"{e.message} at line {q.line} column {q.column}"

/-- Reads a text, with the wording of a refusal. -/
def decode {α : Type} (d : Decoder α) (text : String) : Except String α :=
  (decodeChars d text.toList).mapError fun e => e.describe text.toList

end FilterQuery.Json
