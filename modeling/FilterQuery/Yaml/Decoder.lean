import FilterQuery.RecordForm
import FilterQuery.Yaml.Document
import FilterQuery.Yaml.Scalar

/-!
# Decoding YAML texts

A decoder reads a node of a document as a value of some type. What it refuses is told with
the path of fields and items that leads there. A text that breaks off is refused only where
decoding comes to the break, so that an earlier misfit is told first. Sequences and mappings
may nest up to a fixed depth, and aliases may be followed only so often.
-/
namespace FilterQuery.Yaml

/-- The fields and items from the root to a node. -/
structure Path where
  text : String := "."
  deriving DecidableEq, Repr

namespace Path

def field (p : Path) (name : String) : Path :=
  ⟨if p.text = "." then name else p.text ++ "." ++ name⟩

def item (p : Path) (n : Nat) : Path := ⟨p.text ++ s!"[{n}]"⟩

end Path

/-- Why a document was refused. Some misfits get their place from what is around. -/
inductive Refusal
  | misfit (message : String)
  | placed (message : String) (path : Path) (mark : Mark)
  | flaw (f : Flaw)

def Refusal.message : Refusal → String
  | misfit message => message
  | placed message path mark =>
    (if path.text = "." then message else path.text ++ ": " ++ message) ++ mark.clause
  | flaw f => f.message

/-- Decoding within a document, which counts the aliases that were followed. -/
abbrev Decode := ReaderT Document (StateT Nat (Except Refusal))

/-- The levels of nesting that a document may have. -/
def depthLimit : Nat := 128

/-- A decoder, told how many levels are left and the path of the node. -/
abbrev Decoder (α : Type) := Nat → Path → Node → Decode α

namespace Decode

variable {α : Type}

def refuse (message : String) : Decode α := throw (.misfit message)

def flawed (f : Flaw) : Decode α := throw (.flaw f)

/-- Gives a misfit its place, if it had none. -/
def placing (p : Path) (m : Mark) (x : Decode α) : Decode α :=
  tryCatch x fun
    | .misfit message => throw (.placed message p m)
    | e => throw e

/-- Refuses to go on where the text broke off. -/
def broken : Decode α := do
  flawed ((← read).flaw.getD (.ofText "EOF while parsing a value"))

def tooDeep (m : Mark) : Decode α := flawed (.problem "recursion limit exceeded" m none)

/-- Each event may be reached through an alias a hundred times on average. -/
def followAlias (number : Nat) : Decode Node := do
  let d ← read
  let followed ← get
  set (followed + 1)
  if d.events.length * 100 < followed + 1 then flawed (.ofText "repetition limit exceeded")
  else return d.target number

/-- The node itself, or the one that it stands for as an alias. -/
def resolve : Node → Decode Node
  | .reference number _ => followAlias number
  | n => return n

/-- Refuses a node of another type than the one expected. -/
def refuseType (expected : String) : Node → Decode α
  | .scalar s _ =>
    match s.atom with
    | .ok a => refuse s!"invalid type: {a.description}, expected {expected}"
    | .error message => refuse message
  | .sequence .. => refuse s!"invalid type: sequence, expected {expected}"
  | .mapping .. => refuse s!"invalid type: map, expected {expected}"
  | .reference .. | .missing => broken

end Decode

namespace Decoder

open Decode

variable {α : Type}

/-- A decoder of nodes that are not aliases, with its misfits placed at the node. -/
def ofNode (f : Nat → Path → Node → Decode α) : Decoder α := fun depth p n => do
  let n ← resolve n
  placing p n.mark (f depth p n)

/-- The text of any scalar. -/
def text (expected : String) : Decoder String := .ofNode fun _ _ n =>
  match n with
  | .scalar s _ => return s.text
  | n => refuseType expected n

def string : Decoder String := text "a string"

/-- A natural number of 64 bits. -/
def natural : Decoder UInt64 := .ofNode fun _ _ n =>
  let number : Option Nat :=
    match n with
    | .scalar s _ =>
      if s.style = .plain ∨ s.style = .literal ∧ s.tag = some .int then
        Scalar.unsigned? (Nat.pow 2 64) s.text.toList
      else none
    | _ => none
  match number with
  | some k => return .ofNat k
  | none => refuseType "usize" n

/-- Whether a scalar stands for no value. -/
def isAbsent (s : Scalar) : Decode Bool :=
  if s.style ≠ .plain then return false
  else
    match s.tag with
    | none => return s.text.isEmpty || Scalar.isNullWord s.text
    | some tag =>
      if tag ≠ .null then return false
      else if Scalar.isNullWord s.text then return true
      else refuse (Scalar.misfit s.text "null")

/-- A value, or nothing. -/
def optional (d : Decoder α) : Decoder (Option α) := fun depth p n => do
  match ← resolve n with
  | .scalar s m => do
    if ← isAbsent s then return none else return some (← d depth p (.scalar s m))
  | .missing => broken
  | n => return some (← d depth p n)

/-- The items of a sequence, from a number on. -/
def items (d : Path → Node → Decode α) (p : Path) : Nat → List Node → Decode (List α)
  | _, [] => return []
  | k, n :: ns => do
    let a ← d (p.item k) n
    let as ← items d p (k + 1) ns
    return a :: as

/-- A sequence of values, which are one level deeper. Nothing at all is an empty one. -/
def list (d : Decoder α) : Decoder (List α) := .ofNode fun depth p n =>
  match n with
  | .sequence _ ns m =>
    match depth with
    | 0 => tooDeep m
    | depth + 1 => items (d depth) p 0 ns
  | .scalar s _ => if s.isVoid then return [] else refuseType "a sequence" n
  | n => refuseType "a sequence" n

/-- The path of the value that belongs to a key. -/
def valuePath (p : Path) : Node → Path
  | .scalar s _ => p.field s.text
  | _ => p.field "?"

/-- The entries of a mapping in order, with repetitions. -/
def pairs (d : Path → Node → Decode α) (depth : Nat) (p : Path) :
    List (Node × Node) → Decode (List (String × α))
  | [] => return []
  | (k, v) :: es => do
    let name ← string depth p k
    let a ← d (valuePath p k) v
    let rest ← pairs d depth p es
    return (name, a) :: rest

def entries (d : Decoder α) : Decoder (List (String × α)) := .ofNode fun depth p n =>
  match n with
  | .mapping _ es m =>
    match depth with
    | 0 => tooDeep m
    | depth + 1 => pairs (d depth) depth p es
  | .scalar s _ => if s.isVoid then return [] else refuseType "a map" n
  | n => refuseType "a map" n

/-- A node whose tag names a variant holds nothing else. -/
def nothing : Node → Decode Unit
  | .scalar s _ =>
    if s.style = .plain ∧ (s.text.isEmpty ∨ Scalar.isNullWord s.text) then return ()
    else refuse (Scalar.misfit s.text "null")
  | n => refuseType "unit" n

/-- A name out of a list of variants: the text of a scalar, or a tag of one's own. -/
def variant (ofName : String → Except String α) : Decoder α := fun _ p n => do
  let named (name : String) : Decode α :=
    match ofName name with
    | .ok a => return a
    | .error message => refuse message
  let tagged (name : String) (n : Node) : Decode α := do
    let a ← named name
    placing p n.mark (nothing n)
    return a
  let found (n : Node) : Decode α :=
    match n with
    | .scalar s m =>
      match s.tag.bind Tag.name? with
      | some name => tagged name n
      | none => placing p m (named s.text)
    | .sequence tag _ m | .mapping tag _ m =>
      match tag.bind Tag.name? with
      | some name => tagged name n
      | none => placing p m (refuseType "a YAML tag starting with '!'" n)
    | .reference .. | .missing => broken
  match n with
  | .reference number m => placing p m (do found (← followAlias number))
  | n => found n

/-! ## Values without a fixed shape -/

def datumPairs (key value : Path → Node → Decode Datum) (p : Path) :
    List (Node × Node) → Decode (List (Datum × Datum))
  | [] => return []
  | (k, v) :: es => do
    let a ← key p k
    let b ← value (valuePath p k) v
    let rest ← datumPairs key value p es
    return (a, b) :: rest

/-- Tags of one's own are not understood where any value may stand. -/
def refuseTag (tag : Option Tag) (x : Decode α) : Decode α :=
  if (tag.bind Tag.name?).isSome then
    refuse "untagged and internally tagged enums do not support enum input"
  else x

def atomOf (s : Scalar) : Decode Datum :=
  match s.atom with
  | .ok (.wide n) =>
    refuse s!"invalid type: {(Datum.Atom.wide n).description}, expected any value"
  | .ok a => return .atom a
  | .error message => refuse message

/-- The value as it stands. -/
def datum (depth : Nat) (p : Path) (n : Node) : Decode Datum := do
  let n ← resolve n
  placing p n.mark <|
    match n with
    | .scalar s _ => refuseTag s.tag (atomOf s)
    | .sequence tag ns m =>
      refuseTag tag <|
        match depth with
        | 0 => tooDeep m
        | depth + 1 => do return .sequence (← items (datum depth) p 0 ns)
    | .mapping tag es m =>
      refuseTag tag <|
        match depth with
        | 0 => tooDeep m
        | depth + 1 => do return .mapping (← datumPairs (datum depth) (datum depth) p es)
    | .reference .. | .missing => broken

end Decoder

/-! ## Records -/

/-- The form of a record with the way each of its fields is decoded. -/
structure Record (σ α : Type) extends RecordForm σ α where
  set : σ → String → Path → Node → Decode σ

namespace Record

open Decode

variable {σ α : Type}

def finished (r : Record σ α) (acc : σ) : Decode α :=
  match r.finish acc with
  | .ok a => return a
  | .error name => refuse (RecordForm.missingField name)

/-- A key of the record: whether it is a field, unless it may not stand there. -/
def checkKey (r : Record σ α) (depth : Nat) (p : Path) (k : Node) : Decode (String × Bool) := do
  let name ← Decoder.text "field identifier" depth p k
  if name ∈ r.fields then return (name, true)
  else if r.closed then placing p k.mark (refuse (r.unknownField name))
  else return (name, false)

def ofEntries (r : Record σ α) (depth : Nat) (p : Path) (acc : σ) (seen : List String) :
    List (Node × Node) → Decode α
  | [] => r.finished acc
  | (k, v) :: es => do
    let (name, known) ← r.checkKey depth p k
    if known then
      if name ∈ seen then refuse (RecordForm.duplicateField name)
      else
        let acc' ← r.set acc name (Decoder.valuePath p k) v
        ofEntries r depth p acc' (name :: seen) es
    else if v.isWhole then ofEntries r depth p acc seen es
    else broken

/-- The record as a mapping; its fields are one level deeper, and are decoded by what `r`
gives for that depth. Nothing at all is a mapping without entries. -/
def decoder (r : Nat → Record σ α) : Decoder α := .ofNode fun depth p n =>
  match n with
  | .mapping _ es m =>
    match depth with
    | 0 => tooDeep m
    | depth + 1 => (r depth).ofEntries depth p (r depth).empty [] es
  | .scalar s _ => if s.isVoid then (r 0).finished (r 0).empty else refuseType (r 0).title n
  | n => refuseType (r 0).title n

end Record

/-- Decodes the root of a document, which has to be whole and the only one of its text. -/
def decodeDocument {α : Type} (d : Decoder α) (doc : Document) : Except Refusal α := do
  let (a, _) ← (d depthLimit {} doc.root doc).run 0
  match doc.flaw with
  | some f => .error (.flaw f)
  | none =>
    if doc.more then
      .error (.flaw (.ofText
        "deserializing from YAML containing more than one document is not supported"))
    else return a

/-- Reads a text, with the wording of a refusal. -/
def decode {α : Type} (d : Decoder α) (text : String) : Except String α :=
  (decodeDocument d (.ofText text)).mapError Refusal.message

end FilterQuery.Yaml
