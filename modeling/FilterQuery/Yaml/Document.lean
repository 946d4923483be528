import FilterQuery.Yaml.Event.Grammar

/-!
# Documents

The first document of a text. Aliases are bound to the anchors before them by numbers; an
anchor gets as its number how many names have been in use before. A text that breaks off
leaves a document that does so, too: what was told up to then can still be decoded.
-/
namespace FilterQuery.Yaml

structure Document where
  events : List (Event.Placed Nat) := []
  /-- Where in the events the anchor of a number stands, the last one first. -/
  anchors : List (Nat × Nat) := []
  flaw : Option Flaw := none
  /-- Whether the text goes on after the document. -/
  more : Bool := false
  deriving Inhabited

namespace Document

/-- The names in use with their numbers, the last one first. -/
abbrev Names := List (String × Nat)

/-- How many names are in use. -/
def Names.count (ns : Names) : Nat := (ns.map (·.1)).eraseDups.length

/-- Adds an event that may carry an anchor. -/
def add (d : Document) (names : Names) (anchor : Option String) (e : Event Nat) (m : Mark) :
    Document × Names :=
  let added := { d with events := d.events ++ [⟨e, m⟩] }
  match anchor with
  | none => (added, names)
  | some a =>
    let n := names.count
    ({ added with anchors := (n, d.events.length) :: d.anchors }, (a, n) :: names)

/-- Gathers events up to the end of the document. -/
def gather (flaw : Option Flaw) : Document → Names → List (Event.Placed String) → Document
  | d, _, [] => { d with flaw }
  | d, names, ⟨e, m⟩ :: rest =>
    let go (anchor : Option String) (e : Event Nat) : Document :=
      let (d', names') := d.add names anchor e m
      gather flaw d' names' rest
    match e with
    | .reference name =>
      match names.lookup name with
      | some n => go none (.reference n)
      | none => { d with flaw := some (.problem "unknown anchor" m none) }
    | .scalar anchor s => go anchor (.scalar anchor s)
    | .sequenceStart anchor tag => go anchor (.sequenceStart anchor tag)
    | .sequenceEnd => go none .sequenceEnd
    | .mappingStart anchor tag => go anchor (.mappingStart anchor tag)
    | .mappingEnd => go none .mappingEnd
    | .documentStart => gather flaw d names rest
    | .documentEnd =>
      { d with
        more := match rest with
          | ⟨.streamEnd, _⟩ :: _ => false
          | _ => true }
    | .streamEnd =>
      if d.events.isEmpty then (d.add names none (.scalar none ⟨.plain, "", none⟩) m).1 else d

/-- The first document of a text; an empty text has an empty scalar as its document. -/
def ofText (text : String) : Document :=
  let (events, flaw) := Event.ofText text.toList
  gather flaw {} [] events

end Document

/-! ## Nodes -/

/-- The nodes of a document as trees; `missing` stands for what the text broke off before. -/
inductive Node
  | reference (target : Nat) (mark : Mark)
  | scalar (s : Scalar) (mark : Mark)
  | sequence (tag : Option Tag) (items : List Node) (mark : Mark)
  | mapping (tag : Option Tag) (entries : List (Node × Node)) (mark : Mark)
  | missing
  deriving Inhabited

namespace Node

mutual

/-- The node that events begin with, and the events after it. -/
def ofEvents : Nat → List (Event.Placed Nat) → Node × List (Event.Placed Nat)
  | 0, _ => (missing, [])
  | fuel + 1, ⟨e, m⟩ :: rest =>
    match e with
    | .reference target => (reference target m, rest)
    | .scalar _ s => (scalar s m, rest)
    | .sequenceStart _ tag =>
      let (items, rest) := itemsOfEvents fuel rest
      (sequence tag items m, rest)
    | .mappingStart _ tag =>
      let (entries, rest) := entriesOfEvents fuel rest
      (mapping tag entries m, rest)
    | _ => (missing, [])
  | _ + 1, [] => (missing, [])

def itemsOfEvents : Nat → List (Event.Placed Nat) → List Node × List (Event.Placed Nat)
  | 0, _ => ([missing], [])
  | _ + 1, [] => ([missing], [])
  | fuel + 1, e :: rest =>
    match e.event with
    | .sequenceEnd => ([], rest)
    | _ =>
      let (item, rest) := ofEvents fuel (e :: rest)
      let (items, rest) := itemsOfEvents fuel rest
      (item :: items, rest)

def entriesOfEvents : Nat → List (Event.Placed Nat) →
    List (Node × Node) × List (Event.Placed Nat)
  | 0, _ => ([(missing, missing)], [])
  | _ + 1, [] => ([(missing, missing)], [])
  | fuel + 1, e :: rest =>
    match e.event with
    | .mappingEnd => ([], rest)
    | _ =>
      let (key, rest) := ofEvents fuel (e :: rest)
      let (value, rest) := ofEvents fuel rest
      let (entries, rest) := entriesOfEvents fuel rest
      ((key, value) :: entries, rest)

end

mutual

/-- Whether the text did not break off within the node. -/
def isWhole : Node → Bool
  | missing => false
  | sequence _ items _ => areWhole items
  | mapping _ entries _ => entriesAreWhole entries
  | _ => true

def areWhole : List Node → Bool
  | [] => true
  | n :: ns => n.isWhole && areWhole ns

def entriesAreWhole : List (Node × Node) → Bool
  | [] => true
  | (k, v) :: es => k.isWhole && v.isWhole && entriesAreWhole es

end

def mark : Node → Mark
  | reference _ m | scalar _ m | sequence _ _ m | mapping _ _ m => m
  | missing => {}

end Node

namespace Document

/-- The node that begins with the event of that number. Every event and every end of a node
takes one step to read. -/
def nodeAt (d : Document) (n : Nat) : Node :=
  let events := d.events.drop n
  (Node.ofEvents (3 * events.length + 3) events).1

def root (d : Document) : Node := d.nodeAt 0

/-- The node that an alias stands for. -/
def target (d : Document) (number : Nat) : Node :=
  match d.anchors.lookup number with
  | some n => d.nodeAt n
  | none => .missing

end Document

end FilterQuery.Yaml
