import FilterQuery.Translation.Setting

/-!
# Predicates from leaf nodes

Each leaf kind resolves its attribute with the capability of its operator, checks how
many tokens the node carries and reads them, in that order, and makes one predicate.
-/
namespace FilterQuery

namespace Leaf

/-- A builder makes the query of a childless node. -/
abbrev Builder := Setting → Node → Except Diagnostic Query

def missing {α : Type} (s : Setting) (n : Node) (what : String) : Except Diagnostic α :=
  s.fail (.missing n.kind what) n.span []

/-- The node's attribute, with the capability that the operator needs. -/
def theAttribute (s : Setting) (n : Node) (c : Capability) : Except Diagnostic Attribute :=
  match n.attributeName with
  | none => missing s n "an attribute name"
  | some t => s.resolve t c n.span

/-- Requires that exactly `count` tokens stand in a slot of the node. -/
def requireCount (s : Setting) (n : Node) (what : String) (ts : List Token) (count : Nat) :
    Except Diagnostic Unit :=
  if ts.length = count then .ok ()
  else s.fail (.wrongCount n.kind count what ts.length) n.span []

def oneToken (s : Setting) (n : Node) (what : String) : List Token → Except Diagnostic Token
  | [a] => .ok a
  | ts => s.fail (.wrongCount n.kind 1 what ts.length) n.span []

def twoTokens (s : Setting) (n : Node) (what : String) :
    List Token → Except Diagnostic (Token × Token)
  | [a, b] => .ok (a, b)
  | ts => s.fail (.wrongCount n.kind 2 what ts.length) n.span []

def oneValue (s : Setting) (n : Node) : Except Diagnostic Token := oneToken s n "value" n.values

def twoValues (s : Setting) (n : Node) : Except Diagnostic (Token × Token) :=
  twoTokens s n "value" n.values

def twoFlags (s : Setting) (n : Node) : Except Diagnostic (Token × Token) :=
  twoTokens s n "inclusivity flag" n.flags

def noFlags (s : Setting) (n : Node) : Except Diagnostic Unit :=
  requireCount s n "inclusivity flag" n.flags 0

/-- Predicates that compare with nothing take neither values nor flags. -/
def noOperands (s : Setting) (n : Node) : Except Diagnostic Unit := do
  requireCount s n "value" n.values 0
  noFlags s n

/-- The truth value of an inclusivity flag. -/
def flag (s : Setting) (n : Node) (t : Token) : Except Diagnostic Bool := do
  match ← s.convertAs .bool none t n.span with
  | .bool b => .ok b
  | _ => s.fail (.badFlag t.text) (t.spanOr n.span) []

def comparison (op : Comparison) (c : Capability) : Builder := fun s n => do
  let a ← theAttribute s n c
  let raw ← oneValue s n
  noFlags s n
  let v ← s.convert a raw n.span
  return .compare op a v

/-- A range with both ends included. -/
def between : Builder := fun s n => do
  let a ← theAttribute s n .ordered
  let (rawLower, rawUpper) ← twoValues s n
  noFlags s n
  let lower ← s.convert a rawLower n.span
  let upper ← s.convert a rawUpper n.span
  return .between a ⟨lower, true⟩ ⟨upper, true⟩

/-- A range whose flags say which ends are included. -/
def betweenVerbose : Builder := fun s n => do
  let a ← theAttribute s n .ordered
  let (rawLower, rawUpper) ← twoValues s n
  let (lowerFlag, upperFlag) ← twoFlags s n
  let lower ← s.convert a rawLower n.span
  let lowerIn ← flag s n lowerFlag
  let upper ← s.convert a rawUpper n.span
  let upperIn ← flag s n upperFlag
  return .between a ⟨lower, lowerIn⟩ ⟨upper, upperIn⟩

/-- The values of the tokens, up to the first that is malformed. -/
def convertAll (s : Setting) (n : Node) (a : Attribute) :
    List Token → Except Diagnostic (List Value)
  | [] => .ok []
  | t :: ts => do
    let v ← s.convert a t n.span
    let vs ← convertAll s n a ts
    return v :: vs

def oneOf : Builder := fun s n => do
  let a ← theAttribute s n .unconstrained
  noFlags s n
  let vs ← convertAll s n a n.values
  return .isIn a vs

/-- The attribute, the token and the text of a string predicate. -/
def textOperands (s : Setting) (n : Node) : Except Diagnostic (Attribute × Token × String) := do
  let a ← theAttribute s n .text
  let raw ← oneValue s n
  noFlags s n
  match ← s.convert a raw n.span with
  | .string text => .ok (a, raw, text)
  | v => s.fail (.notText a.name v) (raw.spanOr n.span) []

def textTest (op : TextTest) : Builder := fun s n => do
  let (a, _, text) ← textOperands s n
  return .text op a text

def matchesRegex : Builder := fun s n => do
  let (a, raw, text) ← textOperands s n
  if s.compiles text then return .matchesRegex a ⟨text⟩
  else s.fail (.badPattern text) (raw.spanOr n.span) []

def has : Builder := fun s n => do
  let a ← theAttribute s n .unconstrained
  noOperands s n
  return .has a

/-- The object type that the node names must be the one in use, letter for letter. -/
def checkObjectType (s : Setting) (n : Node) : Except Diagnostic Unit :=
  match n.objectType with
  | none => missing s n "an object type"
  | some t =>
    if t.text = s.objectType.name then .ok ()
    else s.fail (.otherObjectType t.text s.objectType.name) (t.spanOr n.span) []

def selection (make : ObjectType → Query) : Builder := fun s n => do
  checkObjectType s n
  noOperands s n
  return make s.objectType

/-- The builder of each leaf kind. -/
def builder? : NodeKind → Option Builder
  | .equal => some (comparison .equal .unconstrained)
  | .lessThan => some (comparison .lessThan .ordered)
  | .lessThanOrEqual => some (comparison .lessThanOrEqual .ordered)
  | .greaterThan => some (comparison .greaterThan .ordered)
  | .greaterThanOrEqual => some (comparison .greaterThanOrEqual .ordered)
  | .between => some between
  | .betweenVerbose => some betweenVerbose
  | .oneOf => some oneOf
  | .startsWith => some (textTest .startsWith)
  | .endsWith => some (textTest .endsWith)
  | .contains => some (textTest .contains)
  | .isContainedIn => some (textTest .isContainedIn)
  | .matchesRegex => some matchesRegex
  | .has => some has
  | .all => some (selection .all)
  | .none => some (selection .none)
  | .and | .or | .not | .orderBy | .unknown => none

end Leaf

end FilterQuery
