/-!
# Attributes

An attribute is a named field of the objects that a query selects, together with the
type of its values. An operator asks a capability of that type: ranges need an order,
substring and pattern predicates need text. A resolver turns a name into an attribute
or says why it cannot.
-/
namespace FilterQuery

/-- The declared type of an attribute's values. -/
inductive ValueType
  | integer
  | float
  | bool
  | string
  deriving DecidableEq, Repr

namespace ValueType

def all : List ValueType := [.integer, .float, .bool, .string]

/-- The name shown to people. -/
def name : ValueType → String
  | .integer => "Integer"
  | .float => "Float"
  | .bool => "Bool"
  | .string => "String"

/-- The name used in schemas and in written queries. -/
def keyword : ValueType → String
  | .integer => "integer"
  | .float => "float"
  | .bool => "bool"
  | .string => "string"

def ofKeyword? (s : String) : Option ValueType := all.find? (·.keyword == s)

@[simp] theorem ofKeyword?_keyword (t : ValueType) : ofKeyword? t.keyword = some t := by
  cases t <;> decide

end ValueType

/-- What an operator requires of an attribute's value type. -/
inductive Capability
  | unconstrained
  | ordered
  | text
  deriving DecidableEq, Repr

namespace Capability

def description : Capability → String
  | .unconstrained => "any value type"
  | .ordered => "an ordered value type"
  | .text => "a string value type"

end Capability

/-- Every type is ordered; only strings are text. -/
def ValueType.supports (t : ValueType) : Capability → Bool
  | .unconstrained | .ordered => true
  | .text => t = .string

@[simp] theorem ValueType.supports_text {t : ValueType} : t.supports .text ↔ t = .string := by
  simp [supports]

/-- A resolved, typed attribute. -/
structure Attribute where
  name : String
  valueType : ValueType
  deriving DecidableEq, Repr

/-- Why a name did not resolve. -/
inductive ResolveError
  | unknown (name : String)
  | capabilityMismatch (name : String) (valueType : ValueType) (required : Capability)
  deriving DecidableEq, Repr

def ResolveError.message : ResolveError → String
  | .unknown name => s!"no attribute named '{name}' is registered"
  | .capabilityMismatch name valueType required =>
    s!"attribute '{name}' holds {valueType.name} values, but {required.description} is required"

/-- A resolver maps a name and the capability asked of it to an attribute. -/
abbrev Resolver := String → Capability → Except ResolveError Attribute

end FilterQuery
