import FilterQuery.Translation.Failure

/-!
# The setting of a translation

What a translation is told from outside: how names resolve, how literals are read, which
patterns compile, the object type in use and the source that diagnostics point into.
-/
namespace FilterQuery

structure Setting where
  resolver : Resolver
  converter : Converter
  compiles : String → Bool
  objectType : ObjectType
  source : Option Source := none

namespace Setting

variable (s : Setting)

/-- A failure located at a span of the expression. -/
def fail {α : Type} (f : Failure) (span : Span) (related : List Label) : Except Diagnostic α :=
  .error (f.report s.source span related)

/-- The attribute that a token names. -/
def resolve (t : Token) (capability : Capability) (fallback : Span) :
    Except Diagnostic Attribute :=
  match s.resolver t.text capability with
  | .ok a => .ok a
  | .error e => s.fail (.unresolved e) (t.spanOr fallback) []

/-- The value of a token as a literal of the type. -/
def convertAs (vt : ValueType) (attributeName : Option String) (t : Token) (fallback : Span) :
    Except Diagnostic Value :=
  match s.converter vt t.text with
  | .ok v => .ok v
  | .error e => s.fail (.badLiteral t.text vt attributeName e) (t.spanOr fallback) []

/-- The value of a token for an attribute. -/
def convert (a : Attribute) (t : Token) (fallback : Span) : Except Diagnostic Value :=
  s.convertAs a.valueType (some a.name) t fallback

end Setting

end FilterQuery
