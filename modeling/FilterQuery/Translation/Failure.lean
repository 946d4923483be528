import FilterQuery.Diagnostic
import FilterQuery.Query.Notation

/-!
# Why a translation fails

Each way of failing with the kind, wording, help and cause that its diagnostic carries.
The place is not part of it: it is added where the failure is raised.
-/
namespace FilterQuery

inductive Failure
  | unresolved (e : ResolveError)
  /-- A token is no literal of the type; for a value, with the name of its attribute. -/
  | badLiteral (text : String) (t : ValueType) (attributeName : Option String) (e : ValueError)
  | notText (attributeName : String) (v : Value)
  | badPattern (text : String)
  | badFlag (text : String)
  | otherObjectType (found expected : String)
  | missing (kind : NodeKind) (what : String)
  | wrongCount (kind : NodeKind) (expected : Nat) (what : String) (found : Nat)
  | nested (kind : NodeKind) (found : Nat)
  | emptyScope (kind : NodeKind)
  | notOfMany (found : Nat)
  | unconverted (kind : NodeKind) (encountered converted : Nat)
  | rootCount (found : Nat)

namespace Failure

def kind : Failure → ErrorKind
  | unresolved (.unknown _) => .unknownAttribute
  | unresolved (.capabilityMismatch ..) => .capabilityMismatch
  | badLiteral .. | notText .. | badPattern _ | badFlag _ => .malformedValue
  | otherObjectType .. => .objectTypeMismatch
  | missing .. | wrongCount .. | nested .. => .malformedNode
  | emptyScope _ | notOfMany _ | rootCount _ => .arity
  | unconverted .. => .incompleteTranslation

def message : Failure → String
  | unresolved e => e.message
  | badLiteral text t none _ => s!"'{text}' is not a valid {t.name}"
  | badLiteral text t (some a) _ => s!"'{text}' is not a valid {t.name} for attribute '{a}'"
  | notText a v => s!"expected text for '{a}', got {v.valueType.name} value {v.text}"
  | badPattern text => s!"'{text}' is not a valid regular expression"
  | badFlag text => s!"inclusivity flag '{text}' is not a boolean"
  | otherObjectType found expected =>
    s!"'{found}' does not match the object type '{expected}'"
  | missing kind what => s!"'{kind.name}' is missing {what}"
  | wrongCount kind expected what found =>
    s!"'{kind.name}' takes {expected} {what}(s), found {found}"
  | nested kind found => s!"'{kind.name}' cannot contain other nodes, found {found}"
  | emptyScope kind => s!"'{kind.name}' has no queries"
  | notOfMany found => s!"'not' takes exactly one query, found {found}"
  | unconverted kind e c =>
    s!"no conversion for '{kind.name}' ({e} queries encountered, {c} converted)"
  | rootCount found => s!"expected exactly one top-level query, found {found}"

def help : Failure → Option String
  | otherObjectType _ expected => some s!"this translator queries '{expected}' objects"
  | nested .. => some "only 'and', 'or' and 'not' can contain queries"
  | emptyScope kind => some s!"'{kind.name}' needs at least one query to combine"
  | notOfMany _ =>
    some "'not' negates a single query; combine several with 'and' or 'or' first"
  | unconverted .. => some "every query construct needs a registered handler"
  | rootCount 0 => some "the expression must contain a query"
  | rootCount _ => some "combine top-level queries with 'and' or 'or'"
  | _ => none

def cause : Failure → Option Cause
  | badLiteral _ _ _ e => some (.value e)
  | badPattern text => some (.pattern text)
  | _ => none

/-- The failure as reported at a place. -/
def report (f : Failure) (source : Option Source) (span : Span) (related : List Label) :
    Diagnostic :=
  { kind := f.kind, message := f.message, source, span := some span, help := f.help,
    related, cause := f.cause }

end Failure

/-- One label per query, numbered from one. -/
def queryLabels (qs : List (Spanned Query)) : List Label :=
  qs.zipIdx.map fun (q, i) => ⟨q.span, s!"query {i + 1}: {q.value.name}"⟩

end FilterQuery
