import FilterQuery.ParseTree
import FilterQuery.Value.Literal

/-!
# Diagnostics

A diagnostic is a failure as it is reported: its kind, a message, the place in the
expression, help, further labelled places and the error that caused it. Labels are
given only when there is a text for them to point into.
-/
namespace FilterQuery

inductive ErrorKind
  | unknownAttribute
  | capabilityMismatch
  | malformedValue
  | arity
  | objectTypeMismatch
  | incompleteTranslation
  | malformedNode
  | config
  deriving DecidableEq, Repr

namespace ErrorKind

def list : List ErrorKind :=
  [.unknownAttribute, .capabilityMismatch, .malformedValue, .arity, .objectTypeMismatch,
    .incompleteTranslation, .malformedNode, .config]

def name : ErrorKind → String
  | unknownAttribute => "UnknownAttribute"
  | capabilityMismatch => "AttributeCapabilityMismatch"
  | malformedValue => "MalformedValue"
  | arity => "ArityViolation"
  | objectTypeMismatch => "ObjectTypeMismatch"
  | incompleteTranslation => "IncompleteTranslation"
  | malformedNode => "MalformedNode"
  | config => "Config"

/-- The stable code of the kind. -/
def code : ErrorKind → String
  | unknownAttribute => "cqn::unknown_attribute"
  | capabilityMismatch => "cqn::capability_mismatch"
  | malformedValue => "cqn::malformed_value"
  | arity => "cqn::arity"
  | objectTypeMismatch => "cqn::object_type"
  | incompleteTranslation => "cqn::incomplete_translation"
  | malformedNode => "cqn::malformed_node"
  | config => "cqn::config"

/-- What introduces the message of such an error. -/
def title : ErrorKind → String
  | unknownAttribute => "Unknown attribute"
  | capabilityMismatch => "Attribute capability mismatch"
  | malformedValue => "Malformed value"
  | arity => "Arity violation"
  | objectTypeMismatch => "Object type mismatch"
  | incompleteTranslation => "Incomplete translation"
  | malformedNode => "Malformed parse node"
  | config => "Configuration error"

def ofName (s : String) : Except String ErrorKind :=
  match list.find? (·.name == s) with
  | some k => .ok k
  | none => .error s!"unknown error type '{s}'"

end ErrorKind

/-- The error behind an error. -/
inductive Cause
  | value (e : ValueError)
  /-- A regular expression that does not compile. -/
  | pattern (source : String)
  | note (text : String)
  deriving DecidableEq, Repr

/-- A named text. -/
structure Source where
  name : String
  text : String
  deriving DecidableEq, Repr

/-- A further place and what is said about it. -/
structure Label where
  span : Span
  text : String
  deriving DecidableEq, Repr

/-- A part of a text, from a byte on and some bytes long, and what is said about it. -/
structure Mark where
  text : String
  start : UInt64
  length : UInt64
  deriving DecidableEq, Repr

def Label.mark (l : Label) : Mark := ⟨l.text, l.span.start, l.span.markLength⟩

structure Diagnostic where
  kind : ErrorKind
  message : String
  source : Option Source := none
  span : Option Span := none
  help : Option String := none
  related : List Label := []
  cause : Option Cause := none
  deriving DecidableEq, Repr

namespace Diagnostic

def text (d : Diagnostic) : String := d.kind.title ++ ": " ++ d.message

def code (d : Diagnostic) : String := d.kind.code

/-- What is marked in the source, the primary place first; nothing without a source. -/
def labels (d : Diagnostic) : List Mark :=
  match d.source with
  | none => []
  | some _ => (d.span.map fun s => Label.mark ⟨s, d.message⟩).toList ++ d.related.map Label.mark

end Diagnostic

end FilterQuery
