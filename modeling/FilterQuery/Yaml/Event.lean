import FilterQuery.Yaml.Token

/-!
# Events of YAML texts

The structure of a text in the order in which it is told: where sequences and mappings
begin and end, and the scalars and aliases in them. The keys and values of a mapping
follow each other in turn.
-/
namespace FilterQuery.Yaml

/-- A scalar with its tag, unless that is left to be found out. -/
structure Scalar where
  style : Style
  text : String
  tag : Option Tag := none
  deriving Inhabited

/-- An event, in which aliases refer to anchors by values of a type. -/
inductive Event (ref : Type)
  | reference (target : ref)
  | scalar (anchor : Option String) (s : Scalar)
  | sequenceStart (anchor : Option String) (tag : Option Tag)
  | sequenceEnd
  | mappingStart (anchor : Option String) (tag : Option Tag)
  | mappingEnd
  | documentStart
  | documentEnd
  | streamEnd
  deriving Inhabited

/-- An event with the place where it is told. -/
structure Event.Placed (ref : Type) where
  event : Event ref
  mark : Mark

end FilterQuery.Yaml
