/-!
# Tags of YAML nodes

A tag tells of what type a node is. It is kept as its bytes, since escapes may spell any
bytes out, and ends before the first of them that is zero. The schema of the core types
and exclamation marks begin the tags that are understood.
-/
namespace FilterQuery.Yaml

/-- A tag, or a part of one. -/
structure Tag where
  bytes : List UInt8
  deriving DecidableEq, Repr, Inhabited

namespace Tag

/-- The tag that bytes spell. -/
def ofBytes (bytes : List UInt8) : Tag := ⟨bytes.takeWhile (· ≠ 0)⟩

def ofString (s : String) : Tag := ofBytes s.toUTF8.toList

def isEmpty (t : Tag) : Bool := t.bytes.isEmpty

def append (t u : Tag) : Tag := ⟨t.bytes ++ u.bytes⟩

/-- A lone exclamation mark. -/
def bang : Tag := ofString "!"

/-- What the handle of two exclamation marks stands for. -/
def core : Tag := ofString "tag:yaml.org,2002:"

def null : Tag := core.append (ofString "null")
def bool : Tag := core.append (ofString "bool")
def int : Tag := core.append (ofString "int")
def float : Tag := core.append (ofString "float")

/-- Whether the tag is one's own: those begin with an exclamation mark. -/
def isLocal (t : Tag) : Bool := t.bytes.take 1 == bang.bytes

/-- The text that bytes encode, if they do. -/
def textOf? (bytes : List UInt8) : Option String := String.fromUTF8? ⟨bytes.toArray⟩

/-- The name in a tag of one's own, if it is text; a lone exclamation mark is its own. -/
def name? (t : Tag) : Option String :=
  if t.isLocal then textOf? (if t = bang then t.bytes else t.bytes.drop 1) else none

end Tag

end FilterQuery.Yaml
