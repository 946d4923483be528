import FilterQuery.Diagnostic
import FilterQuery.Files
import FilterQuery.Format
import FilterQuery.ParseTree.Decoder
import FilterQuery.ParseTree.YamlDecoder
import FilterQuery.Schema.YamlDecoder

/-!
# Loading schemas and trees

Schemas and trees are read from texts in either format, or from files whose names tell
the format. What goes wrong is a configuration error.
-/
namespace FilterQuery

/-- Why a schema or a tree could not be loaded. -/
inductive LoadFault
  | unreadable (path : String) (fault : FileFault)
  | undecodable (what : String) (format : Format) (reason : String)
  | blankObjectType
  deriving DecidableEq, Repr

namespace LoadFault

def message : LoadFault → String
  | unreadable path _ => s!"Failed to read '{path}'"
  | undecodable what .json reason => s!"Failed to decode {what} JSON: {reason}"
  | undecodable what .yaml reason => s!"Failed to decode {what} YAML: {reason}"
  | blankObjectType => "Schema must name a non-empty objectType"

def cause : LoadFault → Option Cause
  | unreadable _ fault => some (.note fault.message)
  | _ => none

def report (f : LoadFault) : Diagnostic :=
  { kind := .config, message := f.message, cause := f.cause }

end LoadFault

/-- Reads the text of a file. -/
def readFile (read : ReadFile) (path : String) : Except LoadFault String :=
  (read path).mapError (.unreadable path)

namespace ParseTree

def ofText (format : Format) (text : String) : Except LoadFault ParseTree :=
  match format with
  | .json => (Json.decode decoder text).mapError (.undecodable "parse tree" .json)
  | .yaml => (Yaml.decode yamlDecoder text).mapError (.undecodable "parse tree" .yaml)

def ofFile (read : ReadFile) (path : String) : Except LoadFault ParseTree := do
  ofText (.ofPath path) (← readFile read path)

end ParseTree

namespace Schema

/-- The schema, unless its object type is blank. -/
def validated (s : Schema) : Except LoadFault Schema :=
  if s.isBlank then .error .blankObjectType else .ok s

def ofText (format : Format) (text : String) : Except LoadFault Schema := do
  let s ←
    match format with
    | .json => (Json.decode decoder text).mapError (.undecodable "schema" .json)
    | .yaml => (Yaml.decode yamlDecoder text).mapError (.undecodable "schema" .yaml)
  s.validated

def ofFile (read : ReadFile) (path : String) : Except LoadFault Schema := do
  ofText (.ofPath path) (← readFile read path)

end Schema

end FilterQuery
