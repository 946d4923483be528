import FilterQuery.Json.Printer
import FilterQuery.Loading
import FilterQuery.Query.Encoding
import FilterQuery.Regex.Compiles
import FilterQuery.Translation.Translator

/-!
# The command line

Three commands read a schema and, but for the last, a tree: one prints the translation,
one tells only whether it succeeds, and one lists the attributes of the schema. What is
wrong with the arguments ends a run with status 2, and any other failure with status 1.
-/
namespace FilterQuery.CommandLine

inductive Verb
  | translate
  | check
  | attributes
  deriving DecidableEq, Repr

namespace Verb

def list : List Verb := [.translate, .check, .attributes]

def name : Verb → String
  | translate => "translate"
  | check => "check"
  | attributes => "attributes"

def about : Verb → String
  | translate => "Translate a parse tree and print the resulting query and options"
  | check => "Translate a parse tree and only report whether it succeeded"
  | attributes => "List the attributes a schema registers"

def takesTree (v : Verb) : Bool := v != attributes

def takesFormat (v : Verb) : Bool := v == translate

end Verb

/-- How a translation is printed. -/
inductive Style
  | text
  | json
  deriving DecidableEq, Repr

def Style.ofName? (s : String) : Option Style :=
  if s = "text" then some .text else if s = "json" then some .json else none

inductive Command
  | translate (schema tree : String) (style : Style)
  | check (schema tree : String)
  | attributes (schema : String)
  deriving DecidableEq, Repr

/-- The files that a command reads. -/
def Command.paths : Command → List String
  | translate schema tree _ | check schema tree => [schema, tree]
  | attributes schema => [schema]

/-! ## Arguments -/

/-- What keeps arguments from being a command. -/
inductive Stop
  | usage (problem : String)
  | help (v : Option Verb)
  | version
  deriving DecidableEq, Repr

abbrev Parsed := Except Stop

def misuse {α : Type} (problem : String) : Parsed α := .error (.usage problem)

def unexpected {α : Type} (a : String) : Parsed α := misuse s!"unexpected argument '{a}' found"

/-- An option that takes a value. -/
inductive Setting
  | schema
  | style
  deriving DecidableEq, Repr

/-- What the arguments of a command have given so far. -/
structure Given where
  schema : Option String := none
  tree : Option String := none
  style : Option Style := none

namespace Given

/-- Gives an option its value, which it may have only once. -/
def set (g : Given) (s : Setting) (value : String) : Parsed Given :=
  match s with
  | .schema =>
    if g.schema.isSome then misuse "the argument '--schema <SCHEMA>' cannot be used multiple times"
    else if value.isEmpty then
      misuse "a value is required for '--schema <SCHEMA>' but none was supplied"
    else .ok { g with schema := some value }
  | .style =>
    if g.style.isSome then misuse "the argument '--format <FORMAT>' cannot be used multiple times"
    else
      match Style.ofName? value with
      | some style => .ok { g with style := some style }
      | none => misuse s!"invalid value '{value}' for '--format <FORMAT>'"

/-- Takes an argument that belongs to no option: the tree, if there is to be one. -/
def setTree (g : Given) (v : Verb) (value : String) : Parsed Given :=
  if ¬v.takesTree ∨ g.tree.isSome then unexpected value
  else if value.isEmpty then misuse "a value is required for '<TREE>' but none was supplied"
  else .ok { g with tree := some value }

def command (g : Given) (v : Verb) : Parsed Command :=
  match v, g.schema, g.tree with
  | .translate, some schema, some tree => .ok (.translate schema tree (g.style.getD .text))
  | .check, some schema, some tree => .ok (.check schema tree)
  | .attributes, some schema, _ => .ok (.attributes schema)
  | _, _, _ => misuse "the following required arguments were not provided"

end Given

def settingOfLetter? (c : Char) : Option Setting := if c = 's' then some .schema else none

def settingOfName? (v : Verb) (name : String) : Option Setting :=
  if name = "schema" then some .schema
  else if name = "format" ∧ v.takesFormat then some .style
  else none

/-- The name of a long option and the value attached to it. -/
def splitLong (a : String) : String × Option String :=
  let cs := a.toList.drop 2
  let name := cs.takeWhile (· != '=')
  match cs.drop name.length with
  | _ :: value => (String.ofList name, some (String.ofList value))
  | [] => (String.ofList name, none)

/-- Reads letters behind one hyphen. An option that takes a value takes the rest of them;
if there is none, its value is still to come. -/
def readLetters (v : Verb) (g : Given) : List Char → Parsed (Given × Option Setting)
  | [] => .ok (g, none)
  | c :: r =>
    if c = 'v' then readLetters v g r
    else if c = 'h' then .error (.help (some v))
    else
      match settingOfLetter? c, r with
      | some s, [] => .ok (g, some s)
      | some s, '=' :: value | some s, value => do
        return (← g.set s (String.ofList value), none)
      | none, _ => unexpected ("-" ++ c.toString)

/-- Reads a word behind two hyphens. -/
def readLong (v : Verb) (g : Given) (a : String) : Parsed (Given × Option Setting) :=
  let (name, value) := splitLong a
  match settingOfName? v name, value with
  | some s, some value => do return (← g.set s value, none)
  | some s, none => .ok (g, some s)
  | none, none =>
    if name = "verbose" then .ok (g, none)
    else if name = "help" then .error (.help (some v))
    else unexpected a
  | none, some _ => unexpected a

/-- Whether an argument has hyphens in front that count. -/
def isOption (a : String) : Bool := a.startsWith "-" && a != "-"

/-- Reads the arguments of a command; `awaited` is the option whose value comes next. -/
def readArguments (v : Verb) : Given → Option Setting → List String → Parsed Command
  | g, none, [] => g.command v
  | _, some _, [] => misuse "a value is required but none was supplied"
  | g, some s, a :: rest =>
    if isOption a then misuse "a value is required but none was supplied"
    else do readArguments v (← g.set s a) none rest
  | g, none, a :: rest =>
    if a = "--" then do
      let g ← rest.foldlM (fun g b => g.setTree v b) g
      g.command v
    else if a.startsWith "--" then do
      let (g, awaited) ← readLong v g a
      readArguments v g awaited rest
    else if isOption a then do
      let (g, awaited) ← readLetters v g (a.toList.drop 1)
      readArguments v g awaited rest
    else do readArguments v (← g.setTree v a) none rest

/-- Reads the names after which help is asked for. -/
def readHelp : List String → Parsed Command
  | [] => .error (.help none)
  | [a] =>
    match Verb.list.find? (·.name == a) with
    | some v => .error (.help (some v))
    | none => if a = "help" then .error (.help none) else misuse s!"unrecognized subcommand '{a}'"
  | _ => misuse "unrecognized subcommand"

/-- Reads the letters behind a hyphen before the command: nothing, if all ask for logs. -/
def readOuterLetters : List Char → Parsed Unit
  | [] => .ok ()
  | c :: r =>
    if c = 'v' then readOuterLetters r
    else if c = 'h' then .error (.help none)
    else if c = 'V' then .error .version
    else unexpected ("-" ++ c.toString)

/-- Reads the arguments of a run. -/
def read : List String → Parsed Command
  | [] => misuse "a subcommand is required but one was not provided"
  | a :: rest =>
    if a = "--verbose" then read rest
    else if a = "--help" then .error (.help none)
    else if a = "--version" then .error .version
    else if a.startsWith "--" then unexpected a
    else if isOption a then do
      readOuterLetters (a.toList.drop 1)
      read rest
    else if a = "help" then readHelp rest
    else
      match Verb.list.find? (·.name == a) with
      | some v => readArguments v {} none rest
      | none => misuse s!"unrecognized subcommand '{a}'"

/-! ## Commands -/

/-- A line that introduces a part of the output. -/
def heading (title : String) : String := s!"--- {title} ---\n"

def resultText (r : ParseResult) : String :=
  heading "Query" ++ r.query.render ++ "\n" ++
    (if r.options.isEmpty then "" else heading "Options" ++ r.options.render ++ "\n")

def checkText (t : Translation) : String :=
  s!"ok: {t.encountered} queries encountered, {t.converted} converted\n"

/-- One line for each registered attribute. -/
def attributesText (objectType : String) (r : Registry) : String :=
  let line (name : String) : Option String :=
    (r.get? name).map fun a => s!"  {name}: {a.valueType.name}\n"
  heading objectType ++ String.join (r.names.filterMap line)

/-- The translator of a schema, with the literals, patterns and handlers of the notation. -/
def translator (s : Schema) : Translator :=
  { resolver := s.registry.resolve, converter := Literal.convert, compiles := Regex.compiles,
    objectType := ⟨s.objectType⟩, handlers := .default }

def loaded {α : Type} (x : Except LoadFault α) : Except Diagnostic α := x.mapError LoadFault.report

/-- What a command prints. -/
def execute (file : ReadFile) : Command → Except Diagnostic String
  | .translate schema tree style => do
    let s ← loaded (Schema.ofFile file schema)
    let t ← loaded (ParseTree.ofFile file tree)
    let r ← (translator s).translate t
    match style with
    | .text => return resultText r
    | .json => return r.toJson.indented ++ "\n"
  | .check schema tree => do
    let s ← loaded (Schema.ofFile file schema)
    let t ← loaded (ParseTree.ofFile file tree)
    let r ← (translator s).translation t
    let _ ← r.rootQuery
    return checkText r
  | .attributes schema => do
    let s ← loaded (Schema.ofFile file schema)
    return attributesText s.objectType s.registry

/-! ## Runs -/

def versionText : String := "cqn 0.1.0\n"

def usageLine : Option Verb → String
  | none => "Usage: cqn [OPTIONS] <COMMAND>\n"
  | some .translate => "Usage: cqn translate [OPTIONS] --schema <SCHEMA> <TREE>\n"
  | some .check => "Usage: cqn check [OPTIONS] --schema <SCHEMA> <TREE>\n"
  | some .attributes => "Usage: cqn attributes [OPTIONS] --schema <SCHEMA>\n"

def verboseHelp : String :=
  "  -v, --verbose...       Log more (-v for debug, -vv for trace). Logs go to stderr\n"

def helpText : Option Verb → String
  | none =>
    "Translates parsed filter expressions into typed query trees.\n\n" ++ usageLine none ++
      "\nCommands:\n" ++
      String.join (Verb.list.map fun v => s!"  {v.name}: {v.about}\n") ++
      "  help: Print this message or the help of the given subcommand(s)\n" ++
      "\nOptions:\n" ++ verboseHelp ++
      "  -h, --help             Print help\n" ++
      "  -V, --version          Print version\n"
  | some v =>
    v.about ++ "\n\n" ++ usageLine (some v) ++
      (if v.takesTree then
        "\nArguments:\n  <TREE>  The parse tree file (YAML or JSON)\n" else "") ++
      "\nOptions:\n  -s, --schema <SCHEMA>  Schema file (YAML or JSON)\n" ++ verboseHelp ++
      (if v.takesFormat then
        "      --format <FORMAT>  How to print the result: text (the default) or json\n" else "") ++
      "  -h, --help             Print help\n"

/-- What a run leaves behind: its status, what it prints, and the failure that it reports. -/
structure Outcome where
  status : Nat
  output : String := ""
  failure : Option Diagnostic := none
  /-- What is wrong with the arguments. -/
  problem : Option String := none

def Outcome.ofCommand (file : ReadFile) (c : Command) : Outcome :=
  match execute file c with
  | .ok output => { status := 0, output }
  | .error d => { status := 1, failure := some d }

def Outcome.ofStop : Stop → Outcome
  | .usage problem => { status := 2, problem := some problem }
  | .help v => { status := 0, output := helpText v }
  | .version => { status := 0, output := versionText }

/-- A run with these arguments. -/
def run (file : ReadFile) (args : List String) : Outcome :=
  match read args with
  | .ok c => .ofCommand file c
  | .error stop => .ofStop stop

end FilterQuery.CommandLine
