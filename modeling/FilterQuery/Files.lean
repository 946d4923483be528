/-!
# Files

Files are read as texts through a function, so that what depends on them can be run on a
directory as well as on files held in memory. The causes of a failure carry the words of
the operating system.
-/
namespace FilterQuery

/-- Why a file cannot be read as a text. -/
inductive FileFault
  | missing
  | notDirectory
  | isDirectory
  | nameTooLong
  | badName
  | notText
  | other (reason : String)
  deriving DecidableEq, Repr

def FileFault.message : FileFault → String
  | missing => "No such file or directory (os error 2)"
  | notDirectory => "Not a directory (os error 20)"
  | isDirectory => "Is a directory (os error 21)"
  | nameTooLong => "File name too long (os error 36)"
  | badName => "file name contained an unexpected NUL byte"
  | notText => "stream did not contain valid UTF-8"
  | other reason => reason

/-- The text of the file at a path, or why there is none. -/
abbrev ReadFile := String → Except FileFault String

/-- Files held in memory, by the names on the way to them from a working directory. -/
structure FileSet where
  files : List (List String × ByteArray)

namespace FileSet

/-- The names on a path; empty ones stand between and after slashes. -/
def names (path : String) : List String := path.splitOn "/"

def ofList (files : List (String × ByteArray)) : FileSet :=
  ⟨files.map fun f => ((names f.1).filter fun n => n ≠ "" ∧ n ≠ ".", f.2)⟩

/-- What stands at a place. -/
inductive Entry
  | file (bytes : ByteArray)
  | directory

def entry? (fs : FileSet) (place : List String) : Option Entry :=
  match fs.files.lookup place with
  | some bytes => some (.file bytes)
  | none =>
    if place.isEmpty ∨ fs.files.any fun f => place.isPrefixOf f.1 then some .directory else none

/-- The longest name that a file can have, in bytes. -/
def nameLimit : Nat := 255

/-- The longest path that can be followed, in bytes. -/
def pathLimit : Nat := 4095

/-- Goes on from above the working directory, where there are directories but no files. -/
def walkAbove (names : List String) : Except FileFault Entry :=
  if names.all (["", ".", ".."].contains ·) then .ok .directory else .error .missing

/-- Goes down a path from a place. Only a directory can be gone on from, and each way up
takes back a way down. -/
def walk (fs : FileSet) : List String → List String → Except FileFault Entry
  | place, [] =>
    match fs.entry? place with
    | some e => .ok e
    | none => .error .missing
  | place, n :: ns =>
    match fs.entry? place with
    | none => .error .missing
    | some (.file _) => .error .notDirectory
    | some .directory =>
      if n = "" ∨ n = "." then walk fs place ns
      else if n = ".." then
        if place.isEmpty then walkAbove ns else walk fs place.dropLast ns
      else if nameLimit < n.utf8ByteSize then .error .nameTooLong
      else walk fs (place ++ [n]) ns

/-- Reads the file at a path; paths from the root of the system lead to no file. -/
def read (fs : FileSet) : ReadFile := fun path =>
  if path.contains '\x00' then .error .badName
  else if path.isEmpty then .error .missing
  else if pathLimit < path.utf8ByteSize then .error .nameTooLong
  else if path.startsWith "/" then
    .error (if path.all (· == '/') then .isDirectory else .missing)
  else
    match fs.walk [] (names path) with
    | .error e => .error e
    | .ok .directory => .error .isDirectory
    | .ok (.file bytes) =>
      match String.fromUTF8? bytes with
      | some text => .ok text
      | none => .error .notText

end FileSet

end FilterQuery
