import FilterQuery.CommandLine

/-!
# The program

Reads the files that the arguments name, and prints what the run leaves behind.
-/
open FilterQuery

/-- Why the system could not read a file. -/
def fileFault : IO.Error → FileFault
  | .noFileOrDirectory .. => .missing
  | .inappropriateType .. => .isDirectory
  | e => .other (toString e)

/-- Reads a file as a text. -/
def readText (path : String) : IO (Except FileFault String) := do
  try
    let bytes ← IO.FS.readBinFile path
    match String.fromUTF8? bytes with
    | some text => return .ok text
    | none => return .error .notText
  catch e => return .error (fileFault e)

/-- Reads the files of a command beforehand. -/
def filesOf (c : CommandLine.Command) : IO ReadFile := do
  let texts ← c.paths.mapM fun p => do return (p, ← readText p)
  return fun p => (texts.lookup p).getD (.error .missing)

def main (args : List String) : IO UInt32 := do
  let outcome ←
    match CommandLine.read args with
    | .ok c => do pure (CommandLine.Outcome.ofCommand (← filesOf c) c)
    | .error stop => pure (CommandLine.Outcome.ofStop stop)
  IO.print outcome.output
  match outcome.failure with
  | some d => IO.eprintln s!"{d.code}: {d.text}"
  | none => pure ()
  match outcome.problem with
  | some p => IO.eprintln s!"error: {p}"
  | none => pure ()
  return .ofNat outcome.status
