import DexPatch.CommandLine

/-!
# The program

Reads the files that a command names, prints what the command prints and writes what it
writes.
-/

namespace DexPatch

/-- The cause of a failed file access. -/
def FileError.ofIO : IO.Error → FileError
  | .noFileOrDirectory _ _ _ => .missing
  | e => .other e.toString

/-- The contents of the files that a command reads. -/
def readFiles (paths : List String) : IO (List (String × Except FileError ByteArray)) :=
  paths.mapM fun (path : String) => do
    let content ← try Except.ok <$> IO.FS.readBinFile path catch e => pure (.error (.ofIO e))
    return (path, content)

/-- Writes the file of an outcome. -/
def writeOutput (o : Outcome) : IO Outcome :=
  match o.output with
  | none => return o
  | some (path, text) => do
    try
      IO.FS.writeFile path text
      return o
    catch e => return o.notWritten (.ofIO e)

end DexPatch

open DexPatch in
/-- Runs the command that the arguments ask for. -/
def main (arguments : List String) : IO UInt32 := do
  let paths :=
    match Command.ofArguments arguments with
    | .ok c => c.inputs
    | .error _ => []
  let contents ← readFiles paths
  let files : Files := fun path => (contents.lookup path).getD (.error .missing)
  let o ← writeOutput (runArguments files arguments)
  (← IO.getStdout).putStr o.stdout
  (← IO.getStderr).putStr o.stderr
  return UInt32.ofNat o.code
