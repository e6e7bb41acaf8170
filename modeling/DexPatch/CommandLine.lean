import DexPatch.CommandLine.Arguments
import DexPatch.Disassembly
import DexPatch.Document
import DexPatch.Patch.Builtin

/-!
# The command line

A command reads its files, prints a text and perhaps writes a file. What it does is
computed from the contents of the files; reading and writing them is left to the caller.

## Main definitions

* `Files` — the contents of files, as far as they can be read
* `Outcome` — what a command prints and writes, and its exit code
* `Command.run` — what a command does
-/

namespace DexPatch

/-- Why a file cannot be read or written. -/
inductive FileError
  | missing
  | notText
  | other (text : String)
deriving DecidableEq, Repr

def FileError.message : FileError → String
  | missing => "I/O error: No such file or directory (os error 2)"
  | notText => "I/O error: stream did not contain valid UTF-8"
  | other text => "I/O error: " ++ text

/-- The contents of files by path. -/
abbrev Files := String → Except FileError ByteArray

/-- What a command does: its exit code, the texts for the two streams, and the file that
it writes. -/
structure Outcome where
  code : Nat := 0
  stdout : String := ""
  stderr : String := ""
  output : Option (String × String) := none
deriving DecidableEq, Repr

namespace Outcome

/-- A failed command. -/
def failed (message : String) : Outcome where
  code := 1
  stderr := "Error: " ++ message ++ "\n"

/-- A command that prints lines. -/
def lines (texts : List String) : Outcome where
  stdout := String.join (texts.map (· ++ "\n"))

/-- The outcome when the file cannot be written. -/
def notWritten (o : Outcome) (e : FileError) : Outcome where
  code := 1
  stdout := o.stdout
  stderr := o.stderr ++ (failed e.message).stderr

end Outcome

/-- The model in a file; the message of the failure if there is none. -/
def Files.program (files : Files) (path : String) : Except String Program := do
  let bytes ← (files path).mapError FileError.message
  match String.fromUTF8? bytes with
  | none => throw "malformed model listing: the text is not UTF-8"
  | some text => (Program.ofYaml text).mapError ModelError.message

/-- The configuration in a file, the usual one if no file is named. -/
def Files.config (files : Files) : Option String → Except String Config
  | none => .ok {}
  | some path => do
    let bytes ← (files path).mapError FileError.message
    match String.fromUTF8? bytes with
    | none => throw FileError.notText.message
    | some text =>
      (Config.ofYaml text).mapError fun e => "malformed patch configuration: " ++ e.message

namespace Command

/-- The lines about a patch in the list of patches. -/
def describe (patch : Patch) : List String :=
  [patch.name, "    " ++ patch.description,
    "    compatible with: " ++ String.intercalate ", " patch.packages]

/-- The methods that load all the strings. -/
def found (p : Program) (strings : List String) : List String :=
  let f : Fingerprint := ⟨"cli", strings, none⟩
  match (f.findAll p).filterMap fun m => p.methodRef? m.method with
  | [] => ["# no match"]
  | refs => refs.map MethodRef.text

/-- A run of the built-in patches over a program; the report goes to the error stream. -/
def patched (p : Program) (config : Config) (request : PatchRequest) : Outcome :=
  match selectPatches Builtin.patches request.only with
  | .error e => .failed e.message
  | .ok patches =>
    match (runPatches patches config ⟨request.ignoreCompatibility⟩).run p with
    | (.error e, _) => .failed e.message
    | (.ok report, q) =>
      let stderr := report.text ++ "\n"
      match request.output with
      | some path => { stderr, output := some (path, q.toYaml) }
      | none => { stderr, stdout := q.toYaml }

/-- What a command does with given files. -/
def run (files : Files) (c : Command) : Outcome :=
  match attempt with
  | .ok outcome => outcome
  | .error message => .failed message
where
  attempt : Except String Outcome := do
    match c with
    | info model => return .lines (← files.program model).summary
    | disassemble model none =>
      return .lines ((← files.program model).classes.flatMap ClassDecl.disassembly)
    | disassemble model (some type) =>
      match (← files.program model).classByType? ⟨type⟩ with
      | some (_, c) => return .lines c.disassembly
      | none => throw ("no class " ++ type)
    | search model strings => return .lines (found (← files.program model) strings)
    | list => return .lines (Builtin.patches.flatMap describe)
    | patch request =>
      let p ← files.program request.model
      let config ← files.config request.config
      return patched p config request

/-- The paths of the files that a command reads. -/
def inputs : Command → List String
  | info model | disassemble model _ | search model _ => [model]
  | list => []
  | patch request => request.model :: request.config.toList

end Command

/-- What arguments ask for, done with given files; a wrong use has an exit code of its
own. -/
def runArguments (files : Files) (arguments : List String) : Outcome :=
  match Command.ofArguments arguments with
  | .error e => { code := 2, stderr := "error: " ++ e.message ++ "\n" }
  | .ok c => c.run files

end DexPatch
