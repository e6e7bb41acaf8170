/-!
# Command-line arguments

Arguments are positional values and options. An option stands before or after the
positional values; its own value follows it, or is attached to it. After `--` every
argument is positional.

## Main definitions

* `OptionSpec`, `Arguments` — the options of a command, and arguments sorted by them
* `Arguments.ofList` — sorts arguments
* `Command`, `Command.ofArguments` — the commands
-/

namespace DexPatch

/-- Why arguments are no command. -/
inductive UsageError
  | missingCommand
  | unknownCommand (name : String)
  | unknownOption (argument : String)
  | missingValue (option : String)
  | unwantedValue (option : String)
  | repeatedOption (option : String)
  | emptyPath
  | missingArgument
  | unexpectedArgument (argument : String)
deriving DecidableEq, Repr

def UsageError.message : UsageError → String
  | missingCommand => "no command given"
  | unknownCommand name => "unknown command '" ++ name ++ "'"
  | unknownOption argument => "unknown option '" ++ argument ++ "'"
  | missingValue option => "option '--" ++ option ++ "' wants a value"
  | unwantedValue option => "option '--" ++ option ++ "' takes no value"
  | repeatedOption option => "option '--" ++ option ++ "' is given more than once"
  | emptyPath => "a path is empty"
  | missingArgument => "an argument is missing"
  | unexpectedArgument argument => "unexpected argument '" ++ argument ++ "'"

/-! ### Sorting arguments -/

/-- An option: its name after two dashes, and perhaps a letter after one. -/
structure OptionSpec where
  name : String
  letter : Option Char := none
  takesValue : Bool := true
deriving DecidableEq, Repr

/-- Sorted arguments: the positional ones, the option values and the flags, each in the
order given. -/
structure Arguments where
  positional : List String := []
  values : List (String × String) := []
  flags : List String := []
deriving DecidableEq, Repr

namespace Arguments

def addPositional (value : String) (a : Arguments) : Arguments :=
  { a with positional := value :: a.positional }

def addValue (option value : String) (a : Arguments) : Arguments :=
  { a with values := (option, value) :: a.values }

def addFlag (option : String) (a : Arguments) : Arguments :=
  { a with flags := option :: a.flags }

/-- The option that an argument names, with the value attached to it. -/
structure Mention where
  option : OptionSpec
  attached : Option String

/-- Reads an argument as a mention of an option. A dash alone is an ordinary value. -/
def mention? (specs : List OptionSpec) (argument : String) :
    Except UsageError (Option Mention) :=
  match argument.toList with
  | '-' :: '-' :: chars =>
    let name := String.ofList (chars.takeWhile (· ≠ '='))
    let attached :=
      match chars.dropWhile (· ≠ '=') with
      | [] => none
      | _ :: value => some (String.ofList value)
    match specs.find? (·.name = name) with
    | some option => .ok (some ⟨option, attached⟩)
    | none => .error (.unknownOption argument)
  | '-' :: letter :: chars =>
    let attached :=
      match chars with
      | [] => none
      | '=' :: value => some (String.ofList value)
      | value => some (String.ofList value)
    match specs.find? (·.letter = some letter) with
    | some option => .ok (some ⟨option, attached⟩)
    | none => .error (.unknownOption argument)
  | _ => .ok none

/-- The argument can be the value of the option before it. -/
def IsValue (argument : String) : Prop :=
  ¬ (argument.startsWith "-" ∧ argument ≠ "-")

instance (argument : String) : Decidable (IsValue argument) := inferInstanceAs (Decidable (¬ _))

/-- Sorts arguments by the options of a command. -/
def ofList (specs : List OptionSpec) : List String → Except UsageError Arguments
  | [] => .ok {}
  | argument :: rest => do
    if argument = "--" then
      return { positional := rest }
    match ← mention? specs argument with
    | none => return (← ofList specs rest).addPositional argument
    | some ⟨option, attached⟩ =>
      match option.takesValue, attached with
      | false, none => return (← ofList specs rest).addFlag option.name
      | false, some _ => throw (.unwantedValue option.name)
      | true, some value => return (← ofList specs rest).addValue option.name value
      | true, none =>
        match rest with
        | [] => throw (.missingValue option.name)
        | value :: more =>
          if ¬ IsValue value then throw (.missingValue option.name)
          return (← ofList specs more).addValue option.name value

/-- The values of an option that may be repeated. -/
def valuesOf (a : Arguments) (option : String) : List String :=
  (a.values.filter fun (name, _) => name = option).map Prod.snd

/-- The value of an option that may be given once. -/
def value? (a : Arguments) (option : String) : Except UsageError (Option String) :=
  match a.valuesOf option with
  | [] => .ok none
  | [value] => .ok (some value)
  | _ => .error (.repeatedOption option)

/-- A flag that may be given once. -/
def flag (a : Arguments) (option : String) : Except UsageError Bool :=
  match a.flags.count option with
  | 0 => .ok false
  | 1 => .ok true
  | _ => .error (.repeatedOption option)

end Arguments

/-- A path is not empty. -/
def checkPath (path : String) : Except UsageError String :=
  if path = "" then .error .emptyPath else .ok path

/-! ### Commands -/

/-- A run of the built-in patches: the paths of the files, the names of the patches to
run, all if there are none, and whether they run whatever the package. -/
structure PatchRequest where
  model : String
  output : Option String
  config : Option String
  only : List String
  ignoreCompatibility : Bool
deriving DecidableEq, Repr

/-- What a user can ask for. -/
inductive Command
  /-- The size of a program. -/
  | info (model : String)
  /-- The disassembly of a program, or of its class of a given type. -/
  | disassemble (model : String) (type : Option String)
  /-- The methods that load all the strings. -/
  | search (model : String) (strings : List String)
  /-- The built-in patches. -/
  | list
  | patch (request : PatchRequest)
deriving DecidableEq, Repr

namespace Command

/-- The options of the command `disasm`. -/
def disassembleOptions : List OptionSpec := [⟨"class", none, true⟩]

/-- The options of the command `patch`. -/
def patchOptions : List OptionSpec :=
  [⟨"output", some 'o', true⟩, ⟨"config", none, true⟩, ⟨"only", none, true⟩,
    ⟨"ignore-compatibility", none, false⟩]

/-- The only positional argument: the path of the model. -/
def onlyModel (a : Arguments) : Except UsageError String :=
  match a.positional with
  | [] => .error .missingArgument
  | [model] => checkPath model
  | _ :: other :: _ => .error (.unexpectedArgument other)

/-- The command that arguments ask for. -/
def ofArguments : List String → Except UsageError Command
  | [] => .error .missingCommand
  | "info" :: rest => do
    return info (← onlyModel (← Arguments.ofList [] rest))
  | "disasm" :: rest => do
    let a ← Arguments.ofList disassembleOptions rest
    return disassemble (← onlyModel a) (← a.value? "class")
  | "match" :: rest => do
    match (← Arguments.ofList [] rest).positional with
    | model :: string :: strings => return search (← checkPath model) (string :: strings)
    | _ => throw .missingArgument
  | "list" :: rest => do
    match (← Arguments.ofList [] rest).positional with
    | [] => return list
    | other :: _ => throw (.unexpectedArgument other)
  | "patch" :: rest => do
    let a ← Arguments.ofList patchOptions rest
    let model ← onlyModel a
    let output ← (← a.value? "output").mapM checkPath
    let config ← (← a.value? "config").mapM checkPath
    let ignoreCompatibility ← a.flag "ignore-compatibility"
    return patch { model, output, config, only := a.valuesOf "only", ignoreCompatibility }
  | other :: _ => .error (.unknownCommand other)

end Command

end DexPatch
