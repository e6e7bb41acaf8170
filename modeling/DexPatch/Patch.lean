import DexPatch.Edit
import DexPatch.ForceReturn
import DexPatch.Patch.Config
import DexPatch.Patch.Report

/-!
# Patches

A patch is a list of blocks, each with edits of its own. A block that finds nothing to do
is skipped and the next one runs; an edit that fails ends the whole run. What was changed
before stays changed in both cases.

## Main definitions

* `Block`, `Patch` — a named edit, and a named list of blocks for certain packages
* `Patch.execute` — the blocks in order
* `runPatches` — patches in order, each behind the test of the program's package
* `selectPatches` — the patches of given names
-/

namespace DexPatch

/-- Why a block did not come to its end. -/
inductive BlockError
  | skip (reason : SkipReason)
  | fatal (cause : EditError)
deriving DecidableEq, Repr

/-- Why a run did not come to its end. -/
inductive RunError
  | fatal (patch block : String) (cause : EditError)
  | unknownPatch (name : String)
deriving DecidableEq, Repr

def RunError.message : RunError → String
  | fatal patch block cause => patch ++ " / " ++ block ++ ": " ++ cause.message
  | unknownPatch name => "no patch named `" ++ name ++ "`"

/-- A named edit that depends on the configuration and counts what it changes. A block
that does not apply to a program is passed over without a report. -/
structure Block where
  name : String
  applies : Config → Program → Bool := fun _ _ => true
  edit : Config → Edit BlockError Nat

/-- A named list of blocks. The packages are those that the patch is meant for; none
listed means any. -/
structure Patch where
  name : String
  description : String := ""
  packages : List String := []
  blocks : List Block

/-- The edit of a block as part of a run: a skip is an outcome, not an error. -/
def Block.outcome (patch : String) (config : Config) (b : Block) :
    Edit RunError BlockOutcome :=
  ⟨fun p =>
    match (b.edit config).run p with
    | (.ok n, q) => (.ok (.applied n), q)
    | (.error (.skip reason), q) => (.ok (.skipped reason), q)
    | (.error (.fatal cause), q) => (.error (.fatal patch b.name cause), q)⟩

namespace Patch

/-- The blocks of a list that apply, in order. -/
def executeBlocks (patch : String) (config : Config) :
    List Block → Edit RunError (List BlockReport)
  | [] => pure []
  | b :: rest => do
    if b.applies config (← Edit.program) then
      let outcome ← b.outcome patch config
      let others ← executeBlocks patch config rest
      return ⟨b.name, outcome⟩ :: others
    else
      executeBlocks patch config rest

/-- Runs the blocks of a patch. -/
def execute (patch : Patch) (config : Config) : Edit RunError (List BlockReport) :=
  executeBlocks patch.name config patch.blocks

/-- The patch is meant for the package. -/
def IsCompatibleWith (patch : Patch) (package : String) : Prop :=
  patch.packages = [] ∨ package ∈ patch.packages

instance (patch : Patch) (package : String) : Decidable (patch.IsCompatibleWith package) :=
  inferInstanceAs (Decidable (_ ∨ _))

end Patch

/-- How a run treats patches that are meant for other packages. -/
structure RunOptions where
  ignoreCompatibility : Bool := false
deriving DecidableEq, Repr

/-- The patch may run on the program: a program without a known package takes any patch. -/
def Patch.MayRun (patch : Patch) (options : RunOptions) (p : Program) : Prop :=
  options.ignoreCompatibility = true ∨ ∀ package ∈ p.package, patch.IsCompatibleWith package

instance (patch : Patch) (options : RunOptions) (p : Program) :
    Decidable (patch.MayRun options p) :=
  inferInstanceAs (Decidable (_ ∨ ∀ package ∈ p.package, patch.IsCompatibleWith package))

/-- One patch as part of a run. -/
def Patch.report (patch : Patch) (config : Config) (options : RunOptions) :
    Edit RunError PatchReport := do
  if patch.MayRun options (← Edit.program) then
    let blocks ← patch.execute config
    return ⟨patch.name, .executed, blocks⟩
  else
    return ⟨patch.name, .incompatible, []⟩

/-- The reports of patches run in order. -/
def runEach (config : Config) (options : RunOptions) :
    List Patch → Edit RunError (List PatchReport)
  | [] => pure []
  | patch :: rest => do
    let first ← patch.report config options
    let others ← runEach config options rest
    return first :: others

/-- Runs patches in order. An error keeps the changes made before it. -/
def runPatches (patches : List Patch) (config : Config) (options : RunOptions) :
    Edit RunError RunReport := do
  return ⟨← runEach config options patches⟩

/-! ### Selecting patches -/

/-- Two names are equal but for the case of ASCII letters. -/
def SameName (a b : String) : Prop := a.toList.map Char.toLower = b.toList.map Char.toLower

instance (a b : String) : Decidable (SameName a b) := inferInstanceAs (Decidable (_ = _))

/-- The patches with one of the given names, in their own order; no names at all select
every patch. The first name that no patch has is an error. -/
def selectPatches (patches : List Patch) (names : List String) :
    Except RunError (List Patch) :=
  match names.find? fun n => ¬ ∃ p ∈ patches, SameName p.name n with
  | some unknown => .error (.unknownPatch unknown)
  | none =>
    if names.isEmpty then .ok patches
    else .ok (patches.filter fun p => ∃ n ∈ names, SameName p.name n)

end DexPatch
