import DexPatch.FieldSearch

/-!
# Run reports

A run reports, patch by patch, what became of every block: how many edits it made, or
why it was skipped.

## Main definitions

* `SkipReason`, `BlockOutcome`, `BlockReport`, `PatchReport`, `RunReport` — the report
* `RunReport.edits`, `RunReport.skipped` — the totals
* `RunReport.text` — the written report
-/

namespace DexPatch

/-- Why a block did nothing. -/
inductive SkipReason
  | noMatch (fingerprint : String)
  | unresolved (what : String) (reason : Unresolved)
deriving DecidableEq, Repr

def SkipReason.message : SkipReason → String
  | noMatch fingerprint => "fingerprint " ++ fingerprint ++ " matched nothing"
  | unresolved what reason => what ++ " not identified: " ++ reason.message

/-- What became of a block. -/
inductive BlockOutcome
  | applied (edits : Nat)
  | skipped (reason : SkipReason)
deriving DecidableEq, Repr

namespace BlockOutcome

/-- The edits made, none if the block was skipped. -/
def edits : BlockOutcome → Nat
  | applied n => n
  | skipped _ => 0

def isSkipped : BlockOutcome → Bool
  | applied _ => false
  | skipped _ => true

def text : BlockOutcome → String
  | applied n => toString n ++ " edit(s)"
  | skipped reason => "skipped: " ++ reason.message

end BlockOutcome

/-- A block with its outcome. -/
structure BlockReport where
  name : String
  outcome : BlockOutcome
deriving DecidableEq, Repr

/-- Whether a patch ran at all. -/
inductive PatchStatus
  | executed
  /-- The patch is not meant for the package of the program. -/
  | incompatible
deriving DecidableEq, Repr

/-- A patch with the reports of its blocks, in the order in which they ran. -/
structure PatchReport where
  name : String
  status : PatchStatus
  blocks : List BlockReport := []
deriving DecidableEq, Repr

/-- The first block of a given name. -/
def PatchReport.block? (p : PatchReport) (name : String) : Option BlockReport :=
  p.blocks.find? (·.name == name)

/-- The reports of all patches of a run, in order. -/
structure RunReport where
  patches : List PatchReport
deriving DecidableEq, Repr

namespace RunReport

/-- The first patch of a given name. -/
def patch? (r : RunReport) (name : String) : Option PatchReport :=
  r.patches.find? (·.name == name)

/-- The outcomes of all blocks, in order. -/
def outcomes (r : RunReport) : List BlockOutcome :=
  r.patches.flatMap fun p => p.blocks.map BlockReport.outcome

/-- The number of edits made. -/
def edits (r : RunReport) : Nat := r.outcomes.foldr (fun outcome n => outcome.edits + n) 0

/-- The number of blocks skipped. -/
def skipped (r : RunReport) : Nat := r.outcomes.countP BlockOutcome.isSkipped

/-- The width of the column of block names. -/
def nameColumn : Nat := 24

/-- A name filled up with spaces to the width of the column. -/
def pad (name : String) : String :=
  name ++ String.ofList (List.replicate (nameColumn - name.length) ' ')

/-- The line of a block: its name, padded to the column, and its outcome. -/
def blockLine (b : BlockReport) : String :=
  "  " ++ pad b.name ++ " " ++ b.outcome.text

/-- The lines of a patch: its name and status, then its blocks. -/
def patchLines (p : PatchReport) : List String :=
  let title :=
    match p.status with
    | .executed => p.name
    | .incompatible => p.name ++ " (incompatible, not run)"
  title :: p.blocks.map blockLine

/-- The last line: the totals. -/
def summary (r : RunReport) : String :=
  toString r.edits ++ " edit(s), " ++ toString r.skipped ++ " block(s) skipped"

/-- The written report: patches in order, then the totals. -/
def text (r : RunReport) : String :=
  String.intercalate "\n" (r.patches.flatMap patchLines ++ [r.summary])

end RunReport

end DexPatch
