import DexPatch.ForceReturn

/-!
# Substitution of field reads

Every read of one field, anywhere in the program, is replaced in place by a load of zero
into the same register. The reads are collected first; a plan that is carried out later
stops at the first place that no longer reads the field.

## Main definitions

* `Site` — the place of a read within a body, and the register it writes
* `SubstitutionPlan.collect` — all reads of a field
* `SubstitutionPlan.apply` — the plan carried out, counting the reads replaced
-/

namespace DexPatch

/-- A read to be replaced: its position and the register it writes. -/
structure Site where
  position : Nat
  dest : Reg
deriving DecidableEq, Repr

/-- The reads of the field `f` in a method, in order. -/
def MethodDecl.readSites (m : MethodDecl) (f : FieldRef) : List Site :=
  m.code.zipIdx.filterMap fun (i, position) =>
    if i.Reads f then i.dest?.map (Site.mk position) else none

/-- All reads of one field: the methods that have any, in order, each with its sites. -/
structure SubstitutionPlan where
  target : FieldRef
  entries : List (MethodId × List Site)
deriving DecidableEq, Repr

namespace SubstitutionPlan

/-- The reads of `target` in a program. -/
def collect (p : Program) (target : FieldRef) : SubstitutionPlan where
  target
  entries := p.methods.filterMap fun (id, m) =>
    match m.readSites target with
    | [] => none
    | sites => some (id, sites)

/-- The methods with reads to replace. -/
def methods (plan : SubstitutionPlan) : List MethodId := plan.entries.map Prod.fst

/-- The reads to replace in one method. -/
def sites (plan : SubstitutionPlan) (id : MethodId) : List Site :=
  ((plan.entries.find? fun (other, _) => other = id).map Prod.snd).getD []

/-- The number of reads to replace. -/
def size (plan : SubstitutionPlan) : Nat := (plan.entries.flatMap Prod.snd).length

def isEmpty (plan : SubstitutionPlan) : Bool := plan.entries.isEmpty

/-- Replaces one read by a load of zero, if it still is a read of the field. -/
def applySite (target : FieldRef) (id : MethodId) (site : Site) : Edit EditError Nat := do
  match (← Edit.program).locate? id with
  | none => .fail (.program (.unknownMethod id))
  | some (owner, m) =>
    if ∃ i ∈ m.code[site.position]?, i.Reads target then do
      let _ ← (replaceInstruction id site.position (.constZero site.dest)).mapError .program
      return 1
    else
      .fail (.staleSite (m.ref owner) site.position)

/-- Replaces the reads of one method, the last one first. -/
def applyEntry (target : FieldRef) : MethodId × List Site → Edit EditError Nat
  | (id, sites) => Edit.total (applySite target id) sites.reverse

/-- Carries out the plan, method by method, and counts the reads replaced. -/
def apply (plan : SubstitutionPlan) : Edit EditError Nat :=
  Edit.total (applyEntry plan.target) plan.entries

end SubstitutionPlan

end DexPatch
