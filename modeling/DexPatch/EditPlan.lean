import DexPatch.ForceReturn
import DexPatch.Role

/-!
# Plans of forced returns

A plan lists methods of one class with the value that each should return. It is made
before anything is changed.

## Main definitions

* `PlannedEdit` — a method, its role and the value to return
* `Program.planTier`, `Program.planDelay`, `Program.planDisable` — the plans
* `applyPlan` — the plan carried out, counting the bodies changed
-/

namespace DexPatch

/-- A forced return that is decided but not yet done. -/
structure PlannedEdit where
  method : MethodId
  role : Role
  value : ReturnValue
deriving DecidableEq, Repr

/-- The edit that a role calls for. -/
def PlannedEdit.ofRole (method : MethodId) (role : Role) (elevatedTier : Int32) :
    PlannedEdit :=
  ⟨method, role, role.forcedValue elevatedTier⟩

namespace MethodDecl

/-- The role of a method that reads the tier: booleans by their evidence, and `int` as
the accessor of the tier. Narrower integers have none. -/
def tierRole? (m : MethodDecl) : Option Role :=
  match m.returnKind with
  | .boolean => Role.ofEvidence? (Evidence.ofCode m.code)
  | .integer => if m.ret = .int then some .tierAccessor else none
  | _ => none

/-- Some instruction carries one of the literals. -/
def CarriesLiteral (m : MethodDecl) (literals : List Int) : Prop :=
  ∃ i ∈ m.code, ∃ value ∈ i.literal?, value ∈ literals

instance (m : MethodDecl) (literals : List Int) : Decidable (m.CarriesLiteral literals) :=
  inferInstanceAs (Decidable (∃ i ∈ m.code, ∃ value ∈ i.literal?, value ∈ literals))

/-- The role of a method of a component that is being disabled. Initialisers and methods
without code are left alone. -/
def disableRole? (m : MethodDecl) : Option Role :=
  if m.body.isSome ∧ ¬ m.IsAbstractOrNative ∧ ¬ m.IsConstructor then
    match m.returnKind with
    | .boolean => some .switch
    | .void => some .action
    | _ => none
  else none

end MethodDecl

namespace Program

/-- The edits for the methods of a class that read the tier field. -/
def planTier (p : Program) (owner : ClassId) (field : FieldRef) (elevatedTier : Int32) :
    List PlannedEdit :=
  (p.classMethods owner).filterMap fun (id, m) =>
    if m.ReadsField field then
      m.tierRole?.map fun role => .ofRole id role elevatedTier
    else none

/-- A zero for every `int` method of a class that carries one of the literals. -/
def planDelay (p : Program) (owner : ClassId) (literals : List Int) : List PlannedEdit :=
  (p.classMethods owner).filterMap fun (id, m) =>
    if m.ret = .int ∧ m.CarriesLiteral literals then
      some (.ofRole id .serverDelay 0)
    else none

/-- The edits that disable a class: booleans become false and actions do nothing. -/
def planDisable (p : Program) (owner : ClassId) : List PlannedEdit :=
  (p.classMethods owner).filterMap fun (id, m) =>
    m.disableRole?.map fun role => .ofRole id role 0

end Program

/-- Carries out planned edits in order and counts the bodies changed. -/
def applyPlan (edits : List PlannedEdit) : Edit EditError Nat :=
  Edit.total (fun e => return (← forceReturn e.method e.value).count) edits

end DexPatch
