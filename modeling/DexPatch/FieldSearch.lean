import DexPatch.FieldTally

/-!
# Finding a field without its name

Three ways to single out a field of a class: by a type that only one field has, by the
evidence in the methods that read it, and by a string that is loaded shortly before it
is read.

## Main definitions

* `Unresolved` — why no field was singled out
* `ClassDecl.fieldByUniqueType`, `ClassDecl.fieldByEvidence`, `ClassDecl.fieldNearString`
  — the three ways
* `ClassDecl.tierField` — the field that holds the subscription tier
-/

namespace DexPatch

/-- Why no field was singled out. -/
inductive Unresolved
  | notFound
  | ambiguous (count : Nat)
deriving DecidableEq, Repr

def Unresolved.message : Unresolved → String
  | notFound => "no candidate field"
  | ambiguous count => toString count ++ " candidate fields, expected exactly one"

namespace ClassDecl

/-- The only field of the class with a given type. -/
def fieldByUniqueType (c : ClassDecl) (type : TypeDesc) : Except Unresolved FieldRef :=
  match c.fieldRefs.filter (·.type = type) with
  | [] => .error .notFound
  | [f] => .ok f
  | several => .error (.ambiguous several.length)

/-- The winner of the field tally. -/
def fieldByEvidence (c : ClassDecl) : Except Unresolved FieldRef :=
  match (FieldTally.ofClass c).winner? with
  | some f => .ok f
  | none => .error .notFound

/-- The field of the first boolean read among the instructions. -/
def firstBooleanRead? (code : List Instruction) : Option FieldRef :=
  (code.find? (·.opcode.isBooleanFieldRead)).bind Instruction.field?

/-- The first boolean read at most `window` instructions after a load of `marker`; each
load is tried in turn. -/
def readNearString? (marker : String) (window : Nat) : List Instruction → Option FieldRef
  | [] => none
  | i :: rest =>
    if i.string? = some marker then
      match firstBooleanRead? (rest.take window) with
      | some f => some f
      | none => readNearString? marker window rest
    else readNearString? marker window rest

/-- The boolean field read near a load of `marker`, in the first method that has one. -/
def fieldNearString (c : ClassDecl) (marker : String) (window : Nat) :
    Except Unresolved FieldRef :=
  match c.methods.findSome? fun m => readNearString? marker window m.code with
  | some f => .ok f
  | none => .error .notFound

/-- The only boxed integer of the class, or else the winner of the tally. -/
def tierField (c : ClassDecl) : Except Unresolved FieldRef :=
  match c.fieldByUniqueType .boxedInteger with
  | .ok f => .ok f
  | .error _ => c.fieldByEvidence

end ClassDecl

end DexPatch
