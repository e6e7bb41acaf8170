import DexPatch.Edit
import DexPatch.Instruction.Make

/-!
# Forced returns

A method is made to return a fixed value: its body becomes a load of the value and a
return. The frame keeps its size, so that the arguments stay where callers put them; it
grows to one register if there is a value to load and no register to hold it.

## Main definitions

* `EditError` — why an edit of the higher kind stops
* `minimalBody` — the body that returns a value and does nothing else
* `forceReturn` — puts the minimal body in place
-/

namespace DexPatch

/-- Why a forced return or a substitution stops. -/
inductive EditError
  | program (cause : ProgramError)
  | missingBody (method : MethodRef)
  | returnKindMismatch (method : MethodRef) (expected : ReturnKind) (value : ReturnValue)
  | staleSite (method : MethodRef) (position : Nat)
deriving DecidableEq, Repr

def EditError.message : EditError → String
  | program cause => cause.message
  | missingBody method => method.text ++ " has no body to rewrite"
  | returnKindMismatch method expected value =>
    method.text ++ " returns " ++ expected.text ++ ", cannot force " ++ value.text
  | staleSite method position =>
    method.text ++ " position " ++ toString position ++ " no longer reads the planned field"

/-- What a forced return did to the body. -/
inductive ForceOutcome
  | changed
  /-- The body was the minimal one already. -/
  | unchanged
deriving DecidableEq, Repr

/-- The number of bodies changed. -/
def ForceOutcome.count : ForceOutcome → Nat
  | changed => 1
  | unchanged => 0

/-- The instructions that return a value, through the first register if there is one to
load. -/
def returnCode : ReturnValue → List Instruction
  | .void => [.retVoid]
  | .boolean b => [.constInt ⟨0⟩ (if b then 1 else 0), .ret ⟨0⟩]
  | .integer value => [.constInt ⟨0⟩ value, .ret ⟨0⟩]
  | .null => [.constZero ⟨0⟩, .retObject ⟨0⟩]

/-- The body that returns a value and does nothing else, in a frame of the given size. -/
def minimalBody (value : ReturnValue) (registers ins : UInt16) : Body where
  registers := if value = .void then registers else max registers 1
  ins := ins
  instructions := returnCode value

/-- Makes the method at `id` return `value` and do nothing else. -/
def forceReturn (id : MethodId) (value : ReturnValue) : Edit EditError ForceOutcome := do
  match (← Edit.program).locate? id with
  | none => .fail (.program (.unknownMethod id))
  | some (owner, m) =>
    if value.kind ≠ m.returnKind then
      .fail (.returnKindMismatch (m.ref owner) m.returnKind value)
    else
      match m.body with
      | none => .fail (.missingBody (m.ref owner))
      | some body =>
        let minimal := minimalBody value body.registers body.ins
        if minimal = body then
          return .unchanged
        else do
          let _ ← (replaceBody id minimal).mapError .program
          return .changed

end DexPatch
