import DexPatch.Declaration

/-!
# Drafts

A draft is a declaration in the making. The frame of a method is sized when its draft is
finished: unless told otherwise, the arguments cover the parameters and the receiver, and
the frame covers the arguments and every register that the code names.

## Main definitions

* `MethodDraft` — a method in the making; `MethodDraft.finish` ends it
* `DraftStep`, `MethodDecl.ofSteps` — what can be said about it, and the method that
  comes of a list of such steps
* `ClassDecl.draft`, `ClassDecl.addField`, `ClassDecl.addMethod` — a class in the making
-/

namespace DexPatch

/-- One thing that is said about a method in the making. What is said later wins. -/
inductive DraftStep
  | accessFlags (flags : AccessFlags)
  | makeStatic
  | makeAbstract
  | registers (n : UInt16)
  | ins (n : UInt16)
  | code (code : List Instruction)
deriving DecidableEq, Repr

/-- A method in the making: sizes and code are optional until it is finished. -/
structure MethodDraft where
  name : String
  params : List TypeDesc
  ret : TypeDesc
  accessFlags : AccessFlags
  registers : Option UInt16 := none
  ins : Option UInt16 := none
  code : Option (List Instruction) := none
deriving DecidableEq, Repr

namespace MethodDraft

/-- A public method without code. An initialiser is marked as such. -/
def start (name : String) (params : List TypeDesc) (ret : TypeDesc) : MethodDraft where
  name
  params
  ret
  accessFlags :=
    if name ∈ MethodDecl.initialiserNames then .isPublic ||| .isConstructor else .isPublic

def withAccessFlags (d : MethodDraft) (flags : AccessFlags) : MethodDraft :=
  { d with accessFlags := flags }

def asStatic (d : MethodDraft) : MethodDraft :=
  { d with accessFlags := d.accessFlags ||| .isStatic }

/-- An abstract method has no code: what was given is dropped. -/
def asAbstract (d : MethodDraft) : MethodDraft :=
  { d with accessFlags := d.accessFlags ||| .isAbstract, code := none }

def withRegisters (d : MethodDraft) (registers : UInt16) : MethodDraft :=
  { d with registers := some registers }

def withIns (d : MethodDraft) (ins : UInt16) : MethodDraft := { d with ins := some ins }

def withCode (d : MethodDraft) (code : List Instruction) : MethodDraft :=
  { d with code := some code }

/-- The draft after one more step. -/
def take (d : MethodDraft) : DraftStep → MethodDraft
  | .accessFlags flags => d.withAccessFlags flags
  | .makeStatic => d.asStatic
  | .makeAbstract => d.asAbstract
  | .registers n => d.withRegisters n
  | .ins n => d.withIns n
  | .code code => d.withCode code

/-- One argument register per parameter, and one for the receiver unless the method is
static. -/
def argumentCount (d : MethodDraft) : UInt16 :=
  UInt16.ofNat d.params.length + if d.accessFlags.HasAny .isStatic then 0 else 1

/-- The least frame size above every register of the code. -/
def usedRegisters (code : List Instruction) : UInt16 :=
  (code.flatMap Instruction.regs).foldl (fun size r => max size (r.index + 1)) 0

/-- The body of a draft with the given code. -/
def bodyOf (d : MethodDraft) (code : List Instruction) : Body :=
  let ins := d.ins.getD d.argumentCount
  ⟨d.registers.getD (max (usedRegisters code) ins), ins, code⟩

/-- The finished method; it has a body if the draft has code. -/
def finish (d : MethodDraft) : MethodDecl where
  name := d.name
  params := d.params
  ret := d.ret
  accessFlags := d.accessFlags
  body := d.code.map d.bodyOf

end MethodDraft

/-- The method that steps make. -/
def MethodDecl.ofSteps (name : String) (params : List TypeDesc) (ret : TypeDesc)
    (steps : List DraftStep) : MethodDecl :=
  (steps.foldl MethodDraft.take (.start name params ret)).finish

namespace ClassDecl

/-- A public class without members, right below the root of the hierarchy. -/
def draft (type : TypeDesc) : ClassDecl where
  type
  superClass := some .object
  accessFlags := .isPublic

def addField (c : ClassDecl) (f : FieldDecl) : ClassDecl :=
  { c with fields := c.fields ++ [f] }

def addMethod (c : ClassDecl) (m : MethodDecl) : ClassDecl :=
  { c with methods := c.methods ++ [m] }

end ClassDecl

end DexPatch
