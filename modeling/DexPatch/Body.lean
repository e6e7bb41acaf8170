import DexPatch.Instruction

/-!
# Method bodies

A body is a register frame and the instructions that run in it. The incoming
arguments take the top of the frame.

## Main definitions

* `Body` — a frame with instructions
* `Body.checkInstruction` — an instruction as if it stood at a place of the body
* `Body.check` — the whole body
* `BodyError.message` — the wording of the defects
-/

namespace DexPatch

/-- The code of a method: frame size, incoming arguments, instructions. -/
structure Body where
  registers : UInt16
  ins : UInt16 := 0
  instructions : List Instruction
deriving DecidableEq, Repr

/-- Structural defects of a body. -/
inductive BodyError
  | empty
  | insExceedRegisters (ins registers : UInt16)
  | instruction (position : Nat) (cause : InstructionError)
  | registerOutOfRange (position : Nat) (reg : Reg) (registers : UInt16)
  | targetOutOfRange (position : Nat) (target : Label) (length : Nat)
deriving DecidableEq, Repr

def BodyError.message : BodyError → String
  | empty => "body has no instructions"
  | insExceedRegisters ins registers =>
    toString ins.toNat ++ " incoming registers exceed the frame size of "
      ++ toString registers.toNat
  | instruction position cause =>
    "instruction " ++ toString position ++ ": " ++ cause.message
  | registerOutOfRange position reg registers =>
    "instruction " ++ toString position ++ ": " ++ reg.text ++ " is outside the frame of "
      ++ toString registers.toNat ++ " registers"
  | targetOutOfRange position target length =>
    "instruction " ++ toString position ++ ": branch target " ++ target.text
      ++ " out of range (" ++ toString length ++ " instructions)"

namespace Body

/-- The instruction as if it stood at `position`: its operands must fit its opcode,
its registers the frame, and its target the body. -/
def checkInstruction (b : Body) (position : Nat) (i : Instruction) :
    Except BodyError Unit :=
  match i.check with
  | .error cause => .error (.instruction position cause)
  | .ok () =>
    match i.regs.find? fun r => b.registers ≤ r.index with
    | some reg => .error (.registerOutOfRange position reg b.registers)
    | none =>
      match i.target? with
      | none => .ok ()
      | some target =>
        if target.index.toNat < b.instructions.length then .ok ()
        else .error (.targetOutOfRange position target b.instructions.length)

/-- The instructions of `code` as if they stood at `position` and after, first defect
first. -/
def checkFrom (b : Body) (position : Nat) : List Instruction → Except BodyError Unit
  | [] => .ok ()
  | i :: rest =>
    match b.checkInstruction position i with
    | .error e => .error e
    | .ok () => b.checkFrom (position + 1) rest

/-- The first defect of a body: no code, then arguments beyond the frame, then the
instructions in order. -/
def check (b : Body) : Except BodyError Unit :=
  if b.instructions.isEmpty then .error .empty
  else if b.registers < b.ins then .error (.insExceedRegisters b.ins b.registers)
  else b.checkFrom 0 b.instructions

/-- The body with `i` in place of the instruction at `position`. -/
def set (b : Body) (position : Nat) (i : Instruction) : Body :=
  { b with instructions := b.instructions.set position i }

end Body

end DexPatch
