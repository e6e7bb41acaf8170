import DexPatch.Instruction

/-!
# The flat form of instructions

Listings spell an instruction as a record with one optional entry per payload kind. At
most one of the entries may be present.

## Main definitions

* `FlatInstruction` — the record
* `Instruction.flat` — the record of an instruction
* `FlatInstruction.instruction` — the instruction of a record, if it is one
-/

namespace DexPatch

/-- An instruction with one optional entry per payload kind. -/
structure FlatInstruction where
  opcode : Opcode
  regs : List Reg := []
  literal : Option Int := none
  string : Option String := none
  field : Option FieldRef := none
  method : Option MethodRef := none
  type : Option TypeDesc := none
  target : Option Label := none
deriving DecidableEq, Repr

namespace FlatInstruction

/-- The payloads present. -/
def payloads (f : FlatInstruction) : List Payload :=
  (f.literal.map Payload.literal).toList ++ (f.string.map Payload.string).toList
    ++ (f.field.map Payload.field).toList ++ (f.method.map Payload.method).toList
    ++ (f.type.map Payload.type).toList ++ (f.target.map Payload.target).toList

/-- The instruction that a record stands for: two payloads conflict, and the operands
must fit the opcode. -/
def instruction (f : FlatInstruction) : Except InstructionError Instruction :=
  match f.payloads with
  | [] => Instruction.ofParts f.opcode f.regs .empty
  | [payload] => Instruction.ofParts f.opcode f.regs payload
  | _ => .error (.conflictingPayload f.opcode)

end FlatInstruction

/-- The record of an instruction: the entry of its payload's kind is present. -/
def Instruction.flat (i : Instruction) : FlatInstruction :=
  match i.payload with
  | .empty => { opcode := i.opcode, regs := i.regs }
  | .literal value => { opcode := i.opcode, regs := i.regs, literal := some value }
  | .string value => { opcode := i.opcode, regs := i.regs, string := some value }
  | .field ref => { opcode := i.opcode, regs := i.regs, field := some ref }
  | .method ref => { opcode := i.opcode, regs := i.regs, method := some ref }
  | .type desc => { opcode := i.opcode, regs := i.regs, type := some desc }
  | .target label => { opcode := i.opcode, regs := i.regs, target := some label }

end DexPatch
