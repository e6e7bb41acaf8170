import DexPatch.Opcode
import DexPatch.Reference
import DexPatch.Text.Quoted

/-!
# Instructions

An instruction is an opcode, its register operands and at most one further operand,
the payload. Nothing stops an instruction from carrying operands that its opcode
cannot encode; `Instruction.check` finds the first such defect.

## Main definitions

* `Reg`, `Label`, `Payload` — the operands
* `Instruction` — an opcode with operands
* `Instruction.literal?`, `Instruction.string?`, … — the payload by kind
* `Instruction.dest?`, `Instruction.fieldRead?` — the register written and the field
  read, as the opcode's flags tell
* `Instruction.check` — the operands against the opcode's format
* `InstructionError.message` — the wording of the defects
* `Instruction.text` — the written form
-/

namespace DexPatch

/-- A virtual register, by index in the frame. -/
structure Reg where
  index : UInt16
deriving DecidableEq, Repr, Inhabited

def Reg.text (r : Reg) : String := "v" ++ toString r.index.toNat

/-- A branch target: the index of an instruction in the same body. -/
structure Label where
  index : UInt32
deriving DecidableEq, Repr, Inhabited

def Label.text (l : Label) : String := "@" ++ toString l.index.toNat

/-- The operand of an instruction that is not a register. -/
inductive Payload
  | empty
  | literal (value : Int)
  | string (value : String)
  | field (ref : FieldRef)
  | method (ref : MethodRef)
  | type (desc : TypeDesc)
  | target (label : Label)
deriving DecidableEq, Repr, Inhabited

namespace Payload

def kind : Payload → PayloadKind
  | empty => .empty
  | literal _ => .literal
  | string _ => .string
  | field _ => .field
  | method _ => .method
  | type _ => .type
  | target _ => .target

/-- The written form, if there is anything to write. -/
def text? : Payload → Option String
  | empty => none
  | literal value => some (Text.signedHex value)
  | string value => some (Text.quote value)
  | field ref => some ref.text
  | method ref => some ref.text
  | type desc => some desc.text
  | target label => some label.text

end Payload

/-- An opcode with its operands. -/
structure Instruction where
  opcode : Opcode
  regs : List Reg
  payload : Payload
deriving DecidableEq, Repr

/-- Why operands do not make an instruction. -/
inductive InstructionError
  | registerCount (opcode : Opcode) (expected : RegCount) (actual : Nat)
  | registerWidth (opcode : Opcode) (reg : Reg) (bits : Nat)
  | payloadKind (opcode : Opcode) (expected actual : PayloadKind)
  | literalRange (opcode : Opcode) (value : Int) (bits : Nat)
  | unknownMnemonic (text : String)
  | conflictingPayload (opcode : Opcode)
deriving DecidableEq, Repr

def InstructionError.message : InstructionError → String
  | registerCount op expected actual =>
    op.mnemonic ++ " expects " ++ expected.text ++ " register operand(s), got "
      ++ toString actual
  | registerWidth op reg bits =>
    op.mnemonic ++ " operand " ++ reg.text ++ " does not fit in " ++ toString bits ++ " bits"
  | payloadKind op expected actual =>
    op.mnemonic ++ " expects a " ++ expected.name ++ " operand, got " ++ actual.name
  | literalRange op value bits =>
    op.mnemonic ++ " literal " ++ toString value ++ " does not fit in " ++ toString bits
      ++ " bits"
  | unknownMnemonic text => "unknown opcode mnemonic `" ++ text ++ "`"
  | conflictingPayload op => op.mnemonic ++ " carries more than one non-register operand"

namespace Instruction

/-! ### Operands -/

/-- The integer literal carried, if any. -/
def literal? (i : Instruction) : Option Int :=
  match i.payload with
  | .literal value => some value
  | _ => none

/-- The string constant loaded, if any. -/
def string? (i : Instruction) : Option String :=
  match i.payload with
  | .string value => some value
  | _ => none

/-- The field accessed, if any. -/
def field? (i : Instruction) : Option FieldRef :=
  match i.payload with
  | .field ref => some ref
  | _ => none

/-- The method called, if any. -/
def method? (i : Instruction) : Option MethodRef :=
  match i.payload with
  | .method ref => some ref
  | _ => none

/-- The type named, if any. -/
def type? (i : Instruction) : Option TypeDesc :=
  match i.payload with
  | .type desc => some desc
  | _ => none

/-- The branch target, if any. -/
def target? (i : Instruction) : Option Label :=
  match i.payload with
  | .target label => some label
  | _ => none

/-- The register written, if any. -/
def dest? (i : Instruction) : Option Reg :=
  if i.opcode.has .dest then i.regs.head? else none

/-- The field read, if the instruction reads one. -/
def fieldRead? (i : Instruction) : Option FieldRef :=
  if i.opcode.isFieldRead then i.field? else none

/-- The instruction reads the field `f`. -/
def Reads (i : Instruction) (f : FieldRef) : Prop := i.fieldRead? = some f

instance (i : Instruction) (f : FieldRef) : Decidable (i.Reads f) :=
  inferInstanceAs (Decidable (_ = _))

/-! ### Operands against the format -/

/-- A signed integer of `bits` bits can hold `value`. -/
def LiteralFits (bits : Nat) (value : Int) : Prop :=
  -Int.ofNat (1 <<< (bits - 1)) ≤ value ∧ value < Int.ofNat (1 <<< (bits - 1))

instance (bits : Nat) (value : Int) : Decidable (LiteralFits bits value) :=
  inferInstanceAs (Decidable (_ ∧ _))

/-- The payload against the one that the opcode takes. -/
def checkPayload (i : Instruction) : Except InstructionError Unit :=
  let expected := i.opcode.format.payload
  if expected.kind ≠ i.payload.kind then
    .error (.payloadKind i.opcode expected.kind i.payload.kind)
  else
    match expected, i.payload with
    | .literal bits, .literal value =>
      if LiteralFits bits value then .ok () else .error (.literalRange i.opcode value bits)
    | _, _ => .ok ()

/-- The operands against the opcode's format: first the number of registers, then
their width, then the kind of the payload, then the range of a literal. -/
def check (i : Instruction) : Except InstructionError Unit :=
  let format := i.opcode.format
  if format.regs.accepts i.regs.length then
    match i.regs.find? fun r => 1 <<< format.regBits ≤ r.index.toNat with
    | some reg => .error (.registerWidth i.opcode reg format.regBits)
    | none => i.checkPayload
  else
    .error (.registerCount i.opcode format.regs i.regs.length)

/-- An instruction from its parts, refused unless its operands fit. -/
def ofParts (opcode : Opcode) (regs : List Reg) (payload : Payload) :
    Except InstructionError Instruction :=
  let i : Instruction := ⟨opcode, regs, payload⟩
  match i.check with
  | .error e => .error e
  | .ok () => .ok i

/-! ### The written form -/

/-- The written operands: the registers in order, then the payload. -/
def operandTexts (i : Instruction) : List String :=
  i.regs.map Reg.text ++ i.payload.text?.toList

/-- The mnemonic, then the operands after a space and separated by commas. -/
def text (i : Instruction) : String :=
  match i.operandTexts with
  | [] => i.opcode.mnemonic
  | operands => i.opcode.mnemonic ++ " " ++ String.intercalate ", " operands

end Instruction

end DexPatch
