import DexPatch.Instruction

/-!
# Making instructions

One function per common instruction. None of them checks its operands: an instruction
is checked when its body enters a program.

## Main definitions

* `Instruction.constInt` — an integer load in the narrowest form that encodes it
* `Instruction.constZero` — the load of zero
-/

namespace DexPatch.Instruction

/-- The narrowest of the three integer loads that encodes both register and value; the
widest is the last resort. -/
def constOpcode (dst : Reg) (value : Int) : Opcode :=
  if dst.index < 16 ∧ -8 ≤ value ∧ value ≤ 7 then .const4
  else if Int16.minValue.toInt ≤ value ∧ value ≤ Int16.maxValue.toInt then .const16
  else .const32

/-- Loads an integer in the narrowest form. -/
def constInt (dst : Reg) (value : Int32) : Instruction :=
  ⟨constOpcode dst value.toInt, [dst], .literal value.toInt⟩

/-- Loads zero. -/
def constZero (dst : Reg) : Instruction := constInt dst 0

def nop : Instruction := ⟨.nop, [], .empty⟩

def move (dst src : Reg) : Instruction := ⟨.move, [dst, src], .empty⟩

def moveResult (dst : Reg) : Instruction := ⟨.moveResult, [dst], .empty⟩

def constString (dst : Reg) (value : String) : Instruction :=
  ⟨.constString, [dst], .string value⟩

def constClass (dst : Reg) (type : TypeDesc) : Instruction :=
  ⟨.constClass, [dst], .type type⟩

/-- An access to a field of an object: a value register, the object's register and the
field. -/
def instanceField (op : Opcode) (value object : Reg) (field : FieldRef) : Instruction :=
  ⟨op, [value, object], .field field⟩

/-- An access to a static field: a value register and the field. -/
def staticField (op : Opcode) (value : Reg) (field : FieldRef) : Instruction :=
  ⟨op, [value], .field field⟩

/-- A branch on one register. -/
def branchZero (op : Opcode) (reg : Reg) (target : Label) : Instruction :=
  ⟨op, [reg], .target target⟩

/-- A branch on two registers. -/
def branch (op : Opcode) (a b : Reg) (target : Label) : Instruction :=
  ⟨op, [a, b], .target target⟩

def goto (target : Label) : Instruction := ⟨.goto, [], .target target⟩

/-- Adds a small literal to a register. -/
def addIntLit8 (dst src : Reg) (value : Int8) : Instruction :=
  ⟨.addIntLit8, [dst, src], .literal value.toInt⟩

def invoke (op : Opcode) (args : List Reg) (method : MethodRef) : Instruction :=
  ⟨op, args, .method method⟩

def newInstance (dst : Reg) (type : TypeDesc) : Instruction :=
  ⟨.newInstance, [dst], .type type⟩

/-- Returns an integer or a boolean. -/
def ret (src : Reg) : Instruction := ⟨.ret, [src], .empty⟩

def retObject (src : Reg) : Instruction := ⟨.retObject, [src], .empty⟩

def retVoid : Instruction := ⟨.retVoid, [], .empty⟩

def throw (src : Reg) : Instruction := ⟨.throw, [src], .empty⟩

end DexPatch.Instruction
