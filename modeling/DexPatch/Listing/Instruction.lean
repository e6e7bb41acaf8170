import DexPatch.Instruction.Flat
import DexPatch.Listing.Record

/-!
# Instructions in listings

The listing form of an instruction is its flat record: the keys `op` and `regs`, and the
key of its payload. Its operands are checked after all keys have been read.

## Main definitions

* `Instruction.toNode`, `Instruction.ofNode` — the listing form and its reading
* `FieldRef.toNode`, `MethodRef.toNode`, … — the listing forms of operands
-/

namespace DexPatch

namespace TypeDesc

def toNode (t : TypeDesc) : Node := .text t.text

def ofNode (n : Node) : Except ListingError TypeDesc := TypeDesc.mk <$> n.asText

end TypeDesc

namespace FieldRef

def toNode (f : FieldRef) : Node :=
  .map [("owner", f.owner.toNode), ("name", .text f.name), ("type", f.type.toNode)]

def ofNode : Node → Except ListingError FieldRef :=
  Record.ofNode ["owner", "name", "type"] <|
    FieldRef.mk <$> .required "owner" TypeDesc.ofNode <*> .required "name" Node.asText
      <*> .required "type" TypeDesc.ofNode

end FieldRef

namespace MethodRef

def toNode (m : MethodRef) : Node :=
  .map [("owner", m.owner.toNode), ("name", .text m.name),
    ("params", .list (m.params.map TypeDesc.toNode)), ("ret", m.ret.toNode)]

def ofNode : Node → Except ListingError MethodRef :=
  Record.ofNode ["owner", "name", "params", "ret"] <|
    MethodRef.mk <$> .required "owner" TypeDesc.ofNode <*> .required "name" Node.asText
      <*> .defaulted "params" [] (Node.asList TypeDesc.ofNode)
      <*> .required "ret" TypeDesc.ofNode

end MethodRef

namespace Reg

def toNode (r : Reg) : Node := .integer r.index.toNat

def ofNode (n : Node) : Except ListingError Reg := Reg.mk <$> n.asUInt16

end Reg

namespace Label

def toNode (l : Label) : Node := .integer l.index.toNat

def ofNode (n : Node) : Except ListingError Label := Label.mk <$> n.asUInt32

end Label

/-- The opcode of a mnemonic. -/
def Opcode.ofNode (n : Node) : Except ListingError Opcode := do
  let mnemonic ← n.asText
  match Opcode.ofMnemonic? mnemonic with
  | some op => .ok op
  | none => .error (.instruction (.unknownMnemonic mnemonic))

namespace FlatInstruction

/-- The entry of a key that is written only if it has a value. -/
def entry {α : Type} (key : String) (write : α → Node) (value : Option α) : Entries :=
  (value.map fun a => (key, write a)).toList

/-- The keys in their usual order; an empty register list and absent payloads are left
out. -/
def toNode (f : FlatInstruction) : Node :=
  .map <|
    [("op", .text f.opcode.mnemonic)]
      ++ (if f.regs.isEmpty then [] else [("regs", .list (f.regs.map Reg.toNode))])
      ++ entry "literal" .integer f.literal ++ entry "string" .text f.string
      ++ entry "field" FieldRef.toNode f.field ++ entry "method" MethodRef.toNode f.method
      ++ entry "type" TypeDesc.toNode f.type ++ entry "target" Label.toNode f.target

def ofNode : Node → Except ListingError FlatInstruction :=
  Record.ofNode ["op", "regs", "literal", "string", "field", "method", "type", "target"] <|
    FlatInstruction.mk <$> .required "op" Opcode.ofNode
      <*> .defaulted "regs" [] (Node.asList Reg.ofNode) <*> .optional "literal" Node.asInt64
      <*> .optional "string" Node.asText <*> .optional "field" FieldRef.ofNode
      <*> .optional "method" MethodRef.ofNode <*> .optional "type" TypeDesc.ofNode
      <*> .optional "target" Label.ofNode

end FlatInstruction

namespace Instruction

/-- The listing form of an instruction. -/
def toNode (i : Instruction) : Node := i.flat.toNode

/-- Reads an instruction and checks its operands. -/
def ofNode (n : Node) : Except ListingError Instruction := do
  (← FlatInstruction.ofNode n).instruction.mapError .instruction

end Instruction

end DexPatch
