import DexPatch.Listing.Instruction
import DexPatch.Program

/-!
# Programs in listings

## Main definitions

* `Body.toNode`, `MethodDecl.toNode`, `ClassDecl.toNode`, `Program.toNode` — the listing
  forms
* `Body.ofNode`, `MethodDecl.ofNode`, `ClassDecl.ofNode`, `Program.ofNode` — their
  readings; that of a program ends with its structural checks
* `LoadError` — why a listing is no program
-/

namespace DexPatch

namespace Body

def toNode (b : Body) : Node :=
  .map [("registers", .integer b.registers.toNat), ("ins", .integer b.ins.toNat),
    ("instructions", .list (b.instructions.map Instruction.toNode))]

def ofNode : Node → Except ListingError Body :=
  Record.ofNode ["registers", "ins", "instructions"] <|
    Body.mk <$> .required "registers" Node.asUInt16 <*> .defaulted "ins" 0 Node.asUInt16
      <*> .required "instructions" (Node.asList Instruction.ofNode)

end Body

namespace FieldDecl

def toNode (f : FieldDecl) : Node :=
  .map [("name", .text f.name), ("type", f.type.toNode),
    ("access_flags", .integer f.accessFlags.toNat)]

def ofNode : Node → Except ListingError FieldDecl :=
  Record.ofNode ["name", "type", "access_flags"] <|
    FieldDecl.mk <$> .required "name" Node.asText <*> .required "type" TypeDesc.ofNode
      <*> .defaulted "access_flags" 0 Node.asUInt32

end FieldDecl

namespace MethodDecl

def toNode (m : MethodDecl) : Node :=
  .map <|
    [("name", .text m.name), ("params", .list (m.params.map TypeDesc.toNode)),
      ("ret", m.ret.toNode), ("access_flags", .integer m.accessFlags.toNat)]
      ++ FlatInstruction.entry "body" Body.toNode m.body

def ofNode : Node → Except ListingError MethodDecl :=
  Record.ofNode ["name", "params", "ret", "access_flags", "body"] <|
    MethodDecl.mk <$> .required "name" Node.asText
      <*> .defaulted "params" [] (Node.asList TypeDesc.ofNode)
      <*> .required "ret" TypeDesc.ofNode <*> .defaulted "access_flags" 0 Node.asUInt32
      <*> .optional "body" Body.ofNode

end MethodDecl

namespace ClassDecl

def toNode (c : ClassDecl) : Node :=
  .map <|
    [("type", c.type.toNode)]
      ++ FlatInstruction.entry "super_class" TypeDesc.toNode c.superClass
      ++ [("access_flags", .integer c.accessFlags.toNat),
        ("fields", .list (c.fields.map FieldDecl.toNode)),
        ("methods", .list (c.methods.map MethodDecl.toNode))]

def ofNode : Node → Except ListingError ClassDecl :=
  Record.ofNode ["type", "super_class", "access_flags", "fields", "methods"] <|
    ClassDecl.mk <$> .required "type" TypeDesc.ofNode
      <*> .optional "super_class" TypeDesc.ofNode <*> .defaulted "access_flags" 0 Node.asUInt32
      <*> .defaulted "fields" [] (Node.asList FieldDecl.ofNode)
      <*> .defaulted "methods" [] (Node.asList MethodDecl.ofNode)

end ClassDecl

/-- Why a listing is no program: it does not read, or the program fails its checks. -/
inductive LoadError
  | listing (cause : ListingError)
  | program (cause : ProgramError)
deriving DecidableEq, Repr

namespace Program

def toNode (p : Program) : Node :=
  .map <|
    FlatInstruction.entry "package" .text p.package
      ++ [("classes", .list (p.classes.map ClassDecl.toNode))]

/-- The parts of a program, before any structural check. -/
def partsOfNode : Node → Except ListingError (Option String × List ClassDecl) :=
  Record.ofNode ["package", "classes"] <|
    Prod.mk <$> .optional "package" Node.asText
      <*> .defaulted "classes" [] (Node.asList ClassDecl.ofNode)

/-- Reads a program and checks its structure. -/
def ofNode (n : Node) : Except LoadError Program :=
  match partsOfNode n with
  | .error cause => .error (.listing cause)
  | .ok (package, classes) => (ofClasses package classes).mapError .program

end Program

end DexPatch
