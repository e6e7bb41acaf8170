import DexPatch.Program

/-!
# Disassembly

## Main definitions

* `ClassDecl.disassembly` — the listing of a class: its head, its fields, its methods
* `Program.summary` — the size of a program
-/

namespace DexPatch

/-- The names of the flags that are set, or their number if none has a name. -/
def AccessFlags.text (flags : AccessFlags) : String :=
  if (names flags).isEmpty then Text.hex flags.toNat
  else String.intercalate " " (names flags)

/-- A number filled up with zeros to a width. -/
def padNumber (width n : Nat) : String :=
  let digits := toString n
  String.ofList (List.replicate (width - digits.length) '0') ++ digits

/-- The lines of a body: the frame, then the instructions with their positions. -/
def Body.disassembly (b : Body) : List String :=
  ("    .registers " ++ toString b.registers.toNat ++ " # ins: " ++ toString b.ins.toNat)
    :: b.instructions.mapIdx fun position i =>
      "    " ++ padNumber 4 position ++ "  " ++ i.text

/-- The lines of a method of a class. -/
def MethodDecl.disassembly (owner : TypeDesc) (m : MethodDecl) : List String :=
  let head :=
    ".method " ++ m.accessFlags.text ++ " " ++ m.name ++ (m.ref owner).descriptor
  let code :=
    match m.body with
    | none => ["    # (no code - native or abstract)"]
    | some body => body.disassembly
  head :: code ++ [".end method", ""]

def FieldDecl.disassembly (f : FieldDecl) : String :=
  ".field " ++ f.accessFlags.text ++ " " ++ f.name ++ ":" ++ f.type.text

/-- The lines of a class. -/
def ClassDecl.disassembly (c : ClassDecl) : List String :=
  [".class " ++ c.accessFlags.text ++ " " ++ c.type.text]
    ++ (c.superClass.map fun s => ".super " ++ s.text).toList
    ++ c.fields.map FieldDecl.disassembly ++ [""]
    ++ c.methods.flatMap (MethodDecl.disassembly c.type)

namespace Program

/-- The lines of the summary: the package and the size of the program. -/
def summary (p : Program) : List String :=
  let methods := p.methods.map Prod.snd
  let withoutBody := methods.countP fun m => m.body.isNone
  let fields := (p.classes.flatMap ClassDecl.fields).length
  let instructions := (methods.flatMap MethodDecl.code).length
  ["=== Model Info ===",
    "Package:          " ++ p.package.getD "(unknown)",
    "Classes:          " ++ toString p.classes.length,
    "Fields:           " ++ toString fields,
    "Methods:          " ++ toString methods.length ++ " (" ++ toString withoutBody
      ++ " without body)",
    "Instructions:     " ++ toString instructions]

end Program

end DexPatch
