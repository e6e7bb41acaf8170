import DexPatch.Declaration

/-!
# Programs

A program is a list of classes, with the name of the application package if that is
known. Methods are named by position: the class and the index within it.

## Main definitions

* `Program` — a package name and classes
* `ClassId`, `MethodId` — positions
* `Program.methods` — every method with its position, in declaration order
* `Program.check` — the structural checks: class types, field identities, bodies
* `Program.ofClasses` — a program, refused unless it passes the checks
* `ProgramError.message` — the wording of the defects
-/

namespace DexPatch

/-- The position of a class in a program. -/
structure ClassId where
  index : Nat
deriving DecidableEq, Repr

def ClassId.text (id : ClassId) : String := "class#" ++ toString id.index

/-- The position of a method: its class and the index within it. -/
structure MethodId where
  owner : ClassId
  index : Nat
deriving DecidableEq, Repr

def MethodId.text (id : MethodId) : String :=
  id.owner.text ++ "/method#" ++ toString id.index

/-- What is wrong with a program, or with a change asked of it. -/
inductive ProgramError
  | unknownMethod (id : MethodId)
  | duplicateClass (type : TypeDesc)
  | duplicateField (field : FieldRef)
  | missingBody (method : MethodRef)
  | positionOutOfBounds (method : MethodRef) (position length : Nat)
  | invalidBody (method : MethodRef) (cause : BodyError)
deriving DecidableEq, Repr

def ProgramError.message : ProgramError → String
  | unknownMethod id => "no method with id " ++ id.text
  | duplicateClass type => "class " ++ type.text ++ " is defined more than once"
  | duplicateField field => "field " ++ field.text ++ " is declared more than once"
  | missingBody method => method.text ++ " has no body"
  | positionOutOfBounds method position length =>
    "position " ++ toString position ++ " is out of bounds in " ++ method.text ++ " ("
      ++ toString length ++ " instructions)"
  | invalidBody method cause => "malformed body in " ++ method.text ++ ": " ++ cause.message

/-- An application: its package, if known, and its classes. -/
structure Program where
  package : Option String := none
  classes : List ClassDecl
deriving DecidableEq, Repr

namespace Program

/-! ### Looking up -/

def class? (p : Program) (id : ClassId) : Option ClassDecl := p.classes[id.index]?

/-- The positions of the classes, in order. -/
def classIds (p : Program) : List ClassId := (List.range p.classes.length).map ClassId.mk

/-- The first class of a given type, with its position. -/
def classByType? (p : Program) (type : TypeDesc) : Option (ClassId × ClassDecl) :=
  (p.classes.findIdx? (·.type == type)).bind fun index =>
    (p.class? ⟨index⟩).map fun c => (⟨index⟩, c)

/-- A method together with the type of its class. -/
def locate? (p : Program) (id : MethodId) : Option (TypeDesc × MethodDecl) :=
  (p.class? id.owner).bind fun c => c.methods[id.index]?.map fun m => (c.type, m)

def method? (p : Program) (id : MethodId) : Option MethodDecl :=
  (p.locate? id).map Prod.snd

/-- The reference of the method at a position. -/
def methodRef? (p : Program) (id : MethodId) : Option MethodRef :=
  (p.locate? id).map fun (owner, m) => m.ref owner

/-- The methods of one class with their positions, in order. -/
def classMethods (p : Program) (id : ClassId) : List (MethodId × MethodDecl) :=
  match p.class? id with
  | none => []
  | some c => c.methods.mapIdx fun index m => (⟨id, index⟩, m)

/-- Every method with its position: classes in order, methods in order within. -/
def methods (p : Program) : List (MethodId × MethodDecl) :=
  p.classIds.flatMap p.classMethods

/-! ### Structural checks -/

/-- No two fields agree in name and type; `seen` are the fields before. -/
def checkFields (owner : TypeDesc) (seen : List (String × TypeDesc)) :
    List FieldDecl → Except ProgramError Unit
  | [] => .ok ()
  | f :: rest =>
    if (f.name, f.type) ∈ seen then .error (.duplicateField (f.ref owner))
    else checkFields owner ((f.name, f.type) :: seen) rest

/-- The bodies of the methods, first defect first. -/
def checkBodies (owner : TypeDesc) : List MethodDecl → Except ProgramError Unit
  | [] => .ok ()
  | m :: rest =>
    match m.body with
    | none => checkBodies owner rest
    | some body =>
      match body.check with
      | .error cause => .error (.invalidBody (m.ref owner) cause)
      | .ok () => checkBodies owner rest

/-- The classes in order, each with its type against the types `seen` before, its fields
and its bodies. -/
def checkClasses (seen : List TypeDesc) : List ClassDecl → Except ProgramError Unit
  | [] => .ok ()
  | c :: rest =>
    if c.type ∈ seen then .error (.duplicateClass c.type)
    else
      match checkFields c.type [] c.fields with
      | .error e => .error e
      | .ok () =>
        match checkBodies c.type c.methods with
        | .error e => .error e
        | .ok () => checkClasses (c.type :: seen) rest

/-- The first defect of a program. -/
def check (p : Program) : Except ProgramError Unit := checkClasses [] p.classes

/-- A program from its parts, refused unless it passes the structural checks. -/
def ofClasses (package : Option String) (classes : List ClassDecl) :
    Except ProgramError Program :=
  let p : Program := ⟨package, classes⟩
  match p.check with
  | .error e => .error e
  | .ok () => .ok p

end Program

end DexPatch
