import DexPatch.AccessFlags
import DexPatch.Body
import DexPatch.ReturnValue

/-!
# Declarations

A class declares fields and methods. A declaration becomes a reference once its owner
is known.

## Main definitions

* `FieldDecl`, `MethodDecl`, `ClassDecl` — the declarations
* `FieldDecl.ref`, `MethodDecl.ref` — the references of members
* `MethodDecl.code` — the instructions, none without a body
* `MethodDecl.ReadsField` — some instruction reads a field
-/

namespace DexPatch

/-- A field of a class. -/
structure FieldDecl where
  name : String
  type : TypeDesc
  accessFlags : AccessFlags := 0
deriving DecidableEq, Repr

namespace FieldDecl

/-- The identity of the field as declared by `owner`. -/
def ref (f : FieldDecl) (owner : TypeDesc) : FieldRef := ⟨owner, f.name, f.type⟩

def IsStatic (f : FieldDecl) : Prop := f.accessFlags.HasAny .isStatic

instance (f : FieldDecl) : Decidable f.IsStatic :=
  inferInstanceAs (Decidable (AccessFlags.HasAny _ _))

end FieldDecl

/-- A method of a class. Abstract and native methods have no body. -/
structure MethodDecl where
  name : String
  params : List TypeDesc := []
  ret : TypeDesc
  accessFlags : AccessFlags := 0
  body : Option Body := none
deriving DecidableEq, Repr

namespace MethodDecl

/-- The identity of the method as declared by `owner`. -/
def ref (m : MethodDecl) (owner : TypeDesc) : MethodRef := ⟨owner, m.name, m.params, m.ret⟩

def returnKind (m : MethodDecl) : ReturnKind := .ofType m.ret

/-- The instructions, none without a body. -/
def code (m : MethodDecl) : List Instruction :=
  match m.body with
  | some body => body.instructions
  | none => []

def IsStatic (m : MethodDecl) : Prop := m.accessFlags.HasAny .isStatic

instance (m : MethodDecl) : Decidable m.IsStatic :=
  inferInstanceAs (Decidable (AccessFlags.HasAny _ _))

/-- Declared without code of its own. -/
def IsAbstractOrNative (m : MethodDecl) : Prop :=
  m.accessFlags.HasAny (.isAbstract ||| .isNative)

instance (m : MethodDecl) : Decidable m.IsAbstractOrNative :=
  inferInstanceAs (Decidable (AccessFlags.HasAny _ _))

/-- The names of the initialisers of objects and of classes. -/
def initialiserNames : List String := ["<init>", "<clinit>"]

/-- Initialises an object or a class. -/
def IsConstructor (m : MethodDecl) : Prop := m.name ∈ initialiserNames

instance (m : MethodDecl) : Decidable m.IsConstructor :=
  inferInstanceAs (Decidable (_ ∈ _))

/-- Some instruction reads the field `f`. -/
def ReadsField (m : MethodDecl) (f : FieldRef) : Prop := ∃ i ∈ m.code, i.Reads f

instance (m : MethodDecl) (f : FieldRef) : Decidable (m.ReadsField f) :=
  inferInstanceAs (Decidable (∃ i ∈ m.code, i.Reads f))

end MethodDecl

/-- A class with its members in order. -/
structure ClassDecl where
  type : TypeDesc
  superClass : Option TypeDesc := none
  accessFlags : AccessFlags := 0
  fields : List FieldDecl := []
  methods : List MethodDecl := []
deriving DecidableEq, Repr

namespace ClassDecl

/-- The identities of the declared fields, in order. -/
def fieldRefs (c : ClassDecl) : List FieldRef := c.fields.map (·.ref c.type)

/-- The first field of a given name. -/
def field? (c : ClassDecl) (name : String) : Option FieldDecl :=
  c.fields.find? (·.name == name)

/-- The first method of a given name. -/
def method? (c : ClassDecl) (name : String) : Option MethodDecl :=
  c.methods.find? (·.name == name)

end ClassDecl

end DexPatch
