import DexPatch.TypeDesc

/-!
# Symbolic references

Instructions name fields and methods by reference: the owning class, the name and
the type. A reference identifies its member across the whole program.

## Main definitions

* `FieldRef`, `MethodRef` — the references
* `FieldRef.text`, `MethodRef.text` — their written forms, `owner->name:type` and
  `owner->name(params)ret`
-/

namespace DexPatch

/-- The identity of a field: owning class, name and type. -/
structure FieldRef where
  owner : TypeDesc
  name : String
  type : TypeDesc
deriving DecidableEq, Repr, Inhabited

/-- The identity of a method: owning class, name, parameter types and return type. -/
structure MethodRef where
  owner : TypeDesc
  name : String
  params : List TypeDesc
  ret : TypeDesc
deriving DecidableEq, Repr, Inhabited

/-- The written form `owner->name:type`. -/
def FieldRef.text (f : FieldRef) : String :=
  f.owner.text ++ "->" ++ f.name ++ ":" ++ f.type.text

namespace MethodRef

/-- The parameter types in parentheses, then the return type. -/
def descriptor (m : MethodRef) : String :=
  "(" ++ String.join (m.params.map TypeDesc.text) ++ ")" ++ m.ret.text

/-- The written form `owner->name(params)ret`. -/
def text (m : MethodRef) : String :=
  m.owner.text ++ "->" ++ m.name ++ m.descriptor

end MethodRef

end DexPatch
