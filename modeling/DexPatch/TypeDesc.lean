/-!
# Type descriptors

The types of a program are written as short descriptors: one letter for a
primitive (`Z` boolean, `I` int, `V` no value), `L…;` for a class, and a leading
`[` for an array.

## Main definitions

* `TypeDesc` — a descriptor
* `TypeDesc.IsNarrowInteger`, `TypeDesc.IsReference` — the families that the
  analyses ask for
-/

namespace DexPatch

/-- A type descriptor such as `Z`, `Lcom/example/Foo;` or `[I`. -/
structure TypeDesc where
  text : String
deriving DecidableEq, Repr, Inhabited

namespace TypeDesc

/-- The descriptor of methods without a result. -/
def void : TypeDesc := ⟨"V"⟩

def boolean : TypeDesc := ⟨"Z"⟩

def int : TypeDesc := ⟨"I"⟩

/-- The class of boxed integers. -/
def boxedInteger : TypeDesc := ⟨"Ljava/lang/Integer;"⟩

/-- The root of the class hierarchy. -/
def object : TypeDesc := ⟨"Ljava/lang/Object;"⟩

/-- `int` and the integral primitives below it: `short`, `byte` and `char`. -/
def IsNarrowInteger (t : TypeDesc) : Prop :=
  t.text = "I" ∨ t.text = "S" ∨ t.text = "B" ∨ t.text = "C"

instance (t : TypeDesc) : Decidable t.IsNarrowInteger :=
  inferInstanceAs (Decidable (_ ∨ _ ∨ _ ∨ _))

/-- Classes and arrays. -/
def IsReference (t : TypeDesc) : Prop :=
  t.text.toList.head? = some 'L' ∨ t.text.toList.head? = some '['

instance (t : TypeDesc) : Decidable t.IsReference :=
  inferInstanceAs (Decidable (_ ∨ _))

end TypeDesc

end DexPatch
