import DexPatch.ConstantPool
import DexPatch.Program

/-!
# Fingerprints

A fingerprint describes a method by strings that it must load, and perhaps by its return
type. It survives renaming, which names do not.

## Main definitions

* `Fingerprint` — required strings and an optional return type
* `Fingerprint.Matches` — a method fits the fingerprint
* `Fingerprint.findAll`, `Fingerprint.find?` — the matching methods of a program
-/

namespace DexPatch

/-- Strings that a method must load, and perhaps the type it must return. -/
structure Fingerprint where
  name : String
  strings : List String
  returns : Option TypeDesc := none
deriving DecidableEq, Repr

/-- A method found in a program, with its class. -/
structure FingerprintMatch where
  method : MethodId
  owner : ClassId
  definingClass : TypeDesc
deriving DecidableEq, Repr

namespace Fingerprint

/-- The method returns the type asked for, if any, and loads every required string. -/
def Matches (f : Fingerprint) (m : MethodDecl) : Prop :=
  (∀ type ∈ f.returns, m.ret = type) ∧ (ConstantPool.ofMethod m).ContainsAll f.strings

instance (f : Fingerprint) (m : MethodDecl) : Decidable (f.Matches m) :=
  inferInstanceAs (Decidable ((∀ type ∈ f.returns, m.ret = type) ∧ _))

/-- Every matching method, in declaration order. -/
def findAll (f : Fingerprint) (p : Program) : List FingerprintMatch :=
  (p.methods.filter fun (_, m) => f.Matches m).filterMap fun (id, _) =>
    (p.class? id.owner).map fun c => ⟨id, id.owner, c.type⟩

/-- The first matching method. -/
def find? (f : Fingerprint) (p : Program) : Option FingerprintMatch := (f.findAll p).head?

end Fingerprint

end DexPatch
