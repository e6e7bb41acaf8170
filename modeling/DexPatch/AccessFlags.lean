/-!
# Access flags

Classes, fields and methods carry a set of flags, one bit each.

## Main definitions

* `AccessFlags` — a set of flags as a machine word
* `AccessFlags.named` — the flags with a name, lowest bit first
* `AccessFlags.names` — the names of the flags that are set
-/

namespace DexPatch

/-- A set of access flags, by bit. -/
abbrev AccessFlags := UInt32

namespace AccessFlags

def isPublic : AccessFlags := 0x0001

def isStatic : AccessFlags := 0x0008

def isNative : AccessFlags := 0x0100

def isAbstract : AccessFlags := 0x0400

/-- Set on the two kinds of initialiser. -/
def isConstructor : AccessFlags := 0x10000

/-- The flags with a name. -/
def named : List (AccessFlags × String) :=
  [(isPublic, "public"), (0x0002, "private"), (0x0004, "protected"), (isStatic, "static"),
    (0x0010, "final"), (0x0020, "synchronized"), (isNative, "native"),
    (0x0200, "interface"), (isAbstract, "abstract"), (0x1000, "synthetic"),
    (isConstructor, "constructor")]

/-- Some flag of `mask` is set. -/
def HasAny (flags mask : AccessFlags) : Prop := flags &&& mask ≠ 0

instance (flags mask : AccessFlags) : Decidable (HasAny flags mask) :=
  inferInstanceAs (Decidable (_ ≠ _))

/-- The names of the flags that are set, lowest bit first. -/
def names (flags : AccessFlags) : List String :=
  (named.filter fun (bit, _) => HasAny flags bit).map Prod.snd

end AccessFlags

end DexPatch
