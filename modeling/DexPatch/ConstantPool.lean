import DexPatch.Declaration

/-!
# Constant pools

The pool of a method is the set of strings that its instructions load; the pool of a
class is the union over its methods.

## Main definitions

* `ConstantPool` — a set of strings, kept in ascending order without repetitions
* `ConstantPool.ofMethod`, `ConstantPool.ofClass` — the pools
* `ConstantPool.ContainsAll` — a pool holds all strings of a list

## Main results

* `ConstantPool.mem_ofStrings` — the pool of some strings holds exactly these
-/

namespace DexPatch

/-- The string constant that an instruction loads, as its opcode's flag tells. -/
def Instruction.loadedString? (i : Instruction) : Option String :=
  if i.opcode.has .string then i.string? else none

/-- A set of strings in ascending order. -/
structure ConstantPool where
  strings : List String
deriving DecidableEq, Repr

namespace ConstantPool

/-- Puts a string at its place in an ascending list, unless it is there already. -/
def insertAscending (s : String) : List String → List String
  | [] => [s]
  | t :: rest =>
    if s < t then s :: t :: rest
    else if s = t then t :: rest
    else t :: insertAscending s rest

/-- The set of some strings. -/
def ofStrings (strings : List String) : ConstantPool :=
  ⟨strings.foldr insertAscending []⟩

/-- The strings that a method loads. -/
def ofMethod (m : MethodDecl) : ConstantPool :=
  ofStrings (m.code.filterMap Instruction.loadedString?)

/-- The strings that some method of a class loads. -/
def ofClass (c : ClassDecl) : ConstantPool :=
  ofStrings (c.methods.flatMap fun m => m.code.filterMap Instruction.loadedString?)

instance : Membership String ConstantPool where
  mem pool s := s ∈ pool.strings

instance (s : String) (pool : ConstantPool) : Decidable (s ∈ pool) :=
  inferInstanceAs (Decidable (s ∈ pool.strings))

/-- The pool holds every one of the required strings. -/
def ContainsAll (pool : ConstantPool) (required : List String) : Prop :=
  ∀ s ∈ required, s ∈ pool

instance (pool : ConstantPool) (required : List String) :
    Decidable (pool.ContainsAll required) :=
  inferInstanceAs (Decidable (∀ s ∈ required, s ∈ pool))

def size (pool : ConstantPool) : Nat := pool.strings.length

theorem mem_insertAscending {s t : String} {strings : List String} :
    t ∈ insertAscending s strings ↔ t = s ∨ t ∈ strings := by
  induction strings with
  | nil => simp [insertAscending]
  | cons u rest ih =>
    unfold insertAscending
    split
    · simp
    · split
      · rename_i same
        simp [same]
      · simp only [List.mem_cons, ih]
        constructor
        · rintro (h | h | h) <;> simp [h]
        · rintro (h | h | h) <;> simp [h]

/-- The pool of some strings holds exactly these. -/
@[simp]
theorem mem_ofStrings {s : String} {strings : List String} :
    s ∈ ofStrings strings ↔ s ∈ strings := by
  change s ∈ strings.foldr insertAscending [] ↔ s ∈ strings
  induction strings with
  | nil => simp
  | cons t rest ih => simp [mem_insertAscending, ih]

end ConstantPool

end DexPatch
