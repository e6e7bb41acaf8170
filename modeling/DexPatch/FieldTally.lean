import DexPatch.Declaration
import DexPatch.Evidence

/-!
# Field tallies

A tally adds up scores per field and remembers in which order the fields came. The field
with the greatest total wins; of several, the one that came first.

## Main definitions

* `FieldTally` — fields with their totals, in order of arrival
* `FieldTally.add`, `FieldTally.get`, `FieldTally.winner?` — its operations
* `FieldTally.ofClass` — the integer fields of a class, each read of a field weighted by
  the evidence in the reading method
-/

namespace DexPatch

/-- Fields with their totals, in order of arrival. -/
structure FieldTally where
  entries : List (FieldRef × Nat)
deriving DecidableEq, Repr

namespace FieldTally

def empty : FieldTally := ⟨[]⟩

/-- Adds to the entry of a field; a new field comes last. -/
def addEntry (f : FieldRef) (score : Nat) : List (FieldRef × Nat) → List (FieldRef × Nat)
  | [] => [(f, score)]
  | (g, total) :: rest =>
    if g = f then (g, total + score) :: rest else (g, total) :: addEntry f score rest

/-- Adds a score to the total of a field. -/
def add (t : FieldTally) (f : FieldRef) (score : Nat) : FieldTally :=
  ⟨addEntry f score t.entries⟩

/-- The total of a field, zero for a field that never came. -/
def get (t : FieldTally) (f : FieldRef) : Nat :=
  ((t.entries.find? fun (g, _) => g = f).map Prod.snd).getD 0

/-- The number of fields. -/
def size (t : FieldTally) : Nat := t.entries.length

/-- The better of a best entry so far and a later one, which must beat it. -/
def better (best : Option (FieldRef × Nat)) (entry : FieldRef × Nat) :
    Option (FieldRef × Nat) :=
  match best with
  | none => some entry
  | some b => if b.2 < entry.2 then some entry else some b

/-- The field with the greatest total, the earliest of several. -/
def winner? (t : FieldTally) : Option FieldRef :=
  (t.entries.foldl better none).map Prod.fst

/-- A field of the class `owner` that can hold a number. -/
def IsCandidate (owner : TypeDesc) (f : FieldRef) : Prop :=
  f.owner = owner ∧ (f.type.IsNarrowInteger ∨ f.type = .boxedInteger)

instance (owner : TypeDesc) (f : FieldRef) : Decidable (IsCandidate owner f) :=
  inferInstanceAs (Decidable (_ ∧ (_ ∨ _)))

/-- The candidate fields that a method reads, in order and with repetitions. -/
def candidateReads (owner : TypeDesc) (m : MethodDecl) : List FieldRef :=
  (m.code.filterMap Instruction.fieldRead?).filter (IsCandidate owner)

/-- Adds the reads of one method, each with the method's score. A method without
evidence adds nothing. -/
def addMethod (owner : TypeDesc) (t : FieldTally) (m : MethodDecl) : FieldTally :=
  let score := (Evidence.ofCode m.code).score
  if score = 0 then t else (candidateReads owner m).foldl (fun t f => t.add f score) t

/-- The tally over the methods of a class, in order. -/
def ofClass (c : ClassDecl) : FieldTally := c.methods.foldl (addMethod c.type) empty

end FieldTally

end DexPatch
