import DexPatch.Declaration
import DexPatch.Evidence
import DexPatch.Proofs.OperandKinds

/-!
# Signals in code

Evidence is put together one instruction after the other, and an instruction adds at most one
signal to it. Nothing is ever taken away again, so what comes out says only which signals are
shown somewhere: not where, not how often, and not in which order.

An instruction that tests a register for zero is asked for no literal. In well-formed code nothing
is missed by that, because such an instruction carries a branch target and so no literal.

## Main definitions

* `Instruction.Shows`, `MethodDecl.Shows` — what it means to show a signal, said without evidence
* `MethodDecl.signalCount` — the number of signals that a method shows

## Main results

* `Evidence.shows_ofCode_iff`, `Evidence.ofCode_congr` — evidence depends on the instructions that
  there are and on nothing else
* `MethodDecl.shows_ofCode_iff`, `MethodDecl.score_ofCode` — evidence and score of a method, by the
  signals that it shows
-/

namespace DexPatch

variable {s : Signal} {i : Instruction} {code : List Instruction} {m : MethodDecl}

/-! ### Evidence as a set -/

namespace Evidence

variable {a b : Evidence}

/-- Evidence is no more than the signals in it. -/
theorem ext_shows (same : ∀ s, a.shows s = b.shows s) : a = b := by
  have one := same .literal1
  have two := same .literal2
  have three := same .literal3
  have zero := same .zeroTest
  cases a
  cases b
  simp_all [shows]

@[simp]
theorem shows_union : (a.union b).shows s = (a.shows s || b.shows s) := by
  cases s <;> rfl

@[simp]
theorem shows_empty : empty.shows s = false := by
  cases s <;> rfl

/-- The evidence of some code has the signals of its instructions. -/
theorem shows_ofCode_iff : (ofCode code).shows s ↔ ∃ i ∈ code, (ofInstruction i).shows s := by
  induction code with
  | nil => simp [ofCode]
  | cons i rest ih => simp [ofCode_cons, ih]

/-- Code made of the same instructions has the same evidence, in whatever order and however often
they stand in it. -/
theorem ofCode_congr {other : List Instruction} (same : ∀ i, i ∈ code ↔ i ∈ other) :
    ofCode code = ofCode other := by
  apply ext_shows
  intro s
  rw [Bool.eq_iff_iff, shows_ofCode_iff, shows_ofCode_iff]
  simp only [same]

end Evidence

/-! ### Instructions -/

theorem Opcode.isZeroTest_iff {op : Opcode} : op.isZeroTest ↔ op = .ifEqz ∨ op = .ifNez := by
  cases op <;> simp [isZeroTest, has, flags]

namespace Instruction

/-- The instruction shows the signal: it carries the literal, or it branches on a register being,
or not being, zero. -/
def Shows (i : Instruction) : Signal → Prop
  | .literal1 => i.literal? = some 1
  | .literal2 => i.literal? = some 2
  | .literal3 => i.literal? = some 3
  | .zeroTest => i.opcode = .ifEqz ∨ i.opcode = .ifNez

instance (i : Instruction) (s : Signal) : Decidable (i.Shows s) :=
  match s with
  | .literal1 => inferInstanceAs (Decidable (_ = _))
  | .literal2 => inferInstanceAs (Decidable (_ = _))
  | .literal3 => inferInstanceAs (Decidable (_ = _))
  | .zeroTest => inferInstanceAs (Decidable (_ ∨ _))

/-- A zero test carries a branch target. -/
theorem IsWellFormed.literal?_of_isZeroTest (wellFormed : i.IsWellFormed)
    (zero : i.opcode.isZeroTest) : i.literal? = none := by
  have agree : i.literal?.isSome = i.opcode.has .literal := wellFormed.carries_eq_announces .literal
  have other : i.opcode.has .literal = false := by
    rcases Opcode.isZeroTest_iff.mp zero with test | test <;> rw [test] <;> rfl
  rwa [other, Option.isSome_eq_false_iff, Option.isNone_iff_eq_none] at agree

theorem IsWellFormed.shows_ofInstruction_iff (wellFormed : i.IsWellFormed) :
    (Evidence.ofInstruction i).shows s ↔ i.Shows s := by
  rw [Evidence.ofInstruction]
  by_cases zero : i.opcode.isZeroTest
  · have literal := wellFormed.literal?_of_isZeroTest zero
    have test := Opcode.isZeroTest_iff.mp zero
    rw [if_pos zero]
    cases s <;> simp [Evidence.shows, Shows, literal, test]
  · have other := mt Opcode.isZeroTest_iff.mpr zero
    rw [if_neg zero]
    -- Only the three diagnostic literals show anything.
    split <;> cases s <;> simp_all [Evidence.shows, Shows, Evidence.empty]

end Instruction

/-! ### Methods -/

namespace MethodDecl

/-- Some instruction of the method shows the signal. -/
def Shows (m : MethodDecl) (s : Signal) : Prop := ∃ i ∈ m.code, i.Shows s

instance (m : MethodDecl) (s : Signal) : Decidable (m.Shows s) :=
  inferInstanceAs (Decidable (∃ i ∈ m.code, i.Shows s))

/-- The number of signals that the method shows. -/
def signalCount (m : MethodDecl) : Nat := Signal.all.countP (m.Shows ·)

theorem shows_ofCode_iff (wellFormed : ∀ i ∈ m.code, i.IsWellFormed) :
    (Evidence.ofCode m.code).shows s ↔ m.Shows s := by
  rw [Evidence.shows_ofCode_iff, Shows]
  apply exists_congr
  intro i
  apply and_congr_right
  intro member
  exact (wellFormed i member).shows_ofInstruction_iff

theorem score_ofCode (wellFormed : ∀ i ∈ m.code, i.IsWellFormed) :
    (Evidence.ofCode m.code).score = m.signalCount := by
  rw [Evidence.score, Evidence.signals, signalCount, List.countP_eq_length_filter]
  congr 2
  ext s
  rw [Bool.eq_iff_iff, shows_ofCode_iff wellFormed, decide_eq_true_iff]

end MethodDecl

end DexPatch
