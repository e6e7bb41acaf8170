import DexPatch.Instruction.Flat
import DexPatch.Proofs.FirstDefect

/-!
# Records and instructions

A record has six entries for a payload, and an instruction has one payload at most. A record with
two of the entries or more is refused for that alone, whatever else is wrong with it. Any other
record is the flat form of an instruction, and it is refused for the first defect of this
instruction if there is one. So reading undoes writing and writing undoes reading: nothing is read
that would not be written again just as it was.

## Main definitions

* `FlatInstruction.entryCount` — how many entries for a payload a record has

## Main results

* `FlatInstruction.exists_flat_eq_iff` — which records are flat forms
* `FlatInstruction.instruction_flat_eq` — what is read from the flat form of an instruction
* `FlatInstruction.instruction_inverts_flat` — which records are read, why the others are not, and
  the two inverse laws
-/

namespace DexPatch

namespace Instruction

variable {i j : Instruction} {e : InstructionError}

/-- The parts of an instruction make this instruction if it passes its check. -/
theorem ofParts_eq_ok_iff :
    ofParts i.opcode i.regs i.payload = .ok j ↔ i = j ∧ i.check = .ok () := by
  rw [ofParts]
  cases i.check <;> simp

/-- Parts are refused for the first defect of the instruction that they make. -/
theorem ofParts_eq_error_iff :
    ofParts i.opcode i.regs i.payload = .error e ↔ i.defects.head? = some e := by
  rw [ofParts, ← firstDefect_eq_error_iff, ← check_eq]
  cases i.check <;> simp

end Instruction

namespace FlatInstruction

open Instruction

variable {f : FlatInstruction} {i : Instruction} {e : InstructionError}

/-- How many of the entries for a payload are present. -/
def entryCount (f : FlatInstruction) : Nat :=
  [f.literal.isSome, f.string.isSome, f.field.isSome, f.method.isSome, f.type.isSome,
    f.target.isSome].count true

theorem length_payloads (f : FlatInstruction) : f.payloads.length = f.entryCount := by
  have entry {α : Type} (value : Option α) (g : α → Payload) :
      (value.map g).toList.length = [value.isSome].count true := by
    cases value <;> rfl
  simp only [payloads, List.length_append, entry, ← List.count_append]
  rfl

/-- The flat forms of instructions are the records with one entry at most. -/
theorem exists_flat_eq_iff : (∃ i : Instruction, i.flat = f) ↔ f.entryCount ≤ 1 := by
  constructor
  · rintro ⟨⟨op, regs, payload⟩, rfl⟩
    cases payload <;> simp [entryCount, flat]
  · intro few
    refine ⟨⟨f.opcode, f.regs, f.payloads.headD .empty⟩, ?_⟩
    obtain ⟨op, regs, literal, string, field, method, type, target⟩ := f
    -- All combinations of entries are more than one, but for the seven that are flat forms.
    cases literal <;> cases string <;> cases field <;> cases method <;> cases type <;>
      cases target <;>
        first
        | rfl
        | simp [entryCount] at few

/-- A flat form is read as the parts of the instruction. -/
theorem instruction_flat_eq (i : Instruction) :
    i.flat.instruction = ofParts i.opcode i.regs i.payload := by
  obtain ⟨op, regs, payload⟩ := i
  cases payload <;> rfl

/-- The flat form of an instruction stands for the instruction. -/
theorem instruction_flat (accepted : i.check = .ok ()) : i.flat.instruction = .ok i := by
  rw [instruction_flat_eq]
  exact ofParts_eq_ok_iff.mpr ⟨rfl, accepted⟩

theorem instruction_of_two_le_entryCount (many : 2 ≤ f.entryCount) :
    f.instruction = .error (.conflictingPayload f.opcode) := by
  rw [← length_payloads] at many
  rw [instruction]
  match f.payloads, many with
  | _ :: _ :: _, _ => rfl

/-- A record is a flat form, or it is refused for its entries. -/
theorem flat_or_conflicting (f : FlatInstruction) :
    (f.entryCount ≤ 1 ∧ ∃ i : Instruction, i.flat = f) ∨
      2 ≤ f.entryCount ∧ f.instruction = .error (.conflictingPayload f.opcode) := by
  rcases Nat.lt_or_ge 1 f.entryCount with many | few
  · exact .inr ⟨many, instruction_of_two_le_entryCount many⟩
  · exact .inl ⟨few, exists_flat_eq_iff.mpr few⟩

theorem instruction_eq_ok_iff : f.instruction = .ok i ↔ i.flat = f ∧ i.check = .ok () := by
  constructor
  · intro read
    rcases flat_or_conflicting f with ⟨_, j, rfl⟩ | ⟨_, conflict⟩
    · rw [instruction_flat_eq] at read
      obtain ⟨rfl, accepted⟩ := ofParts_eq_ok_iff.mp read
      exact ⟨rfl, accepted⟩
    · rw [conflict] at read
      contradiction
  · rintro ⟨rfl, accepted⟩
    exact instruction_flat accepted

/-- Two entries count for more than any other defect. -/
theorem instruction_eq_error_iff :
    f.instruction = .error e ↔
      2 ≤ f.entryCount ∧ e = .conflictingPayload f.opcode ∨
        f.entryCount ≤ 1 ∧ ∃ i : Instruction, i.flat = f ∧ i.defects.head? = some e := by
  have ofFlat (i : Instruction) : i.flat.instruction = .error e ↔ i.defects.head? = some e := by
    rw [instruction_flat_eq, ofParts_eq_error_iff]
  constructor
  · intro refused
    rcases flat_or_conflicting f with ⟨few, i, rfl⟩ | ⟨many, conflict⟩
    · exact .inr ⟨few, i, rfl, (ofFlat i).mp refused⟩
    · rw [conflict] at refused
      exact .inl ⟨many, (Except.error.inj refused).symm⟩
  · rintro (⟨many, rfl⟩ | ⟨_, i, rfl, defect⟩)
    · exact instruction_of_two_le_entryCount many
    · exact (ofFlat i).mpr defect

/-- A record is read if it has one entry for a payload at most and its operands pass the check.
Two entries are a conflict whatever else is wrong, and otherwise the first defect of the operands is
reported. What is read from a record is written as this record, and what is written of an
instruction that passes the check is read as this instruction. -/
theorem instruction_inverts_flat :
    (∀ f : FlatInstruction, (∃ i, f.instruction = .ok i) ↔
        f.entryCount ≤ 1 ∧ ∃ i : Instruction, i.flat = f ∧ i.check = .ok ()) ∧
      (∀ (f : FlatInstruction) (e : InstructionError), f.instruction = .error e ↔
        2 ≤ f.entryCount ∧ e = .conflictingPayload f.opcode ∨
          f.entryCount ≤ 1 ∧ ∃ i : Instruction, i.flat = f ∧ i.defects.head? = some e) ∧
      (∀ (f : FlatInstruction) (i : Instruction), f.instruction = .ok i → i.flat = f) ∧
      ∀ i : Instruction, i.check = .ok () → i.flat.instruction = .ok i := by
  refine ⟨fun f => ?_, fun f e => instruction_eq_error_iff, fun f i read => ?_,
    fun i accepted => ?_⟩
  · simp only [instruction_eq_ok_iff]
    refine ⟨?_, And.right⟩
    rintro ⟨i, written, accepted⟩
    exact ⟨exists_flat_eq_iff.mp ⟨i, written⟩, i, written, accepted⟩
  · exact (instruction_eq_ok_iff.mp read).1
  · exact instruction_flat accepted

/-- A load that is written and read again, one that is refused for its register before its literal,
and a record with two entries that names neither a register nor a value that would fit. -/
theorem instruction_inverts_flat_narrow_load :
    let load : Instruction := ⟨.const4, [⟨3⟩], .literal (-8)⟩
    let wide : FlatInstruction := { opcode := .const4, regs := [⟨16⟩], literal := some 8 }
    let torn : FlatInstruction := { opcode := .const4, literal := some 8, string := some "x" }
    load.flat.instruction = .ok load ∧
      wide.instruction = .error (.registerWidth .const4 ⟨16⟩ 4) ∧
      torn.instruction = .error (.conflictingPayload .const4) := by
  obtain ⟨-, refused, -, written⟩ := instruction_inverts_flat
  refine ⟨written _ (by decide), (refused _ _).mpr (.inr ?_), (refused _ _).mpr (.inl ?_)⟩
  · exact ⟨by decide, ⟨.const4, [⟨16⟩], .literal 8⟩, rfl, by decide⟩
  · exact ⟨by decide, rfl⟩

end FlatInstruction

end DexPatch
