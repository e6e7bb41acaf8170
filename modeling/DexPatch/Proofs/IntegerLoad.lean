import DexPatch.ConstantPool
import DexPatch.Evidence
import DexPatch.Instruction.Make
import DexPatch.Proofs.WellFormed

/-!
# Integer loads

Edits write integer loads only. A load can be made for every register of eight bits and
every value; it names that register alone, and no search mistakes it for a field read, a
string or a zero test.

## Main results

* `Instruction.constOpcode_eq` — the bounds for a load against the widths in its check
* `Instruction.isWellFormed_constInt` — a register of eight bits can be loaded with any value
* `Body.Admits.constInt` — a load fits a body that has the register
-/

namespace DexPatch

namespace Instruction

variable {dst : Reg} {value : Int32}

/-- What a width can hold, by its least and its greatest value. -/
theorem literalFits_iff {bits : Nat} {value least greatest : Int}
    (low : -Int.ofNat (1 <<< (bits - 1)) = least)
    (high : Int.ofNat (1 <<< (bits - 1)) = greatest + 1) :
    LiteralFits bits value ↔ least ≤ value ∧ value ≤ greatest := by
  rw [LiteralFits, low, high, Int.lt_add_one_iff]

/-- A load is made with bounds of its own, but they are those of the widths in its check. -/
theorem constOpcode_eq (dst : Reg) (value : Int) :
    constOpcode dst value =
      if dst.index < 16 ∧ LiteralFits 4 value then .const4
      else if LiteralFits 16 value then .const16
      else .const32 := by
  have nibble : LiteralFits 4 value ↔ -8 ≤ value ∧ value ≤ 7 := literalFits_iff rfl rfl
  have half : LiteralFits 16 value ↔
      Int16.minValue.toInt ≤ value ∧ value ≤ Int16.maxValue.toInt := literalFits_iff rfl rfl
  simp only [constOpcode, nibble, half]

theorem constOpcode_cases (dst : Reg) (value : Int) :
    constOpcode dst value = .const4 ∧ dst.index.toNat < 16 ∧ LiteralFits 4 value ∨
      constOpcode dst value = .const16 ∧ LiteralFits 16 value ∨
      constOpcode dst value = .const32 := by
  rw [constOpcode_eq]
  split
  · rename_i h
    exact .inl ⟨rfl, UInt16.lt_iff_toNat_lt.mp h.1, h.2⟩
  · split
    · rename_i h
      exact .inr (.inl ⟨rfl, h⟩)
    · exact .inr (.inr rfl)

/-- What an opcode with one register and a literal can load, and into which registers. -/
theorem isWellFormed_load_iff {op : Opcode} {regBits bits : Nat} {value : Int}
    (format : op.format = ⟨.exactly 1, regBits, .literal bits⟩) :
    (⟨op, [dst], .literal value⟩ : Instruction).IsWellFormed ↔
      dst.index.toNat < 1 <<< regBits ∧ LiteralFits bits value := by
  constructor
  · rintro ⟨_, width, payload⟩
    simp only [format] at width payload
    exact ⟨width dst List.mem_cons_self, payload⟩
  · rintro ⟨narrow, fits⟩
    refine ⟨?_, ?_, ?_⟩ <;> simp only [format]
    · rfl
    · exact List.forall_mem_singleton.mpr narrow
    · exact fits

theorem literalFits_toInt (value : Int32) : LiteralFits 32 value.toInt :=
  ⟨value.le_toInt, value.toInt_lt⟩

/-- A register of eight bits can be loaded with any value. -/
theorem isWellFormed_constInt (narrow : dst.index.toNat < 256) (value : Int32) :
    (constInt dst value).IsWellFormed := by
  rw [constInt]
  rcases constOpcode_cases dst value.toInt with ⟨op, small, fits⟩ | ⟨op, fits⟩ | op <;> rw [op]
  · exact (isWellFormed_load_iff rfl).mpr ⟨small, fits⟩
  · exact (isWellFormed_load_iff rfl).mpr ⟨narrow, fits⟩
  · exact (isWellFormed_load_iff rfl).mpr ⟨narrow, literalFits_toInt value⟩

@[simp]
theorem regs_constInt : (constInt dst value).regs = [dst] := rfl

@[simp]
theorem literal?_constInt : (constInt dst value).literal? = some value.toInt := rfl

@[simp]
theorem target?_constInt : (constInt dst value).target? = none := rfl

@[simp]
theorem fieldRead?_constInt : (constInt dst value).fieldRead? = none := by
  unfold fieldRead?
  split <;> rfl

@[simp]
theorem loadedString?_constInt : (constInt dst value).loadedString? = none := by
  unfold loadedString?
  split <;> rfl

@[simp]
theorem isZeroTest_constInt : (constInt dst value).opcode.isZeroTest = false := by
  change (constOpcode dst value.toInt).isZeroTest = false
  rcases constOpcode_cases dst value.toInt with ⟨op, _⟩ | ⟨op, _⟩ | op <;> rw [op] <;> rfl

theorem not_reads_constInt (f : FieldRef) : ¬ (constInt dst value).Reads f := by
  simp [Reads]

end Instruction

/-- A load fits a body that has the register, if eight bits name it. -/
theorem Body.Admits.constInt {b : Body} {dst : Reg} (inFrame : dst.index < b.registers)
    (narrow : dst.index.toNat < 256) (value : Int32) : b.Admits (.constInt dst value) where
  operands := Instruction.isWellFormed_constInt narrow value
  registers := by simpa using inFrame
  target := by simp

end DexPatch
