import DexPatch.Proofs.FlatForm
import DexPatch.Proofs.Substitution

/-!
# The narrowest load

Three opcodes load an integer, and each has its own width for the register and for the value. A load
is made by comparing register and value with bounds, without a look at these widths. It is the first
of the three that takes both, and if none of them does then it is the register that is too wide.
So a load of zero can be made for whatever a field read writes.

## Main definitions

* `Opcode.canLoad` — an opcode takes a register and a value
* `Opcode.narrowestLoad?` — the first of the three that does

## Main results

* `Opcode.canLoad_iff_of_format` — what an opcode takes, in terms of its widths
* `Opcode.narrowestLoad?_eq` — the load that is made is the narrowest
* `Opcode.exists_canLoad_iff` — some load is possible exactly if eight bits name the register
* `Instruction.constInt_narrowest` — the load that is made, and the load of zero in place of a read
-/

namespace DexPatch

/-- The loads of integers, narrowest first. -/
def Opcode.integerLoads : List Opcode := [.const4, .const16, .const32]

/-- Opcode, register and value make an instruction. -/
def Opcode.canLoad (dst : Reg) (value : Int) (op : Opcode) : Bool :=
  (Instruction.ofParts op [dst] (.literal value)).isOk

/-- The narrowest load that takes the register and the value. -/
def Opcode.narrowestLoad? (dst : Reg) (value : Int) : Option Opcode :=
  integerLoads.find? (canLoad dst value)

namespace Opcode

variable {op : Opcode} {dst : Reg} {value : Int} {regBits bits : Nat}

theorem canLoad_iff : op.canLoad dst value ↔
    (⟨op, [dst], .literal value⟩ : Instruction).IsWellFormed := by
  rw [canLoad, ← Instruction.check_eq_ok_iff, Instruction.ofParts]
  cases Instruction.check ⟨op, [dst], .literal value⟩ <;> simp [Except.isOk, Except.toBool]

theorem canLoad_iff_of_format (format : op.format = ⟨.exactly 1, regBits, .literal bits⟩) :
    op.canLoad dst value ↔
      dst.index.toNat < 1 <<< regBits ∧ Instruction.LiteralFits bits value :=
  canLoad_iff.trans (Instruction.isWellFormed_load_iff format)

/-- Loads are made with the first opcode that takes register and value. -/
theorem narrowestLoad?_eq (narrow : dst.index.toNat < 256) (value : Int32) :
    narrowestLoad? dst value.toInt = some (Instruction.constOpcode dst value.toInt) := by
  have small := @canLoad_iff_of_format .const4 dst value.toInt 4 4 rfl
  have medium := @canLoad_iff_of_format .const16 dst value.toInt 8 16 rfl
  have large := @canLoad_iff_of_format .const32 dst value.toInt 8 32 rfl
  have nibble : dst.index < 16 ↔ dst.index.toNat < 1 <<< 4 := UInt16.lt_iff_toNat_lt
  have byte : dst.index.toNat < 1 <<< 8 := narrow
  simp only [byte, true_and, Instruction.literalFits_toInt, iff_true] at medium large
  rw [← nibble] at small
  rw [narrowestLoad?, integerLoads, Instruction.constOpcode_eq]
  split
  · rename_i both
    rw [List.find?_cons_of_pos (small.mpr both)]
  · rename_i notSmall
    rw [List.find?_cons_of_neg (mt small.mp notSmall)]
    split
    · rename_i fits
      rw [List.find?_cons_of_pos (medium.mpr fits)]
    · rename_i notMedium
      rw [List.find?_cons_of_neg (mt medium.mp notMedium), List.find?_cons_of_pos large]

/-- The loads name their register with eight bits at most. -/
theorem narrow_of_canLoad (load : op ∈ integerLoads) (loads : op.canLoad dst value) :
    dst.index.toNat < 256 := by
  have width := (canLoad_iff.mp loads).width dst List.mem_cons_self
  have bits : ∀ op ∈ integerLoads, 1 <<< op.format.regBits ≤ 256 := by decide
  exact Nat.lt_of_lt_of_le width (bits op load)

/-- The widest of the loads takes every value. -/
theorem exists_canLoad_iff (value : Int32) :
    (∃ op ∈ integerLoads, op.canLoad dst value.toInt) ↔ dst.index.toNat < 256 := by
  constructor
  · rintro ⟨op, load, loads⟩
    exact narrow_of_canLoad load loads
  · intro narrow
    exact ⟨.const32, by decide,
      (canLoad_iff_of_format rfl).mpr ⟨narrow, Instruction.literalFits_toInt value⟩⟩

end Opcode

namespace Instruction

variable {dst : Reg} {value : Int32}

theorem dest?_constInt : (constInt dst value).dest? = some dst := by
  unfold dest?
  rw [if_pos]
  · rfl
  · change (constOpcode dst value.toInt).has .dest
    rcases constOpcode_cases dst value.toInt with ⟨op, _⟩ | ⟨op, _⟩ | op <;> rw [op] <;> rfl

/-- A register of more than eight bits is too wide for the load that is made. -/
theorem check_constInt_of_wide (wide : 256 ≤ dst.index.toNat) :
    (constInt dst value).check =
      .error (.registerWidth (constInt dst value).opcode dst 8) := by
  have notNibble : ¬ (dst.index < 16 ∧ LiteralFits 4 value.toInt) := by
    rw [UInt16.lt_iff_toNat_lt]
    rintro ⟨small, _⟩
    exact absurd (Nat.lt_of_lt_of_le small (by decide)) (Nat.not_lt.mpr wide)
  rw [constInt, constOpcode_eq, if_neg notNibble]
  split <;> simp [check, Opcode.format, RegCount.accepts, wide]

/-- Where a field read may stand, so may a load of zero into the register that it writes. -/
theorem checkInstruction_constZero {b : Body} {position : Nat} {i : Instruction}
    (read : i.opcode.isFieldRead) (accepted : b.checkInstruction position i = .ok ()) :
    ∃ d, i.dest? = some d ∧ b.checkInstruction position (.constZero d) = .ok () := by
  have admits := Body.checkInstruction_eq_ok_iff.mp accepted
  obtain ⟨f, _, reads⟩ := admits.operands.exists_reads read
  obtain ⟨d, dest, _⟩ := reads.exists_dest admits.operands
  exact ⟨d, dest, Body.checkInstruction_eq_ok_iff.mpr (admits.constZero reads dest)⟩

/-- If any of the loads takes the register and the value, then the load that is made passes its
check, writes the register, carries the value and is the first that takes both. None does exactly
if eight bits do not name the register, and then this is what the check reports. And where a field
read may stand, so may a load of zero into the register that it writes. -/
theorem constInt_narrowest :
    (∀ (dst : Reg) (value : Int32),
      let load := constInt dst value
      let possible := ∃ op ∈ Opcode.integerLoads, op.canLoad dst value.toInt
      (possible → load.check = .ok () ∧ load.dest? = some dst ∧
        load.literal? = some value.toInt ∧
        Opcode.narrowestLoad? dst value.toInt = some load.opcode) ∧
      (¬ possible ↔ 256 ≤ dst.index.toNat) ∧
      (¬ possible → load.check = .error (.registerWidth load.opcode dst 8))) ∧
    ∀ (b : Body) (position : Nat) (i : Instruction), i.opcode.isFieldRead →
      b.checkInstruction position i = .ok () →
        ∃ d, i.dest? = some d ∧ b.checkInstruction position (.constZero d) = .ok () := by
  refine ⟨fun dst value => ?_, fun b position i => checkInstruction_constZero⟩
  have decided := @Opcode.exists_canLoad_iff dst value
  refine ⟨fun possible => ?_, ?_, fun impossible => ?_⟩
  · have narrow := decided.mp possible
    exact ⟨check_eq_ok_iff.mpr (isWellFormed_constInt narrow value), dest?_constInt,
      literal?_constInt, Opcode.narrowestLoad?_eq narrow value⟩
  · rw [decided, Nat.not_lt]
  · exact check_constInt_of_wide (Nat.not_lt.mp (mt decided.mpr impossible))

/-- Register 16 is too wide for the shortest load of a small value and the last register for every
load, and a load of zero may stand where a static read writes register 16. -/
theorem constInt_narrowest_sixteen :
    let read : Instruction := ⟨.sget .boolean, [⟨16⟩], .field ⟨⟨"LA;"⟩, "flag", .boolean⟩⟩
    let b : Body := ⟨17, 0, [read, .ret ⟨16⟩]⟩
    Opcode.narrowestLoad? ⟨16⟩ 7 = some .const16 ∧
      (constInt ⟨16⟩ 7).check = .ok () ∧
      (constInt ⟨65535⟩ 7).check = .error (.registerWidth .const16 ⟨65535⟩ 8) ∧
      b.checkInstruction 0 (.constZero ⟨16⟩) = .ok () := by
  intro read b
  obtain ⟨loads, zero⟩ := constInt_narrowest
  obtain ⟨possible, -, -⟩ := loads ⟨16⟩ 7
  obtain ⟨-, wide, impossible⟩ := loads ⟨65535⟩ 7
  obtain ⟨accepted, -, -, narrowest⟩ := possible ⟨.const16, by decide, by decide⟩
  obtain ⟨d, dest, admitted⟩ := zero b 0 read rfl (by decide)
  obtain rfl : d = ⟨16⟩ := Option.some.inj (dest.symm.trans rfl)
  exact ⟨narrowest, accepted, impossible (wide.mpr (by decide)), admitted⟩

end Instruction

end DexPatch
