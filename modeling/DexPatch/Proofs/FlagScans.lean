import DexPatch.Proofs.FirstMatch
import DexPatch.Proofs.MarkerSearch
import DexPatch.Proofs.Signals
import DexPatch.Proofs.Substitution

/-!
# Scans by flag and by operand

The code of a method is gone through in two ways. The pool of strings takes the instructions whose
opcode loads a string, and the search near a marker those that have a string. Whether a method reads
a field is asked of the flag and the operand, and the places to be zeroed are those that have a
register to write as well. In code that passes its checks both ways see the same instructions: an
instruction has the operand that its flags tell of, and a read has a register to write.

## Main results

* `filter_announces_eq` — the instructions with some kind of operand, found by flag and by operand
* `ConstantPool.mem_ofMethod_iff_string` — the pool has the strings that are operands
* `MethodDecl.exists_readSite_iff` — the places to be zeroed are the reads
* `Instruction.flags_tell_operands` — all of it, for one instruction and for the code of a method
-/

namespace DexPatch

variable {i : Instruction} {m : MethodDecl} {s : String} {f : FieldRef} {code : List Instruction}

/-! ### One instruction -/

namespace Instruction.IsWellFormed

theorem isSome_fieldRead? (wellFormed : i.IsWellFormed) :
    i.fieldRead?.isSome = i.opcode.has .fieldRead := by
  rw [fieldRead?, Opcode.isFieldRead]
  cases reads : i.opcode.has .fieldRead with
  | false => rfl
  | true =>
    obtain ⟨f, field, _⟩ := wellFormed.exists_reads reads
    rw [if_pos rfl, field, Option.isSome_some]

theorem isSome_dest? (wellFormed : i.IsWellFormed) : i.dest?.isSome = i.opcode.has .dest := by
  cases writes : i.opcode.has .dest with
  | false => simp [dest?, writes]
  | true =>
    obtain ⟨r, dest, _⟩ := wellFormed.exists_dest writes
    rw [dest, Option.isSome_some]

end Instruction.IsWellFormed

/-! ### The code of a method -/

section Code

variable (wellFormed : ∀ i ∈ m.code, i.IsWellFormed)
include wellFormed

/-- The instructions with some kind of operand, found by flag and by operand. -/
theorem filter_announces_eq (kind : PayloadKind) :
    m.code.filter (·.opcode.announces kind) = m.code.filter (·.carries kind) :=
  List.filter_congr fun i member => ((wellFormed i member).carries_eq_announces kind).symm

/-- The pool of a method has the strings that are operands in its code. -/
theorem ConstantPool.mem_ofMethod_iff_string :
    s ∈ ofMethod m ↔ ∃ i ∈ m.code, i.string? = some s := by
  rw [mem_ofMethod_iff, MethodDecl.Loads]
  refine exists_congr fun i => and_congr_right fun member => ?_
  rw [(wellFormed i member).loadedString?_eq]

/-- The places to be zeroed are the reads. -/
theorem MethodDecl.exists_readSite_iff {k : Nat} :
    (∃ site ∈ m.readSites f, site.position = k) ↔ ∃ i, m.code[k]? = some i ∧ i.Reads f := by
  constructor
  · rintro ⟨site, collected, rfl⟩
    obtain ⟨i, there, reads, _⟩ := mem_readSites.mp collected
    exact ⟨i, there, reads⟩
  · rintro ⟨i, there, reads⟩
    obtain ⟨d, dest, _⟩ := reads.exists_dest (wellFormed i (List.mem_of_getElem? there))
    exact ⟨⟨k, d⟩, mem_readSites.mpr ⟨i, there, reads, dest⟩, rfl⟩

end Code

/-- An instruction that passes its check has the operand that the flags and the category of its
opcode tell of, and no other. It writes its first register if the flag says so, as it does for every
read of a field, and a test for zero has no literal. So code that passes its checks shows the same
instructions to a scan that goes by flags and to one that goes by operands: the pool has the strings
that are operands, the search near a marker stops at what is loaded as a string, and the places to
be zeroed are the reads that a method is asked for. -/
theorem Instruction.flags_tell_operands :
    (∀ i : Instruction, i.check = .ok () →
      (∀ kind, i.carries kind = i.opcode.announces kind) ∧
        (∀ kind kind', i.carries kind → i.carries kind' → kind = kind') ∧
        i.fieldRead?.isSome = i.opcode.has .fieldRead ∧
        i.dest?.isSome = i.opcode.has .dest ∧ (∀ r, i.dest? = some r → i.regs.head? = some r) ∧
        (i.opcode.has .fieldRead → i.dest?.isSome) ∧
        (i.opcode.has .zeroTest → i.literal? = none)) ∧
      ∀ m : MethodDecl, (∀ i ∈ m.code, i.check = .ok ()) →
        (∀ kind, m.code.filter (·.opcode.announces kind) = m.code.filter (·.carries kind)) ∧
        (∀ s, s ∈ ConstantPool.ofMethod m ↔ ∃ i ∈ m.code, i.string? = some s) ∧
        (∀ marker window, ClassDecl.readNearString? marker window m.code = none ↔
          ¬ ∃ i k, IsReadNear marker window m.code i k) ∧
        (∀ f, m.ReadsField f ↔ m.readSites f ≠ []) ∧
        ∀ f k, (∃ site ∈ m.readSites f, site.position = k) ↔
          ∃ i, m.code[k]? = some i ∧ i.opcode.has .fieldRead ∧ i.field? = some f := by
  constructor
  · intro i checked
    have wellFormed := check_eq_ok_iff.mp checked
    refine ⟨wellFormed.carries_eq_announces, fun _ _ => eq_of_carries, wellFormed.isSome_fieldRead?,
      wellFormed.isSome_dest?, fun r dest => ?_, fun reads => ?_, wellFormed.literal?_of_isZeroTest⟩
    · rw [dest?] at dest
      split at dest
      · exact dest
      · contradiction
    · rw [wellFormed.isSome_dest?]
      exact has_dest_of_isFieldRead reads
  · intro m checked
    have wellFormed : ∀ i ∈ m.code, i.IsWellFormed := fun i member =>
      check_eq_ok_iff.mp (checked i member)
    refine ⟨filter_announces_eq wellFormed,
      fun _ => ConstantPool.mem_ofMethod_iff_string wellFormed,
      fun _ _ => ClassDecl.readNearString?_eq_none_iff wellFormed, fun f => ?_, fun f k => ?_⟩
    · rw [Ne, MethodDecl.readSites_eq_nil_iff wellFormed, not_not]
    · rw [MethodDecl.exists_readSite_iff wellFormed]
      refine exists_congr fun i => and_congr_right fun _ => ?_
      rw [Reads, fieldRead?, Opcode.isFieldRead]
      split <;> simp_all

/-- A string is loaded, a flag is read, and the method starts again unless the flag is set. -/
theorem Instruction.flags_tell_operands_loop :
    let flag : FieldRef := ⟨⟨"LA;"⟩, "flag", .boolean⟩
    let load : Instruction := .constString ⟨1⟩ "on"
    let read : Instruction := .staticField (.sget .boolean) ⟨0⟩ flag
    let test : Instruction := .branchZero .ifEqz ⟨0⟩ ⟨0⟩
    let m : MethodDecl := ⟨"run", [], .void, 0, some ⟨2, 0, [load, read, test, .retVoid]⟩⟩
    (∀ i ∈ m.code, i.check = .ok ()) ∧ read.check = .ok () ∧ test.check = .ok () ∧
      (∀ kind, read.carries kind = read.opcode.announces kind) ∧
      read.fieldRead?.isSome = read.opcode.has .fieldRead ∧ read.dest?.isSome ∧
      (∀ r, read.dest? = some r → read.regs.head? = some r) ∧ test.literal? = none ∧
      m.code.filter (·.opcode.announces .string) = m.code.filter (·.carries .string) ∧
      "on" ∈ ConstantPool.ofMethod m ∧ ClassDecl.readNearString? "on" 1 m.code ≠ none ∧
      m.readSites flag ≠ [] ∧ ∃ site ∈ m.readSites flag, site.position = 1 := by
  intro flag load read test m
  obtain ⟨single, scans⟩ := flags_tell_operands
  have checked : ∀ i ∈ m.code, i.check = .ok () := by decide +zetaReduce
  obtain ⟨kinds, _, reads, _, first, written, _⟩ := single read (by decide)
  obtain ⟨_, _, _, _, _, _, noLiteral⟩ := single test (by decide)
  have isRead : IsReadNear "on" 1 m.code 0 1 :=
    ⟨⟨load, rfl, rfl⟩, by decide, by decide, ⟨read, rfl, rfl⟩⟩
  obtain ⟨filtered, pool, near, sites, places⟩ := scans m checked
  exact ⟨checked, by decide, by decide, kinds, reads, written (by decide), first,
    noLiteral (by decide), filtered .string, (pool "on").mpr ⟨load, by decide +zetaReduce, rfl⟩,
    fun none => (near "on" 1).mp none ⟨0, 1, isRead⟩,
    (sites flag).mp ⟨read, by decide +zetaReduce, rfl⟩,
    (places flag 1).mpr ⟨read, rfl, by decide, rfl⟩⟩

end DexPatch
