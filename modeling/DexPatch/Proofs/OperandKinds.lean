import DexPatch.Proofs.WellFormed

/-!
# Kinds of operands

The table of opcodes says three times which operand an opcode takes: by its flags, by its category
and by its format. The check of an instruction goes by the format. The analyses go by a flag, or by
the operand that they find, and never by the format. That this comes to the same is a fact about the
whole table, and from there about every instruction that passes the check.

## Main definitions

* `Opcode.announces` — the kind of operand that the flags and the category of an opcode tell of
* `Instruction.carries` — the kind of operand that an instruction has

## Main results

* `Opcode.announces_iff` — flags, category and format agree
* `Instruction.IsWellFormed.carries_eq_announces` — so do operands and flags
* `Instruction.IsWellFormed.exists_dest` — a register is written wherever the flag says so
-/

namespace DexPatch

/-! ### The table -/

namespace Opcode

variable {op : Opcode} {kind : PayloadKind}

/-- What the flags and the category of an opcode tell of the kind of its operand. -/
def announces (op : Opcode) : PayloadKind → Bool
  | .literal => op.has .literal
  | .string => op.has .string
  | .field => op.has .fieldRead || op.has .fieldWrite
  | .method => op.has .call
  | .type => op.category = .typeLoad || op.category = .object
  | .target => op.has .jump
  | .empty =>
    [Flag.literal, .string, .fieldRead, .fieldWrite, .call, .jump].all (!op.has ·) &&
      op.category ≠ .typeLoad && op.category ≠ .object

/-- The flags and the category tell of the kind of operand that the format asks for, and of no
other. -/
theorem announces_iff : op.announces kind ↔ op.format.payload.kind = kind := by
  cases op <;> cases kind <;> simp [announces, has, flags, category, format, PayloadFormat.kind]

/-- An opcode that writes a register names at least one. -/
theorem exists_regs_eq_exactly_of_has_dest (writes : op.has .dest) :
    ∃ n, op.format.regs = .exactly (n + 1) := by
  cases op with
  | move | moveResult | const4 | const16 | const32 | constString | constClass | iget | sget | addInt
  | addIntLit8 | newInstance => exact ⟨_, rfl⟩
  | _ => simp [has, flags] at writes

end Opcode

/-! ### Instructions -/

namespace Instruction

variable {i : Instruction} {kind kind' : PayloadKind}

/-- What the operands of an instruction tell of their kind. -/
def carries (i : Instruction) : PayloadKind → Bool
  | .literal => i.literal?.isSome
  | .string => i.string?.isSome
  | .field => i.field?.isSome
  | .method => i.method?.isSome
  | .type => i.type?.isSome
  | .target => i.target?.isSome
  | .empty =>
    i.literal?.isNone && i.string?.isNone && i.field?.isNone && i.method?.isNone &&
      i.type?.isNone && i.target?.isNone

theorem carries_iff : i.carries kind ↔ i.payload.kind = kind := by
  obtain ⟨op, regs, payload⟩ := i
  cases payload <;> cases kind <;>
    simp [carries, literal?, string?, field?, method?, type?, target?, Payload.kind]

/-- An instruction has one kind of operand at most. -/
theorem eq_of_carries (first : i.carries kind) (second : i.carries kind') : kind = kind' :=
  (carries_iff.mp first).symm.trans (carries_iff.mp second)

/-- An instruction that passes its check has the operand that its flags tell of. -/
theorem IsWellFormed.carries_eq_announces (wellFormed : i.IsWellFormed) (kind : PayloadKind) :
    i.carries kind = i.opcode.announces kind := by
  rw [Bool.eq_iff_iff, carries_iff, Opcode.announces_iff, wellFormed.payload.kind_eq]

/-- An instruction that passes its check has the register that it writes. -/
theorem IsWellFormed.exists_dest (wellFormed : i.IsWellFormed) (writes : i.opcode.has .dest) :
    ∃ r, i.dest? = some r ∧ i.regs.head? = some r := by
  obtain ⟨n, exactly⟩ := Opcode.exists_regs_eq_exactly_of_has_dest writes
  have count := wellFormed.count
  rw [exactly, RegCount.accepts, beq_iff_eq] at count
  obtain ⟨r, rest, regs⟩ := List.exists_cons_of_length_eq_add_one count
  exact ⟨r, by rw [dest?, if_pos writes, regs, List.head?_cons], by rw [regs, List.head?_cons]⟩

theorem has_dest_of_isFieldRead (reads : i.opcode.isFieldRead) : i.opcode.has .dest := by
  cases op : i.opcode <;> simp_all [Opcode.isFieldRead, Opcode.has, Opcode.flags]

end Instruction

end DexPatch
