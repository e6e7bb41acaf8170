import DexPatch.Program

/-!
# Well-formed programs

The structural checks walk through a program and stop at the first defect. What they
accept can be said without them: an instruction fits its body, a body has code that fits
it, and a program has distinct classes, distinct fields and well-formed bodies only.

## Main definitions

* `Instruction.IsWellFormed` — the operands fit the opcode
* `Body.Admits` — an instruction may stand in a body
* `Body.IsWellFormed`, `Program.IsWellFormed` — no defect anywhere

## Main results

* `Instruction.check_eq_ok_iff`, `Body.checkInstruction_eq_ok_iff`, `Body.check_eq_ok_iff`,
  `Program.check_eq_ok_iff` — the checks accept exactly what is well-formed
* `Program.ofClasses_eq_ok_iff` — exactly the well-formed programs can be built
-/

namespace DexPatch

/-- The payload is of the kind that the format asks for and, if it is a literal, in range. -/
def PayloadFormat.Accepts : PayloadFormat → Payload → Prop
  | .literal bits, .literal value => Instruction.LiteralFits bits value
  | format, payload => format.kind = payload.kind

theorem PayloadFormat.Accepts.kind_eq {format : PayloadFormat} {p : Payload}
    (accepts : format.Accepts p) : format.kind = p.kind := by
  cases format with
  | literal bits =>
    cases p with
    | literal value => rfl
    | _ => exact accepts
  | _ => exact accepts

namespace Instruction

variable {i : Instruction}

/-- The operands fit the opcode. -/
structure IsWellFormed (i : Instruction) : Prop where
  count : i.opcode.format.regs.accepts i.regs.length
  width : ∀ r ∈ i.regs, r.index.toNat < 1 <<< i.opcode.format.regBits
  payload : i.opcode.format.payload.Accepts i.payload

theorem checkPayload_eq_ok_iff :
    i.checkPayload = .ok () ↔ i.opcode.format.payload.Accepts i.payload := by
  unfold checkPayload
  cases i.opcode.format.payload <;> cases i.payload <;>
    simp [PayloadFormat.Accepts, PayloadFormat.kind, Payload.kind]

/-- The check accepts exactly the instructions whose operands fit. -/
theorem check_eq_ok_iff : i.check = .ok () ↔ i.IsWellFormed := by
  have narrow : (i.regs.find? fun r => 1 <<< i.opcode.format.regBits ≤ r.index.toNat) = none ↔
      ∀ r ∈ i.regs, r.index.toNat < 1 <<< i.opcode.format.regBits := by
    simp [List.find?_eq_none]
  unfold check
  constructor
  · intro accepted
    by_cases count : i.opcode.format.regs.accepts i.regs.length
    · cases wide : i.regs.find? fun r => 1 <<< i.opcode.format.regBits ≤ r.index.toNat with
      | some reg => simp [count, wide] at accepted
      | none =>
        simp only [count, wide, if_true] at accepted
        exact ⟨count, narrow.mp wide, checkPayload_eq_ok_iff.mp accepted⟩
    · simp [count] at accepted
  · rintro ⟨count, width, payload⟩
    simp only [count, if_true, narrow.mpr width]
    exact checkPayload_eq_ok_iff.mpr payload

end Instruction

namespace Body

variable {b : Body} {i : Instruction} {position : Nat}

/-- The instruction may stand in the body: its operands fit its opcode, its registers the
frame, and its target the body. -/
structure Admits (b : Body) (i : Instruction) : Prop where
  operands : i.IsWellFormed
  registers : ∀ r ∈ i.regs, r.index < b.registers
  target : ∀ t ∈ i.target?, t.index.toNat < b.instructions.length

/-- A body with code, room for its arguments, and instructions that fit it. -/
structure IsWellFormed (b : Body) : Prop where
  nonempty : b.instructions ≠ []
  ins_le : b.ins ≤ b.registers
  admits : ∀ i ∈ b.instructions, b.Admits i

/-- Where the instruction stands decides the error alone, not whether there is one. -/
theorem checkInstruction_eq_ok_iff : b.checkInstruction position i = .ok () ↔ b.Admits i := by
  have inFrame : (i.regs.find? fun r => b.registers ≤ r.index) = none ↔
      ∀ r ∈ i.regs, r.index < b.registers := by
    simp [List.find?_eq_none]
  unfold checkInstruction
  constructor
  · intro accepted
    cases operands : i.check with
    | error cause => simp [operands] at accepted
    | ok =>
      cases outside : i.regs.find? fun r => b.registers ≤ r.index with
      | some reg => simp [operands, outside] at accepted
      | none =>
        refine ⟨Instruction.check_eq_ok_iff.mp operands, inFrame.mp outside, ?_⟩
        intro t ht
        by_cases inside : t.index.toNat < b.instructions.length
        · exact inside
        · rw [Option.mem_def] at ht
          simp [operands, outside, ht, inside] at accepted
  · rintro ⟨operands, registers, target⟩
    rw [Instruction.check_eq_ok_iff.mpr operands, inFrame.mpr registers]
    cases ht : i.target? with
    | none => rfl
    | some t => simp [target t ht]

theorem checkFrom_eq_ok_iff {code : List Instruction} :
    b.checkFrom position code = .ok () ↔ ∀ i ∈ code, b.Admits i := by
  induction code generalizing position with
  | nil => simp [checkFrom]
  | cons i rest ih =>
    have first : b.checkInstruction position i = .ok () ↔ b.Admits i := checkInstruction_eq_ok_iff
    have others : b.checkFrom (position + 1) rest = .ok () ↔ ∀ j ∈ rest, b.Admits j := ih
    rw [checkFrom, List.forall_mem_cons, ← others, ← first]
    cases b.checkInstruction position i <;> simp

/-- The check accepts exactly the well-formed bodies. -/
theorem check_eq_ok_iff : b.check = .ok () ↔ b.IsWellFormed := by
  unfold check
  constructor
  · intro accepted
    by_cases empty : b.instructions = []
    · simp [empty] at accepted
    · by_cases exceeds : b.registers < b.ins
      · simp [empty, exceeds] at accepted
      · simp only [List.isEmpty_iff, empty, exceeds, if_false] at accepted
        exact ⟨empty, UInt16.not_lt.mp exceeds, checkFrom_eq_ok_iff.mp accepted⟩
  · rintro ⟨nonempty, ins_le, admits⟩
    simp only [List.isEmpty_iff, nonempty, UInt16.not_lt.mpr ins_le, if_false]
    exact checkFrom_eq_ok_iff.mpr admits

/-- An instruction may stand in a body whatever the other instructions are: only the
frame and the number of instructions count. -/
theorem Admits.congr {b' : Body} (admits : b.Admits i) (registers : b'.registers = b.registers)
    (length : b'.instructions.length = b.instructions.length) : b'.Admits i where
  operands := admits.operands
  registers := registers ▸ admits.registers
  target := length ▸ admits.target

/-- Putting one fitting instruction in place keeps a body well-formed. -/
theorem IsWellFormed.set (wellFormed : b.IsWellFormed) (admits : b.Admits i) :
    (b.set position i).IsWellFormed := by
  have keep {j : Instruction} (hj : b.Admits j) : (b.set position i).Admits j :=
    hj.congr rfl (by simp [Body.set])
  refine ⟨by simpa [Body.set] using wellFormed.nonempty, wellFormed.ins_le, ?_⟩
  intro j hj
  rcases List.mem_or_eq_of_mem_set hj with old | rfl
  · exact keep (wellFormed.admits j old)
  · exact keep admits

end Body

namespace Program

variable {p : Program} {package : Option String} {classes : List ClassDecl}

/-- Distinct class types, distinct fields within each class, and well-formed bodies. -/
structure IsWellFormed (p : Program) : Prop where
  types : (p.classes.map ClassDecl.type).Nodup
  fields : ∀ c ∈ p.classes, (c.fields.map fun f => (f.name, f.type)).Nodup
  bodies : ∀ c ∈ p.classes, ∀ m ∈ c.methods, ∀ b ∈ m.body, b.IsWellFormed

theorem checkFields_eq_ok_iff {owner : TypeDesc} {seen : List (String × TypeDesc)}
    {fields : List FieldDecl} :
    checkFields owner seen fields = .ok () ↔
      (fields.map fun f => (f.name, f.type)).Nodup ∧ ∀ f ∈ fields, (f.name, f.type) ∉ seen := by
  induction fields generalizing seen with
  | nil => simp [checkFields]
  | cons f rest ih =>
    rw [checkFields]
    split
    · rename_i known
      simp [known]
    · rename_i fresh
      simp only [ih, List.map_cons, List.nodup_cons, List.mem_map, List.mem_cons, not_or,
        forall_eq_or_imp]
      constructor
      · rintro ⟨distinct, later⟩
        refine ⟨⟨?_, distinct⟩, fresh, fun g hg => (later g hg).2⟩
        rintro ⟨g, hg, same⟩
        exact (later g hg).1 same
      · rintro ⟨⟨first, distinct⟩, _, later⟩
        exact ⟨distinct, fun g hg => ⟨fun same => first ⟨g, hg, same⟩, later g hg⟩⟩

theorem checkBodies_eq_ok_iff {owner : TypeDesc} {methods : List MethodDecl} :
    checkBodies owner methods = .ok () ↔ ∀ m ∈ methods, ∀ b ∈ m.body, b.IsWellFormed := by
  induction methods with
  | nil => simp [checkBodies]
  | cons m rest ih =>
    rw [checkBodies, List.forall_mem_cons, ← ih]
    cases m.body with
    | none => simp
    | some b =>
      simp only [Option.mem_def, Option.some.injEq, forall_eq', ← Body.check_eq_ok_iff]
      cases b.check <;> simp

theorem checkClasses_cons_eq_ok_iff {seen : List TypeDesc} {c : ClassDecl}
    {rest : List ClassDecl} :
    checkClasses seen (c :: rest) = .ok () ↔
      c.type ∉ seen ∧ checkFields c.type [] c.fields = .ok () ∧
        checkBodies c.type c.methods = .ok () ∧ checkClasses (c.type :: seen) rest = .ok () := by
  rw [checkClasses]
  by_cases known : c.type ∈ seen
  · simp [known]
  · cases checkFields c.type [] c.fields <;> cases checkBodies c.type c.methods <;> simp [known]

theorem checkClasses_eq_ok_iff {seen : List TypeDesc} {classes : List ClassDecl} :
    checkClasses seen classes = .ok () ↔
      (classes.map ClassDecl.type).Nodup ∧ (∀ c ∈ classes, c.type ∉ seen) ∧
        (∀ c ∈ classes, (c.fields.map fun f => (f.name, f.type)).Nodup) ∧
        ∀ c ∈ classes, ∀ m ∈ c.methods, ∀ b ∈ m.body, b.IsWellFormed := by
  -- The types that are known grow on the way, so the statement is about any list of them.
  induction classes generalizing seen with
  | nil => simp [checkClasses]
  | cons c rest ih =>
    have fields : checkFields c.type [] c.fields = .ok () ↔
        (c.fields.map fun f => (f.name, f.type)).Nodup := by
      simp [checkFields_eq_ok_iff]
    have distinct : (∀ d ∈ rest, d.type ∉ c.type :: seen) ↔
        c.type ∉ rest.map ClassDecl.type ∧ ∀ d ∈ rest, d.type ∉ seen := by
      simp only [List.mem_cons, not_or, List.mem_map, not_exists, not_and]
      exact ⟨fun h => ⟨fun d hd same => (h d hd).1 same, fun d hd => (h d hd).2⟩,
        fun h d hd => ⟨fun same => h.1 d hd same, h.2 d hd⟩⟩
    rw [checkClasses_cons_eq_ok_iff, fields, checkBodies_eq_ok_iff, ih, distinct, List.map_cons,
      List.nodup_cons, List.forall_mem_cons, List.forall_mem_cons, List.forall_mem_cons]
    constructor
    · rintro ⟨fresh, good, code, types, ⟨first, later⟩, goods, codes⟩
      exact ⟨⟨first, types⟩, ⟨fresh, later⟩, ⟨good, goods⟩, code, codes⟩
    · rintro ⟨⟨first, types⟩, ⟨fresh, later⟩, ⟨good, goods⟩, code, codes⟩
      exact ⟨fresh, good, code, types, ⟨first, later⟩, goods, codes⟩

/-- The checks accept exactly the well-formed programs. -/
theorem check_eq_ok_iff : p.check = .ok () ↔ p.IsWellFormed := by
  rw [check, checkClasses_eq_ok_iff]
  constructor
  · rintro ⟨types, _, fields, bodies⟩
    exact ⟨types, fields, bodies⟩
  · rintro ⟨types, fields, bodies⟩
    exact ⟨types, by simp, fields, bodies⟩

/-- Exactly the well-formed programs can be built from their parts. -/
theorem ofClasses_eq_ok_iff :
    ofClasses package classes = .ok p ↔ p = ⟨package, classes⟩ ∧ p.IsWellFormed := by
  rw [ofClasses]
  constructor
  · intro accepted
    cases checked : Program.check ⟨package, classes⟩ with
    | error e => simp [checked] at accepted
    | ok =>
      simp only [checked, Except.ok.injEq] at accepted
      subst accepted
      exact ⟨rfl, check_eq_ok_iff.mp checked⟩
  · rintro ⟨rfl, wellFormed⟩
    rw [check_eq_ok_iff.mpr wellFormed]

end Program

end DexPatch
