import DexPatch.FieldTally
import DexPatch.Proofs.IntegerLoad
import DexPatch.Proofs.OperandKinds
import DexPatch.Proofs.Outline

/-!
# Zeroed reads

The program in which every read of one field has become a load of zero into the same
register is defined here by one change to all instructions at once, without any positions.

## Main definitions

* `Instruction.zeroRead`, `MethodDecl.zeroReads`, `Program.zeroReads` — the reads of a field
  zeroed
* `Program.readCount` — the number of instructions that read a field

## Main results

* `Instruction.IsWellFormed.exists_reads`, `Instruction.Reads.exists_dest` — a read that fits its
  opcode names a field and writes a register
* `Program.IsWellFormed.not_readsField_zeroReads` — no read of the field is left
* `MethodDecl.ofCode_zeroReads`, `MethodDecl.readsField_of_zeroReads` — other signals and other
  reads are as before
-/

namespace DexPatch

namespace Instruction

variable {i : Instruction} {f g : FieldRef}

/-! ### Field reads -/

theorem isFieldRead_cases {op : Opcode} (reads : op.isFieldRead) :
    (∃ width, op = .iget width) ∨ ∃ width, op = .sget width := by
  cases op with
  | iget width => exact .inl ⟨width, rfl⟩
  | sget width => exact .inr ⟨width, rfl⟩
  | _ => simp [Opcode.isFieldRead, Opcode.has, Opcode.flags] at reads

theorem reads_iff : i.Reads f ↔ i.opcode.isFieldRead ∧ i.payload = .field f := by
  unfold Reads fieldRead? field?
  cases i.payload <;> by_cases h : i.opcode.isFieldRead <;> simp [h]

theorem reads_of_isFieldRead (read : i.opcode.isFieldRead) (field : i.field? = some f) :
    i.Reads f := by
  rw [Reads, fieldRead?, if_pos read, field]

theorem isFieldRead_of_isBooleanFieldRead {op : Opcode} (boolean : op.isBooleanFieldRead) :
    op.isFieldRead := by
  simp only [Opcode.isBooleanFieldRead, Bool.or_eq_true, beq_iff_eq] at boolean
  rcases boolean with rfl | rfl <;> rfl

/-- A read that fits its opcode names the field that it reads. -/
theorem IsWellFormed.exists_reads (wellFormed : i.IsWellFormed) (read : i.opcode.isFieldRead) :
    ∃ f, i.field? = some f ∧ i.Reads f := by
  have agree : i.field?.isSome = i.opcode.announces .field := wellFormed.carries_eq_announces .field
  have announced : i.opcode.announces .field := by
    rw [Opcode.announces, ← Opcode.isFieldRead, read, Bool.true_or]
  obtain ⟨f, field⟩ := Option.isSome_iff_exists.mp (agree.trans announced)
  exact ⟨f, field, reads_of_isFieldRead read field⟩

/-- A read that fits its opcode writes one of its registers, which eight bits name. -/
theorem Reads.exists_dest (reads : i.Reads f) (wellFormed : i.IsWellFormed) :
    ∃ d, i.dest? = some d ∧ d ∈ i.regs ∧ d.index.toNat < 256 := by
  obtain ⟨op, regs, payload⟩ := i
  have count := wellFormed.count
  have width := wellFormed.width
  -- A read from an object names two registers of four bits, a static one a register of eight.
  rcases isFieldRead_cases (reads_iff.mp reads).1 with ⟨w, rfl⟩ | ⟨w, rfl⟩
  · obtain ⟨d, object, rfl⟩ : ∃ d object, regs = [d, object] := by
      simpa [Opcode.format, RegCount.accepts, List.length_eq_two] using count
    have narrow : d.index.toNat < 2 ^ 4 := width d (by simp)
    exact ⟨d, rfl, by simp, by omega⟩
  · obtain ⟨d, rfl⟩ : ∃ d, regs = [d] := by
      simpa [Opcode.format, RegCount.accepts, List.length_eq_one_iff] using count
    exact ⟨d, rfl, by simp, width d (by simp)⟩

theorem Reads.ofInstruction_eq_empty (reads : i.Reads f) :
    Evidence.ofInstruction i = Evidence.empty := by
  obtain ⟨op, payload⟩ := reads_iff.mp reads
  have literal : i.literal? = none := by rw [literal?, payload]
  rcases isFieldRead_cases op with ⟨w, h⟩ | ⟨w, h⟩ <;>
    simp [Evidence.ofInstruction, h, literal, Opcode.isZeroTest, Opcode.has, Opcode.flags]

theorem Reads.loadedString?_eq_none (reads : i.Reads f) : i.loadedString? = none := by
  unfold loadedString? string?
  rw [(reads_iff.mp reads).2]
  split <;> rfl

/-! ### One instruction -/

/-- A read of `f` as a load of zero into the register that it writes, and any other
instruction as it is. -/
def zeroRead (f : FieldRef) (i : Instruction) : Instruction :=
  if i.Reads f then
    match i.dest? with
    | some d => .constZero d
    | none => i
  else i

theorem zeroRead_of_not_reads (h : ¬ i.Reads f) : i.zeroRead f = i := if_neg h

theorem zeroRead_of_reads {d : Reg} (reads : i.Reads f) (dest : i.dest? = some d) :
    i.zeroRead f = .constZero d := by
  rw [zeroRead, if_pos reads, dest]

/-- Either nothing happens or a read becomes a load. -/
theorem zeroRead_cases (f : FieldRef) (i : Instruction) :
    i.zeroRead f = i ∨ ∃ d, i.Reads f ∧ i.dest? = some d ∧ i.zeroRead f = .constZero d := by
  by_cases reads : i.Reads f
  · cases dest : i.dest? with
    | none => exact .inl (by rw [zeroRead, if_pos reads, dest])
    | some d => exact .inr ⟨d, reads, rfl, zeroRead_of_reads reads dest⟩
  · exact .inl (zeroRead_of_not_reads reads)

theorem not_reads_zeroRead (wellFormed : i.IsWellFormed) : ¬ (i.zeroRead f).Reads f := by
  by_cases reads : i.Reads f
  · obtain ⟨d, dest, _⟩ := reads.exists_dest wellFormed
    rw [zeroRead_of_reads reads dest]
    exact not_reads_constInt f
  · rwa [zeroRead_of_not_reads reads]

theorem reads_of_zeroRead (reads : (i.zeroRead f).Reads g) : i.Reads g := by
  rcases zeroRead_cases f i with h | ⟨d, _, _, h⟩
  · rwa [h] at reads
  · rw [h] at reads
    exact absurd reads (not_reads_constInt g)

@[simp]
theorem ofInstruction_zeroRead : Evidence.ofInstruction (i.zeroRead f) = .ofInstruction i := by
  rcases zeroRead_cases f i with h | ⟨d, reads, _, h⟩
  · rw [h]
  · rw [h, reads.ofInstruction_eq_empty]
    simp [Evidence.ofInstruction, constZero]

end Instruction

/-! ### One method -/

namespace MethodDecl

variable {m : MethodDecl} {f g : FieldRef} {h k : List Instruction → List Instruction}

/-- The method with its instructions changed. -/
def mapCode (h : List Instruction → List Instruction) (m : MethodDecl) : MethodDecl :=
  { m with body := m.body.map fun b => { b with instructions := h b.instructions } }

@[simp]
theorem outline_mapCode : (m.mapCode h).outline = m.outline := by
  simp [outline, mapCode, Function.comp_def]

theorem mapCode_mapCode : (m.mapCode k).mapCode h = m.mapCode (h ∘ k) := by
  simp [mapCode, Function.comp_def]

theorem code_mapCode (has : m.body.isSome) : (m.mapCode h).code = h m.code := by
  obtain ⟨b, hb⟩ := Option.isSome_iff_exists.mp has
  simp [code, mapCode, hb]

theorem mapCode_congr (same : h m.code = k m.code) : m.mapCode h = m.mapCode k := by
  cases hb : m.body with
  | none => simp [mapCode, hb]
  | some b =>
    rw [code_eq hb] at same
    simp [mapCode, hb, same]

theorem mapCode_eq_self (same : h m.code = m.code) : m.mapCode h = m := by
  rw [mapCode_congr (k := id) same]
  simp [mapCode]

/-- The method with its reads of `f` zeroed. -/
def zeroReads (f : FieldRef) (m : MethodDecl) : MethodDecl :=
  m.mapCode (List.map (Instruction.zeroRead f))

@[simp]
theorem code_zeroReads : (m.zeroReads f).code = m.code.map (Instruction.zeroRead f) := by
  cases hb : m.body with
  | none => simp [code, zeroReads, mapCode, hb]
  | some b => exact code_mapCode (by simp [hb])

@[simp]
theorem outline_zeroReads : (m.zeroReads f).outline = m.outline := outline_mapCode

theorem zeroReads_eq_self (none : ¬ m.ReadsField f) : m.zeroReads f = m := by
  refine mapCode_eq_self ?_
  conv_rhs => rw [← m.code.map_id]
  refine List.map_congr_left fun i hi => ?_
  exact Instruction.zeroRead_of_not_reads fun reads => none ⟨i, hi, reads⟩

/-- Zeroing reads shows and hides no signal. -/
@[simp]
theorem ofCode_zeroReads : Evidence.ofCode (m.zeroReads f).code = .ofCode m.code := by
  rw [code_zeroReads]
  induction m.code with
  | nil => rfl
  | cons i rest ih =>
    rw [List.map_cons, Evidence.ofCode_cons, Evidence.ofCode_cons, ih,
      Instruction.ofInstruction_zeroRead]

/-- Zeroing reads adds none. -/
theorem readsField_of_zeroReads (reads : (m.zeroReads f).ReadsField g) : m.ReadsField g := by
  obtain ⟨i, hi, reads⟩ := reads
  rw [code_zeroReads] at hi
  obtain ⟨j, hj, rfl⟩ := List.mem_map.mp hi
  exact ⟨j, hj, Instruction.reads_of_zeroRead reads⟩

end MethodDecl

/-! ### The whole program -/

namespace Program

variable {p : Program} {f : FieldRef}

/-- The program with every read of `f`, anywhere, zeroed. -/
def zeroReads (f : FieldRef) (p : Program) : Program := p.mapMethods (MethodDecl.zeroReads f)

/-- The number of instructions that read `f`. -/
def readCount (f : FieldRef) (p : Program) : Nat :=
  (p.methods.flatMap fun (_, m) => m.code).countP (·.Reads f)

@[simp]
theorem outline_zeroReads : (p.zeroReads f).outline = p.outline :=
  outline_mapMethods fun _ _ _ => MethodDecl.outline_zeroReads

theorem method?_zeroReads (id : MethodId) :
    (p.zeroReads f).method? id = (p.method? id).map (MethodDecl.zeroReads f) :=
  method?_mapMethods id

theorem readCount_eq_zero_iff :
    p.readCount f = 0 ↔ ∀ id m, p.method? id = some m → ¬ m.ReadsField f := by
  rw [readCount, List.countP_eq_zero]
  constructor
  · rintro none id m found ⟨i, hi, reads⟩
    have member : i ∈ p.methods.flatMap fun (_, m) => m.code :=
      List.mem_flatMap.mpr ⟨(id, m), mem_methods.mpr found, hi⟩
    exact none i member (decide_eq_true reads)
  · intro none i member reads
    obtain ⟨⟨id, m⟩, declared, hi⟩ := List.mem_flatMap.mp member
    exact none id m (mem_methods.mp declared) ⟨i, hi, of_decide_eq_true reads⟩

theorem zeroReads_eq_self (none : ∀ id m, p.method? id = some m → ¬ m.ReadsField f) :
    p.zeroReads f = p := by
  refine eq_of_outline_eq outline_zeroReads fun id => ?_
  rw [method?_zeroReads]
  cases found : p.method? id with
  | none => rfl
  | some m => rw [Option.map_some, MethodDecl.zeroReads_eq_self (none id m found)]

theorem IsWellFormed.instruction {id : MethodId} {m : MethodDecl} {i : Instruction}
    (wellFormed : p.IsWellFormed) (found : p.method? id = some m) (hi : i ∈ m.code) :
    i.IsWellFormed := by
  obtain ⟨b, hb⟩ := Option.isSome_iff_exists.mp (MethodDecl.isSome_body_of_mem_code hi)
  rw [MethodDecl.code_eq hb] at hi
  exact ((wellFormed.body found hb).admits i hi).operands

theorem IsWellFormed.instruction_of_mem {c : ClassDecl} (wellFormed : p.IsWellFormed)
    (declared : c ∈ p.classes) : ∀ m ∈ c.methods, ∀ i ∈ m.code, i.IsWellFormed := by
  intro m hm i hi
  obtain ⟨id, found⟩ := exists_method?_iff.mpr ⟨c, declared, hm⟩
  exact wellFormed.instruction found hi

/-- At each position a read has become a load of zero into its own register, and anything
else is as before. -/
theorem IsWellFormed.getElem?_map_zeroRead {id : MethodId} {m : MethodDecl} {i : Instruction}
    {k : Nat} (wellFormed : p.IsWellFormed) (found : p.method? id = some m)
    (there : m.code[k]? = some i) :
    (¬ i.Reads f → (m.code.map (Instruction.zeroRead f))[k]? = some i) ∧
      (i.Reads f → ∃ d, i.dest? = some d ∧
        (m.code.map (Instruction.zeroRead f))[k]? = some (.constZero d)) := by
  rw [List.getElem?_map, there, Option.map_some]
  constructor
  · intro other
    rw [Instruction.zeroRead_of_not_reads other]
  · intro reads
    obtain ⟨d, dest, _⟩ :=
      reads.exists_dest (wellFormed.instruction found (List.mem_of_getElem? there))
    exact ⟨d, dest, by rw [Instruction.zeroRead_of_reads reads dest]⟩

/-- No read of the field is left. -/
theorem IsWellFormed.not_readsField_zeroReads {id : MethodId} {m : MethodDecl}
    (wellFormed : p.IsWellFormed) (found : (p.zeroReads f).method? id = some m) :
    ¬ m.ReadsField f := by
  rw [method?_zeroReads] at found
  obtain ⟨n, hn, rfl⟩ := Option.map_eq_some_iff.mp found
  rintro ⟨i, hi, reads⟩
  rw [MethodDecl.code_zeroReads] at hi
  obtain ⟨j, hj, rfl⟩ := List.mem_map.mp hi
  exact Instruction.not_reads_zeroRead (wellFormed.instruction hn hj) reads

end Program

end DexPatch
