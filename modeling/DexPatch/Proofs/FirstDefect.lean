import DexPatch.Proofs.WellFormed
import Mathlib.Data.List.Infix

/-!
# First defects

A program may have many defects at once, and a check stops at the first that it meets. Here all of
them are listed, in the order in which a check that went on would meet them: class by class the
type, the fields and the bodies; of a body whether it is empty, then its arguments, then its
instructions by position; of an instruction its operands against the format, then its registers
against the frame in operand order, then its target. The checks report the heads of these lists.

What is a repeated type or a repeated field depends on the classes or fields before, which the
checks carry along; in the lists each element is told what stands before it.

## Main definitions

* `scan` — what there is to say about the elements of a list, each with those before it in view
* `Instruction.defects`, `Body.defectsAt`, `Body.defects`, `Program.defects` — all defects in order
* `firstDefect` — the answer of a check that stops at the first of them

## Main results

* `Instruction.check_eq`, `Body.checkInstruction_eq`, `Body.check_eq`, `Program.check_eq` — each
  check stops at the first defect
* `Program.ofClasses_first_defect` — the well-formed programs can be built, and for all others the
  first defect is reported
-/

namespace DexPatch

/-! ### Defects in order -/

section Order

variable {α κ ε ε' : Type}

/-- The defect, if the condition holds. -/
def defectIf (condition : Prop) [Decidable condition] (e : ε) : List ε :=
  if condition then [e] else []

/-- What there is to say about the elements of a list in order, each with those before it in
view. -/
def scan (say : List α → α → List ε) (list : List α) : List ε :=
  (list.inits.zip list).flatMap fun seen => say seen.1 seen.2

/-- The answer of a check that stops at the first defect. -/
def firstDefect : List ε → Except ε Unit
  | [] => .ok ()
  | e :: _ => .error e

theorem scan_cons (say : List α → α → List ε) (a : α) (rest : List α) :
    scan say (a :: rest) = say [] a ++ scan (fun earlier => say (a :: earlier)) rest := by
  simp [scan, List.zip_map_left, List.flatMap_map]

theorem firstDefect_eq_error_iff {list : List ε} {e : ε} :
    firstDefect list = .error e ↔ list.head? = some e := by
  cases list <;> simp [firstDefect]

/-- What comes later counts only if there is nothing wrong before. -/
theorem firstDefect_append (first others : List ε) :
    firstDefect (first ++ others) =
      match firstDefect first with
      | .error e => .error e
      | .ok () => firstDefect others := by
  cases first <;> rfl

theorem firstDefect_defectIf (condition : Prop) [Decidable condition] (e : ε) :
    firstDefect (defectIf condition e) = if condition then .error e else .ok () := by
  unfold defectIf
  split <;> rfl

theorem firstDefect_map (f : ε → ε') (list : List ε) :
    firstDefect (list.map f) = (firstDefect list).mapError f := by
  cases list <;> rfl

theorem firstDefect_map_filter (f : α → ε) (wrong : α → Bool) (list : List α) :
    firstDefect ((list.filter wrong).map f) =
      match list.find? wrong with
      | some a => .error (f a)
      | none => .ok () := by
  rw [← List.head?_filter]
  cases list.filter wrong <;> rfl

/-- A key that is added to the known ones is one more that stands before. -/
theorem mem_known_or_earlier_iff {key : α → κ} {k : κ} {a : α} {known : List κ}
    {earlier : List α} :
    (k ∈ key a :: known ∨ ∃ b ∈ earlier, key b = k) ↔
      (k ∈ known ∨ ∃ b ∈ a :: earlier, key b = k) := by
  rw [List.exists_mem_cons_iff, List.mem_cons, or_assoc, or_left_comm, @eq_comm _ k]

end Order

/-! ### Instructions -/

namespace Instruction

/-- The literal, if it is out of range. -/
def rangeDefects (i : Instruction) : List InstructionError :=
  match i.opcode.format.payload, i.payload with
  | .literal bits, .literal value =>
    defectIf (¬ LiteralFits bits value) (.literalRange i.opcode value bits)
  | _, _ => []

/-- All that keeps the operands from fitting the opcode: their number, the registers that are too
wide, the kind of the payload, and the range of a literal. -/
def defects (i : Instruction) : List InstructionError :=
  let format := i.opcode.format
  defectIf (¬ format.regs.accepts i.regs.length)
      (.registerCount i.opcode format.regs i.regs.length)
    ++ (i.regs.filter fun r => 1 <<< format.regBits ≤ r.index.toNat).map
      (.registerWidth i.opcode · format.regBits)
    ++ defectIf (format.payload.kind ≠ i.payload.kind)
      (.payloadKind i.opcode format.payload.kind i.payload.kind)
    ++ i.rangeDefects

variable (i : Instruction)

theorem checkPayload_eq :
    i.checkPayload = firstDefect (defectIf (i.opcode.format.payload.kind ≠ i.payload.kind)
      (.payloadKind i.opcode i.opcode.format.payload.kind i.payload.kind) ++ i.rangeDefects) := by
  rw [checkPayload, firstDefect_append, firstDefect_defectIf, rangeDefects]
  split
  · rfl
  · cases i.opcode.format.payload with
    | literal bits =>
      cases i.payload with
      | literal value =>
        change _ = firstDefect (defectIf (¬ LiteralFits bits value) _)
        rw [firstDefect_defectIf, ite_not]
      | _ => rfl
    | _ => rfl

/-- The check of an instruction stops at the first defect. -/
theorem check_eq : i.check = firstDefect i.defects := by
  rw [check, defects, List.append_assoc, List.append_assoc, firstDefect_append,
    firstDefect_append, firstDefect_defectIf, firstDefect_map_filter, ← checkPayload_eq]
  by_cases count : i.opcode.format.regs.accepts i.regs.length
  · simp only [count, if_true, not_true_eq_false, if_false]
    cases i.regs.find? fun r => 1 <<< i.opcode.format.regBits ≤ r.index.toNat <;> rfl
  · simp [count]

end Instruction

/-! ### Bodies -/

namespace Body

/-- All that keeps the instruction from standing at the position: defects of its own, registers
outside of the frame, and a target outside of the body. -/
def defectsAt (b : Body) (position : Nat) (i : Instruction) : List BodyError :=
  i.defects.map (.instruction position)
    ++ (i.regs.filter fun r => b.registers ≤ r.index).map
      (.registerOutOfRange position · b.registers)
    ++ (i.target?.toList.filter fun t => b.instructions.length ≤ t.index.toNat).map
      (.targetOutOfRange position · b.instructions.length)

/-- All that is wrong with a body. -/
def defects (b : Body) : List BodyError :=
  defectIf (b.instructions = []) .empty
    ++ defectIf (b.registers < b.ins) (.insExceedRegisters b.ins b.registers)
    ++ b.instructions.zipIdx.flatMap fun placed => b.defectsAt placed.2 placed.1

variable (b : Body)

theorem checkInstruction_eq (position : Nat) (i : Instruction) :
    b.checkInstruction position i = firstDefect (b.defectsAt position i) := by
  rw [checkInstruction, defectsAt, List.append_assoc, firstDefect_append, firstDefect_append,
    firstDefect_map, firstDefect_map_filter, firstDefect_map_filter, Instruction.check_eq]
  cases firstDefect i.defects with
  | error cause => rfl
  | ok =>
    cases i.regs.find? fun r => b.registers ≤ r.index with
    | some reg => rfl
    | none =>
      cases i.target? with
      | none => rfl
      | some t =>
        have beyond : (t.index.toNat < b.instructions.length) ↔
            ¬ b.instructions.length ≤ t.index.toNat := Nat.not_le.symm
        simp only [beyond, ite_not, Option.toList_some, List.find?_singleton, decide_eq_true_eq]
        split <;> rfl

theorem checkFrom_eq (k : Nat) (code : List Instruction) :
    b.checkFrom k code =
      firstDefect ((code.zipIdx k).flatMap fun placed => b.defectsAt placed.2 placed.1) := by
  induction code generalizing k with
  | nil => rfl
  | cons i rest ih =>
    rw [checkFrom, List.zipIdx_cons, List.flatMap_cons, firstDefect_append, checkInstruction_eq, ih]
    cases firstDefect (b.defectsAt k i) <;> rfl

/-- The check of a body stops at the first defect. -/
theorem check_eq : b.check = firstDefect b.defects := by
  rw [check, defects, List.append_assoc, firstDefect_append, firstDefect_append,
    firstDefect_defectIf, firstDefect_defectIf, ← checkFrom_eq]
  by_cases empty : b.instructions = []
  · simp [empty]
  · by_cases exceeds : b.registers < b.ins <;> simp [empty, exceeds]

end Body

/-! ### Classes and programs -/

/-- Name and type of a field, which no other field of the class may have. -/
def FieldDecl.key (f : FieldDecl) : String × TypeDesc := (f.name, f.type)

namespace ClassDecl

/-- The fields of a class that agree with an earlier one in name and type. -/
def fieldDefects (c : ClassDecl) : List ProgramError :=
  scan (fun earlier f =>
    defectIf (∃ g ∈ earlier, g.key = f.key) (.duplicateField (f.ref c.type))) c.fields

/-- All that is wrong with the bodies of a class. -/
def bodyDefects (c : ClassDecl) : List ProgramError :=
  c.methods.flatMap fun m =>
    m.body.toList.flatMap fun b => b.defects.map (.invalidBody (m.ref c.type))

end ClassDecl

namespace Program

/-- All that is wrong with a program. -/
def defects (p : Program) : List ProgramError :=
  scan (fun earlier c =>
    defectIf (∃ d ∈ earlier, d.type = c.type) (.duplicateClass c.type)
      ++ c.fieldDefects ++ c.bodyDefects) p.classes

theorem checkFields_eq (owner : TypeDesc) (known : List (String × TypeDesc))
    (fields : List FieldDecl) :
    checkFields owner known fields = firstDefect (scan (fun earlier f =>
      defectIf (f.key ∈ known ∨ ∃ g ∈ earlier, g.key = f.key)
        (.duplicateField (f.ref owner))) fields) := by
  -- The known keys grow by what the scan passes, so they stand beside the earlier fields.
  induction fields generalizing known with
  | nil => rfl
  | cons f rest ih =>
    have step : checkFields owner known (f :: rest) =
        if f.key ∈ known then .error (.duplicateField (f.ref owner))
        else checkFields owner (f.key :: known) rest := rfl
    rw [step, ih, scan_cons, firstDefect_append, firstDefect_defectIf]
    simp only [mem_known_or_earlier_iff, List.not_mem_nil, false_and, exists_false, or_false]
    by_cases repeated : f.key ∈ known
    · rw [if_pos repeated, if_pos repeated]
    · rw [if_neg repeated, if_neg repeated]

theorem checkBodies_eq (c : ClassDecl) :
    checkBodies c.type c.methods = firstDefect c.bodyDefects := by
  rw [ClassDecl.bodyDefects]
  induction c.methods with
  | nil => rfl
  | cons m rest ih =>
    rw [checkBodies, List.flatMap_cons, firstDefect_append, ih]
    cases m.body with
    | none => rfl
    | some b =>
      simp only [Option.toList_some, List.flatMap_singleton, firstDefect_map, Body.check_eq]
      cases firstDefect b.defects <;> rfl

theorem checkClasses_eq (known : List TypeDesc) (classes : List ClassDecl) :
    checkClasses known classes = firstDefect (scan (fun earlier c =>
      defectIf (c.type ∈ known ∨ ∃ d ∈ earlier, d.type = c.type) (.duplicateClass c.type)
        ++ c.fieldDefects ++ c.bodyDefects) classes) := by
  induction classes generalizing known with
  | nil => rfl
  | cons c rest ih =>
    have fields : checkFields c.type [] c.fields = firstDefect c.fieldDefects := by
      simp only [checkFields_eq, ClassDecl.fieldDefects, List.not_mem_nil, false_or]
    rw [checkClasses, ih, fields, checkBodies_eq, scan_cons, List.append_assoc, List.append_assoc,
      firstDefect_append, firstDefect_append, firstDefect_append, firstDefect_defectIf]
    simp only [mem_known_or_earlier_iff, List.not_mem_nil, false_and, exists_false, or_false]
    -- The type comes before the fields, and the fields before the bodies.
    by_cases repeated : c.type ∈ known
    · rw [if_pos repeated, if_pos repeated]
    · rw [if_neg repeated, if_neg repeated]
      cases firstDefect c.fieldDefects with
      | error e => rfl
      | ok => cases firstDefect c.bodyDefects <;> rfl

/-- The check of a program stops at the first defect. -/
theorem check_eq (p : Program) : p.check = firstDefect p.defects := by
  simp only [check, checkClasses_eq, defects, List.not_mem_nil, false_or]

/-- Exactly the well-formed programs can be built from their parts. For all other parts the first
defect is reported. -/
theorem ofClasses_first_defect (package : Option String) (classes : List ClassDecl) :
    (∀ p, ofClasses package classes = .ok p ↔ p = ⟨package, classes⟩ ∧ p.IsWellFormed) ∧
      ∀ e, ofClasses package classes = .error e ↔
        (Program.mk package classes).defects.head? = some e := by
  refine ⟨fun p => ofClasses_eq_ok_iff, fun e => ?_⟩
  rw [← firstDefect_eq_error_iff, ← check_eq, ofClasses]
  cases (Program.mk package classes).check <;> simp

/-- A class with a repeated field, a method without code and a jump out of a frame without
registers is declared twice. -/
example :
    let flag : FieldDecl := ⟨"flag", .boolean, 0⟩
    let idle : MethodDecl := ⟨"idle", [], .void, 0, some ⟨0, 1, []⟩⟩
    let jump : MethodDecl := ⟨"jump", [], .void, 0, some ⟨0, 0, [⟨.ifEqz, [⟨0⟩], .target ⟨7⟩⟩]⟩⟩
    let first : ClassDecl := ⟨⟨"LA;"⟩, none, 0, [flag, flag], [idle, jump]⟩
    (Program.mk none [first, ⟨⟨"LA;"⟩, none, 0, [], []⟩]).defects =
      [.duplicateField (flag.ref first.type),
        .invalidBody (idle.ref first.type) .empty,
        .invalidBody (idle.ref first.type) (.insExceedRegisters 1 0),
        .invalidBody (jump.ref first.type) (.registerOutOfRange 0 ⟨0⟩ 0),
        .invalidBody (jump.ref first.type) (.targetOutOfRange 0 ⟨7⟩ 1),
        .duplicateClass first.type] := by
  decide

end Program

end DexPatch
