import DexPatch.Draft
import DexPatch.Instruction.Make
import DexPatch.Proofs.FirstDefect
import Mathlib.Order.Bounds.Basic

/-!
# Frame sizes

The parts of a draft are set, overwritten and dropped in any order, and what is said last about a
part is what counts. Sizes are computed when the draft is finished, from the flags and the code that
are left then. If the frame size is left open, then the finished body has the least frame with room
for its arguments and every register that its code names, so the checks of the frame cannot fail.

## Main definitions

* `DraftStep.code?`, `DraftStep.static?` — what a step tells about the code and about the receiver
* `Body.FitsIn` — a frame has room for the arguments and the registers of a body

## Main results

* `MethodDraft.foldl_take` — what is said last counts
* `MethodDraft.registers_bodyOf_le_iff` — the frame of a finished body is the least that has room
* `Body.FitsIn.check_eq_ok_iff` — what is left to check in a frame that has room
* `MethodDecl.ofSteps_least_frame` — all of this for every list of steps that leaves the size open
-/

namespace DexPatch

/-! ### What is said last -/

namespace DraftStep

/-- The code that the step leaves behind, if the step is about code. -/
def code? : DraftStep → Option (Option (List Instruction))
  | .code instructions => some (some instructions)
  | .makeAbstract => some none
  | _ => none

/-- Whether the method is static after the step, if the step decides that. -/
def static? : DraftStep → Option Bool
  | .accessFlags flags => some (flags.HasAny .isStatic)
  | .makeStatic => some true
  | _ => none

/-- The registers that the code of the step names, if it has code. -/
def regs : DraftStep → List Reg
  | .code instructions => instructions.flatMap Instruction.regs
  | _ => []

theorem code?_eq_some_some_iff {s : DraftStep} {instructions : List Instruction} :
    s.code? = some (some instructions) ↔ s = .code instructions := by
  cases s <;> simp [code?]

end DraftStep

theorem AccessFlags.hasAny_or {a b mask : AccessFlags} :
    (a ||| b).HasAny mask ↔ a.HasAny mask ∨ b.HasAny mask := by
  have distrib : (a ||| b) &&& mask = a &&& mask ||| b &&& mask :=
    UInt32.toBitVec_inj.mp BitVec.and_or_distrib_right
  rw [HasAny, distrib, Ne, UInt32.or_eq_zero_iff, not_and_or]
  rfl

namespace MethodDraft

variable {α : Type} {part : MethodDraft → α} {d : MethodDraft} {steps : List DraftStep}

/-- What is said last about a part of the draft counts. -/
theorem foldl_take {told : DraftStep → Option α}
    (takes : ∀ d s, part (take d s) = (told s).getD (part d)) (d : MethodDraft)
    (steps : List DraftStep) :
    part (steps.foldl take d) = (steps.filterMap told).getLast?.getD (part d) := by
  induction steps generalizing d with
  | nil => rfl
  | cons s rest ih =>
    rw [List.foldl_cons, ih, takes]
    cases tells : told s with
    | none => rw [List.filterMap_cons_none tells, Option.getD_none]
    | some value =>
      rw [List.filterMap_cons_some tells, List.getLast?_cons, Option.getD_some, Option.getD_some]

/-- What no step is about is left as it was. -/
theorem foldl_take_of_silent (silent : ∀ s ∈ steps, ∀ d, part (take d s) = part d) :
    part (steps.foldl take d) = part d :=
  List.foldlRecOn (motive := fun e => part e = part d) steps take rfl
    fun e same s member => (silent s member e).trans same

theorem params_foldl_take : (steps.foldl take d).params = d.params :=
  foldl_take_of_silent fun s _ _ => by cases s <;> rfl

theorem registers_foldl_take (unsized : ∀ n, .registers n ∉ steps) :
    (steps.foldl take d).registers = d.registers := by
  refine foldl_take_of_silent fun s member _ => ?_
  cases s with
  | registers n => exact absurd member (unsized n)
  | _ => rfl

theorem ins_foldl_take (unset : ∀ n, .ins n ∉ steps) : (steps.foldl take d).ins = d.ins := by
  refine foldl_take_of_silent fun s member _ => ?_
  cases s with
  | ins n => exact absurd member (unset n)
  | _ => rfl

theorem code_foldl_take :
    (steps.foldl take d).code = (steps.filterMap DraftStep.code?).getLast?.getD d.code :=
  @foldl_take _ code _ (fun _ s => by cases s <;> rfl) d steps

theorem static_foldl_take :
    decide ((steps.foldl take d).accessFlags.HasAny .isStatic) =
      (steps.filterMap DraftStep.static?).getLast?.getD (d.accessFlags.HasAny .isStatic) := by
  refine @foldl_take Bool (fun d => d.accessFlags.HasAny .isStatic) _ (fun d s => ?_) d steps
  cases s with
  | makeStatic =>
    have set : AccessFlags.isStatic.HasAny .isStatic := by decide
    exact decide_eq_true (AccessFlags.hasAny_or.mpr (.inr set))
  | makeAbstract =>
    have other : ¬ AccessFlags.isAbstract.HasAny .isStatic := by decide
    exact decide_eq_decide.mpr (AccessFlags.hasAny_or.trans (or_iff_left other))
  | _ => rfl

theorem not_hasAny_start (name : String) (params : List TypeDesc) (ret : TypeDesc) :
    ¬ (start name params ret).accessFlags.HasAny .isStatic := by
  change ¬ AccessFlags.HasAny (if _ then _ else _) .isStatic
  split <;> decide

end MethodDraft

/-! ### Frames with room -/

namespace Body

variable {b : Body} {ins registers : UInt16} {position : Nat} {r : Reg}

/-- A frame of `n` registers has room for the arguments of the body and for every register that its
code names. -/
def FitsIn (b : Body) (n : Nat) : Prop :=
  b.ins.toNat ≤ n ∧ ∀ i ∈ b.instructions, ∀ r ∈ i.regs, r.index.toNat < n

instance (b : Body) (n : Nat) : Decidable (b.FitsIn n) := inferInstanceAs (Decidable (_ ∧ _))

theorem lt_ins_of_mem_defects (defect : .insExceedRegisters ins registers ∈ b.defects) :
    b.registers < b.ins := by
  have exceeds : b.registers < b.ins ∧ ins = b.ins ∧ registers = b.registers := by
    simpa [defects, defectsAt, defectIf] using defect
  exact exceeds.1

theorem exists_beyond_of_mem_defects
    (defect : .registerOutOfRange position r registers ∈ b.defects) :
    ∃ i ∈ b.instructions, r ∈ i.regs ∧ b.registers ≤ r.index := by
  obtain ⟨i, there, beyond, _⟩ : ∃ i, (i, position) ∈ b.instructions.zipIdx ∧
      (r ∈ i.regs ∧ b.registers ≤ r.index) ∧ b.registers = registers := by
    simpa [defects, defectsAt, defectIf] using defect
  exact ⟨i, List.fst_mem_of_mem_zipIdx there, beyond⟩

theorem mem_defects_of_check_eq_error {e : BodyError} (failed : b.check = .error e) :
    e ∈ b.defects :=
  List.mem_of_head? (firstDefect_eq_error_iff.mp (b.check_eq.symm.trans failed))

namespace FitsIn

variable (fits : b.FitsIn b.registers.toNat)
include fits

theorem ins_le : b.ins ≤ b.registers := UInt16.le_iff_toNat_le.mpr fits.1

theorem lt_registers {i : Instruction} (hi : i ∈ b.instructions) (hr : r ∈ i.regs) :
    r.index < b.registers :=
  UInt16.lt_iff_toNat_lt.mpr (fits.2 i hi r hr)

theorem check_ne_insExceedRegisters : b.check ≠ .error (.insExceedRegisters ins registers) :=
  fun failed =>
    UInt16.not_lt.mpr fits.ins_le (lt_ins_of_mem_defects (mem_defects_of_check_eq_error failed))

theorem check_ne_registerOutOfRange :
    b.check ≠ .error (.registerOutOfRange position r registers) := by
  intro failed
  obtain ⟨i, hi, hr, beyond⟩ :=
    exists_beyond_of_mem_defects (mem_defects_of_check_eq_error failed)
  exact UInt16.not_lt.mpr beyond (fits.lt_registers hi hr)

/-- In a frame that has room nothing is left to check but the code itself. -/
theorem check_eq_ok_iff :
    b.check = .ok () ↔
      b.instructions ≠ [] ∧ (∀ i ∈ b.instructions, i.check = .ok ()) ∧
        ∀ i ∈ b.instructions, ∀ t ∈ i.target?, t.index.toNat < b.instructions.length := by
  rw [Body.check_eq_ok_iff]
  constructor
  · rintro ⟨nonempty, _, admits⟩
    exact ⟨nonempty, fun i hi => Instruction.check_eq_ok_iff.mpr (admits i hi).operands,
      fun i hi => (admits i hi).target⟩
  · rintro ⟨nonempty, operands, targets⟩
    refine ⟨nonempty, fits.ins_le, fun i hi => ⟨?_, ?_, targets i hi⟩⟩
    · exact Instruction.check_eq_ok_iff.mp (operands i hi)
    · exact fun r hr => fits.lt_registers hi hr

end FitsIn

end Body

/-! ### The least frame -/

namespace MethodDraft

variable {d : MethodDraft} {code : List Instruction} {n : Nat}

theorem toNat_max (a b : UInt16) : (max a b).toNat = max a.toNat b.toNat := by
  rw [UInt16.max_def, Nat.max_def]
  simp only [UInt16.le_iff_toNat_le]
  split <;> rfl

/-- Registers below the last index can be counted past without an overflow. -/
theorem toNat_foldl_max_le_iff {regs : List Reg} {size : UInt16}
    (inner : ∀ r ∈ regs, r.index ≠ 65535) :
    (regs.foldl (fun size r => max size (r.index + 1)) size).toNat ≤ n ↔
      size.toNat ≤ n ∧ ∀ r ∈ regs, r.index.toNat < n := by
  induction regs generalizing size with
  | nil => simp
  | cons r rest ih =>
    obtain ⟨first, others⟩ := List.forall_mem_cons.mp inner
    have above : (r.index + 1).toNat = r.index.toNat + 1 := by
      have small : r.index.toNat ≠ 65535 := fun same => first (UInt16.toNat_inj.mp same)
      have bound := r.index.toNat_lt
      rw [UInt16.toNat_add]
      exact Nat.mod_eq_of_lt (by change _ + 1 < _; omega)
    rw [List.foldl_cons, ih others, toNat_max, above, Nat.max_le, Nat.succ_le_iff,
      List.forall_mem_cons, and_assoc]

/-- The frame that a finished body gets is the least that has room. -/
theorem registers_bodyOf_le_iff (unsized : d.registers = none)
    (inner : ∀ r ∈ code.flatMap Instruction.regs, r.index ≠ 65535) :
    (d.bodyOf code).registers.toNat ≤ n ↔ (d.bodyOf code).FitsIn n := by
  have used : (usedRegisters code).toNat ≤ n ↔
      0 ≤ n ∧ ∀ r ∈ code.flatMap Instruction.regs, r.index.toNat < n :=
    toNat_foldl_max_le_iff inner
  rw [bodyOf, unsized, Option.getD_none, toNat_max, Nat.max_le, used, List.forall_mem_flatMap,
    and_iff_right n.zero_le, and_comm]
  rfl

theorem isLeast_registers_bodyOf (unsized : d.registers = none)
    (inner : ∀ r ∈ code.flatMap Instruction.regs, r.index ≠ 65535) :
    IsLeast {n | (d.bodyOf code).FitsIn n} (d.bodyOf code).registers.toNat :=
  ⟨(registers_bodyOf_le_iff unsized inner).mp (Nat.le_refl _),
    fun _ fits => (registers_bodyOf_le_iff unsized inner).mpr fits⟩

theorem toNat_argumentCount (few : d.params.length < 65535) :
    d.argumentCount.toNat =
      d.params.length + if d.accessFlags.HasAny .isStatic then 0 else 1 := by
  have receiver : (if d.accessFlags.HasAny .isStatic then 0 else 1 : UInt16).toNat =
      if d.accessFlags.HasAny .isStatic then 0 else 1 := by
    split <;> rfl
  rw [argumentCount, UInt16.toNat_add, UInt16.toNat_ofNat', receiver]
  split <;> omega

end MethodDraft

/-! ### Finished methods -/

namespace MethodDecl

variable {name : String} {params : List TypeDesc} {ret : TypeDesc} {steps : List DraftStep}
  {b : Body}

/-- A finished method is static if the last step that decides this makes it so. -/
theorem isStatic_ofSteps_iff :
    (ofSteps name params ret steps).IsStatic ↔
      (steps.filterMap DraftStep.static?).getLast? = some true := by
  have last := @MethodDraft.static_foldl_take (.start name params ret) steps
  rw [decide_eq_false (MethodDraft.not_hasAny_start name params ret)] at last
  rw [IsStatic, ofSteps, MethodDraft.finish, ← @decide_eq_true_iff (AccessFlags.HasAny _ _), last]
  cases (steps.filterMap DraftStep.static?).getLast? <;> simp

/-- A finished method has a body if the last step about code gives code. -/
theorem body_ofSteps_eq_some_iff :
    (ofSteps name params ret steps).body = some b ↔ ∃ code,
      (steps.filterMap DraftStep.code?).getLast? = some (some code) ∧
        (steps.foldl MethodDraft.take (.start name params ret)).bodyOf code = b := by
  have given (code : List Instruction) :
      (steps.foldl MethodDraft.take (.start name params ret)).code = some code ↔
        (steps.filterMap DraftStep.code?).getLast? = some (some code) := by
    rw [MethodDraft.code_foldl_take]
    change Option.getD _ none = _ ↔ _
    cases (steps.filterMap DraftStep.code?).getLast? <;> simp
  rw [ofSteps, MethodDraft.finish, Option.map_eq_some_iff]
  simp only [given]

theorem isSome_body_ofSteps_iff :
    (ofSteps name params ret steps).body.isSome ↔
      ∃ code, (steps.filterMap DraftStep.code?).getLast? = some (some code) := by
  rw [Option.isSome_iff_exists]
  constructor
  · rintro ⟨b, finished⟩
    obtain ⟨code, last, _⟩ := body_ofSteps_eq_some_iff.mp finished
    exact ⟨code, last⟩
  · rintro ⟨code, last⟩
    exact ⟨_, body_ofSteps_eq_some_iff.mpr ⟨code, last, rfl⟩⟩

section Finished

variable (finished : (ofSteps name params ret steps).body = some b)
include finished

theorem last_code_of_body_ofSteps :
    (steps.filterMap DraftStep.code?).getLast? = some (some b.instructions) := by
  obtain ⟨code, last, rfl⟩ := body_ofSteps_eq_some_iff.mp finished
  exact last

/-- The arguments are counted by the flags that the method has in the end. -/
theorem toNat_ins_of_body_ofSteps (few : params.length < 65535) (unset : ∀ n, .ins n ∉ steps) :
    b.ins.toNat =
      params.length + if (ofSteps name params ret steps).IsStatic then 0 else 1 := by
  obtain ⟨code, _, rfl⟩ := body_ofSteps_eq_some_iff.mp finished
  have same : (steps.foldl MethodDraft.take (.start name params ret)).params = params :=
    MethodDraft.params_foldl_take
  have count := MethodDraft.toNat_argumentCount (same.symm ▸ few)
  rw [same] at count
  rw [MethodDraft.bodyOf, MethodDraft.ins_foldl_take unset]
  exact count

theorem isLeast_registers_of_body_ofSteps (unsized : ∀ n, .registers n ∉ steps)
    (inner : ∀ s ∈ steps, ∀ r ∈ s.regs, r.index ≠ 65535) :
    IsLeast {n | b.FitsIn n} b.registers.toNat := by
  obtain ⟨code, last, rfl⟩ := body_ofSteps_eq_some_iff.mp finished
  -- The code of the body comes from one of the steps, so its registers can be counted.
  have given : .code code ∈ steps := by
    obtain ⟨s, member, gives⟩ := List.mem_filterMap.mp (List.mem_of_getLast? last)
    exact DraftStep.code?_eq_some_some_iff.mp gives ▸ member
  exact MethodDraft.isLeast_registers_bodyOf (MethodDraft.registers_foldl_take unsized)
    (inner _ given)

end Finished

/-- A method that is finished with its frame size left open has a body if the last step about code
gives code. Its arguments are counted by the flags that it has in the end, and its frame is the
least with room for them and for every register of the code. So the check of the body reports
nothing about the frame, and passes if there is code and nothing is wrong with it. -/
theorem ofSteps_least_frame (name : String) (ret : TypeDesc) (few : params.length < 65535)
    (unsized : ∀ n, .registers n ∉ steps)
    (inner : ∀ s ∈ steps, ∀ r ∈ s.regs, r.index ≠ 65535) :
    let m := ofSteps name params ret steps
    let lastCode := (steps.filterMap DraftStep.code?).getLast?
    (m.body.isSome ↔ ∃ code, lastCode = some (some code)) ∧
      (m.IsStatic ↔ (steps.filterMap DraftStep.static?).getLast? = some true) ∧
      ∀ b, m.body = some b →
        lastCode = some (some b.instructions) ∧
        ((∀ n, .ins n ∉ steps) → b.ins.toNat = params.length + if m.IsStatic then 0 else 1) ∧
        IsLeast {n | b.FitsIn n} b.registers.toNat ∧
        (∀ ins registers, b.check ≠ .error (.insExceedRegisters ins registers)) ∧
        (∀ position r registers, b.check ≠ .error (.registerOutOfRange position r registers)) ∧
        (b.check = .ok () ↔
          b.instructions ≠ [] ∧ (∀ i ∈ b.instructions, i.check = .ok ()) ∧
            ∀ i ∈ b.instructions, ∀ t ∈ i.target?, t.index.toNat < b.instructions.length) := by
  intro m lastCode
  refine ⟨isSome_body_ofSteps_iff, isStatic_ofSteps_iff, fun b finished => ?_⟩
  have least := isLeast_registers_of_body_ofSteps finished unsized inner
  have fits : b.FitsIn b.registers.toNat := least.1
  exact ⟨last_code_of_body_ofSteps finished, toNat_ins_of_body_ofSteps finished few, least,
    fun _ _ => fits.check_ne_insExceedRegisters, fun _ _ _ => fits.check_ne_registerOutOfRange,
    fits.check_eq_ok_iff⟩

/-- Flags that come after the code, code that is dropped and given anew, and a register above the
arguments. -/
theorem ofSteps_least_frame_static_at_last :
    let code : List Instruction := [.constInt ⟨3⟩ 1, .ret ⟨3⟩]
    let steps : List DraftStep :=
      [.code [.retVoid], .makeAbstract, .code code, .accessFlags .isPublic, .makeStatic]
    let m := ofSteps "level" [.int] .int steps
    m.body = some ⟨4, 1, code⟩ ∧ m.IsStatic ∧
      IsLeast {n | (⟨4, 1, code⟩ : Body).FitsIn n} 4 ∧ (⟨4, 1, code⟩ : Body).check = .ok () := by
  intro code steps m
  obtain ⟨-, static, sized⟩ :=
    @ofSteps_least_frame [.int] steps "level" .int (by decide) (by simp [steps]) (by decide)
  have finished : m.body = some ⟨4, 1, code⟩ := by decide
  obtain ⟨-, -, least, -, -, accepted⟩ := sized _ finished
  exact ⟨finished, static.mpr rfl, least, accepted.mpr (by decide)⟩

end MethodDecl

end DexPatch
