import DexPatch.Proofs.Mutation

/-!
# Replacement in place

An instruction that is replaced in place is checked alone, against the frame and the length of
the body that it enters. Putting a whole body in place that differs in this one instruction has
everything checked again, from the first instruction on. In a well-formed program the two agree
in all that they answer: what the other instructions are checked against has not changed, so none
of them can be refused, and the first defect of the long way is the only one of the short way.

## Main definitions

* `BodyError.position?` — the position that a defect is found at

## Main results

* `Body.checkFrom_append` — the check passes over code that fits
* `Body.check_set` — checking a body again after one replacement is checking the new instruction
* `replaceInstruction_cases_of_isWellFormed` — both ways at once
* `replaceInstruction_agrees` — the two ways of replacing an instruction agree
-/

namespace DexPatch

open Program

/-- The position that a defect is found at, if it is one of an instruction. -/
def BodyError.position? : BodyError → Option Nat
  | empty | insExceedRegisters _ _ => none
  | instruction position _ => some position
  | registerOutOfRange position _ _ => some position
  | targetOutOfRange position _ _ => some position

namespace Body

variable {b b' : Body} {i : Instruction} {position k : Nat} {before rest : List Instruction}

/-- Only the frame and the number of the other instructions count. -/
theorem checkInstruction_congr (registers : b'.registers = b.registers)
    (length : b'.instructions.length = b.instructions.length) :
    b'.checkInstruction position i = b.checkInstruction position i := by
  rw [checkInstruction, checkInstruction, registers, length]

/-- A defect of an instruction is found at its position. -/
theorem position?_of_checkInstruction {cause : BodyError}
    (refused : b.checkInstruction position i = .error cause) :
    cause.position? = some position := by
  unfold checkInstruction at refused
  split at refused
  · obtain rfl := Except.error.inj refused
    rfl
  · split at refused
    · obtain rfl := Except.error.inj refused
      rfl
    · split at refused
      · contradiction
      · split at refused
        · contradiction
        · obtain rfl := Except.error.inj refused
          rfl

/-- The check passes over code that fits, and goes on after it. -/
theorem checkFrom_append (fits : ∀ j ∈ before, b.Admits j) :
    b.checkFrom k (before ++ rest) = b.checkFrom (k + before.length) rest := by
  induction before generalizing k with
  | nil => rfl
  | cons j before ih =>
    obtain ⟨first, others⟩ := List.forall_mem_cons.mp fits
    have next : k + 1 + before.length = k + (j :: before).length := by
      rw [List.length_cons]
      omega
    rw [List.cons_append, checkFrom, checkInstruction_eq_ok_iff.mpr first, ← next]
    exact ih others

/-- Code that fits from its second instruction on has the defects of its first one. -/
theorem checkFrom_cons_of_admits (fits : ∀ j ∈ rest, b.Admits j) :
    b.checkFrom k (i :: rest) = b.checkInstruction k i := by
  rw [checkFrom]
  cases b.checkInstruction k i with
  | error cause => rfl
  | ok => exact checkFrom_eq_ok_iff.mpr fits

/-- Checking a well-formed body again after one replacement is checking the new instruction. -/
theorem check_set (wellFormed : b.IsWellFormed) (inside : position < b.instructions.length) :
    (b.set position i).check = b.checkInstruction position i := by
  have length : (b.set position i).instructions.length = b.instructions.length :=
    List.length_set
  -- The frame is the old one and so is the length, so the other instructions fit as before.
  have others : ∀ j ∈ b.instructions, (b.set position i).Admits j := by
    intro j hj
    exact (wellFormed.admits j hj).congr rfl length
  have split : (b.set position i).instructions =
      b.instructions.take position ++ i :: b.instructions.drop (position + 1) :=
    List.set_eq_take_append_cons_drop.trans (if_pos inside)
  have nonempty : (b.set position i).instructions ≠ [] := by
    rw [split]
    simp
  have here : 0 + (b.instructions.take position).length = position := by
    rw [List.length_take]
    omega
  calc (b.set position i).check
      = (b.set position i).checkFrom 0 (b.set position i).instructions := by
        rw [check, if_neg (by simpa using nonempty)]
        exact if_neg (UInt16.not_lt.mpr wellFormed.ins_le)
    _ = (b.set position i).checkFrom position (i :: b.instructions.drop (position + 1)) := by
        rw [split, checkFrom_append fun j hj => others j (List.mem_of_mem_take hj), here]
    _ = (b.set position i).checkInstruction position i :=
        checkFrom_cons_of_admits fun j hj => others j (List.mem_of_mem_drop hj)
    _ = b.checkInstruction position i := checkInstruction_congr rfl length

end Body

variable {p : Program} {id : MethodId} {m : MethodDecl} {b : Body} {position : Nat}

/-- An instruction is refused in both ways, for the same reason, or accepted in both ways. -/
theorem replaceInstruction_cases_of_isWellFormed (wellFormed : p.IsWellFormed)
    (found : p.method? id = some m) (has : m.body = some b)
    (inside : position < b.instructions.length) (i : Instruction) :
    (∃ method cause, p.methodRef? id = some method ∧
        b.checkInstruction position i = .error cause ∧
        (replaceInstruction id position i).run p = (.error (.invalidBody method cause), p) ∧
        (replaceBody id (b.set position i)).run p = (.error (.invalidBody method cause), p)) ∨
      ∃ previous, b.instructions[position]? = some previous ∧
        (replaceInstruction id position i).run p =
          (.ok previous, p.setBody id (b.set position i)) ∧
        (replaceBody id (b.set position i)).run p =
          (.ok b, p.setBody id (b.set position i)) := by
  obtain ⟨owner, located⟩ := exists_locate?_of_method? found
  have there : b.instructions[position]? = some b.instructions[position] :=
    List.getElem?_eq_getElem inside
  have long := Body.check_set (i := i) (wellFormed.body found has) inside
  cases short : b.checkInstruction position i with
  | error cause =>
    refine .inl ⟨m.ref owner, cause, by simp [methodRef?, located], rfl, ?_, ?_⟩
    · simp [replaceInstruction, located, has, there, short]
    · simp [replaceBody, located, has, long, short]
  | ok =>
    refine .inr ⟨_, there, ?_, ?_⟩
    · simp [replaceInstruction, located, has, there, short]
    · simp [replaceBody, located, has, long, short]

/-- Replacing an instruction in place succeeds if and only if putting the changed body in place
does, and leaves the same program then. Otherwise both report the same defect of the same method
at the position of the instruction, and leave the program alone. -/
theorem replaceInstruction_agrees {package : Option String} {classes : List ClassDecl}
    (accepted : Program.ofClasses package classes = .ok p) (found : p.method? id = some m)
    (has : m.body = some b) (inside : position < b.instructions.length) (i : Instruction) :
    ((∃ previous q, (replaceInstruction id position i).run p = (.ok previous, q)) ↔
        ∃ previous q, (replaceBody id (b.set position i)).run p = (.ok previous, q)) ∧
      (∀ previous q, (replaceInstruction id position i).run p = (.ok previous, q) →
        b.instructions[position]? = some previous ∧
          (replaceBody id (b.set position i)).run p = (.ok b, q)) ∧
      ∀ e q, (replaceInstruction id position i).run p = (.error e, q) →
        q = p ∧ (replaceBody id (b.set position i)).run p = (.error e, p) ∧
          ∃ method cause, p.methodRef? id = some method ∧ e = .invalidBody method cause ∧
            cause.position? = some position ∧ b.checkInstruction position i = .error cause := by
  have wellFormed := (Program.ofClasses_eq_ok_iff.mp accepted).2
  rcases replaceInstruction_cases_of_isWellFormed wellFormed found has inside i with
    ⟨method, cause, named, refused, short, long⟩ | ⟨previous, there, short, long⟩
  · rw [short, long]
    refine ⟨by simp, by simp, ?_⟩
    intro e q answer
    obtain ⟨same, rfl⟩ := Prod.mk.inj answer
    obtain rfl := Except.error.inj same
    exact ⟨rfl, rfl, method, cause, named, rfl, Body.position?_of_checkInstruction refused,
      refused⟩
  · rw [short, long]
    refine ⟨by simp, ?_, by simp⟩
    intro answered q answer
    obtain ⟨same, rfl⟩ := Prod.mk.inj answer
    obtain rfl := Except.ok.inj same
    exact ⟨there, rfl⟩

/-- A load that fits the body, and a jump beyond its end, after a branch that stays. -/
theorem replaceInstruction_agrees_load_and_jump :
    let branch : Instruction := .branchZero .ifEqz ⟨0⟩ ⟨2⟩
    let body : Body := ⟨1, 0, [branch, .nop, .ret ⟨0⟩]⟩
    let getter : MethodDecl := ⟨"get", [], .boolean, 0, some body⟩
    let p : Program := ⟨none, [⟨⟨"LA;"⟩, none, 0, [], [getter]⟩]⟩
    let get : MethodId := ⟨⟨0⟩, 0⟩
    Program.ofClasses p.package p.classes = .ok p ∧ p.method? get = some getter ∧
      getter.body = some body ∧ 1 < body.instructions.length ∧
      (∃ q, (replaceInstruction get 1 (.constZero ⟨0⟩)).run p = (.ok .nop, q) ∧
        (replaceBody get (body.set 1 (.constZero ⟨0⟩))).run p = (.ok body, q)) ∧
      ∃ e, (replaceInstruction get 1 (.goto ⟨3⟩)).run p = (.error e, p) ∧
        (replaceBody get (body.set 1 (.goto ⟨3⟩))).run p = (.error e, p) := by
  intro branch body getter p get
  have accepted : Program.ofClasses p.package p.classes = .ok p := rfl
  have found : p.method? get = some getter := rfl
  have inside : 1 < body.instructions.length := by decide
  have agrees := replaceInstruction_agrees accepted found rfl inside
  have load : (replaceInstruction get 1 (.constZero ⟨0⟩)).run p =
      (.ok .nop, p.setBody get (body.set 1 (.constZero ⟨0⟩))) := rfl
  have jump : (replaceInstruction get 1 (.goto ⟨3⟩)).run p =
      (.error (.invalidBody (getter.ref ⟨"LA;"⟩) (.targetOutOfRange 1 ⟨3⟩ 3)), p) := rfl
  exact ⟨accepted, found, rfl, inside,
    ⟨_, load, ((agrees (.constZero ⟨0⟩)).2.1 _ _ load).2⟩,
    _, jump, ((agrees (.goto ⟨3⟩)).2.2 _ _ jump).2.1⟩

end DexPatch
