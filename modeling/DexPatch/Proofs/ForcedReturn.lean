import DexPatch.EditPlan
import DexPatch.Proofs.IntegerLoad
import DexPatch.Proofs.Mutation

/-!
# Forced returns

The minimal body fits every frame that fits its arguments, so a forced return can fail only
for want of a body or because the value is of the wrong kind. A plan that avoids both, and
names no method twice, is carried out in full whatever else the program holds.

## Main definitions

* `MethodDecl.forced` — a method made to return a value
* `ForceStep` — what is left to do for a forced return once the method has been looked up
* `PlannedEdit.Fits`, `PlannedEdit.IsDone` — an edit can be made, or has been made already
* `Program.forceEach` — the program with all edits of a plan made

## Main results

* `isWellFormed_minimalBody` — the minimal body passes the checks
* `exists_forceStep` — all that a forced return can do
* `run_forceReturn` — what a fitting forced return does
* `exists_run_forceReturn_iff` — which forced returns succeed
* `run_applyPlan` — what a fitting plan does, and what it counts
* `PlannedEdit.isDone_forceEach` — a plan that is carried out is done
-/

namespace DexPatch

open Program

variable {p q : Program} {id : MethodId} {m : MethodDecl} {value : ReturnValue}
  {registers ins : UInt16} {e : PlannedEdit} {plan : List PlannedEdit}

/-! ### Minimal bodies -/

/-- Either nothing is loaded, or an integer is loaded into the first register and returned. -/
theorem returnCode_cases (value : ReturnValue) :
    value = .void ∧ returnCode value = [.retVoid] ∨
      value ≠ .void ∧ ∃ loaded final, returnCode value = [.constInt ⟨0⟩ loaded, final] ∧
        (final = .ret ⟨0⟩ ∨ final = .retObject ⟨0⟩) := by
  cases value with
  | void => exact .inl ⟨rfl, rfl⟩
  | boolean b => exact .inr ⟨nofun, _, _, rfl, .inl rfl⟩
  | integer v => exact .inr ⟨nofun, _, _, rfl, .inl rfl⟩
  | null => exact .inr ⟨nofun, _, _, rfl, .inr rfl⟩

theorem not_reads_of_mem_returnCode {i : Instruction} {f : FieldRef}
    (hi : i ∈ returnCode value) : ¬ i.Reads f := by
  rcases returnCode_cases value with ⟨_, code⟩ | ⟨_, loaded, final, code, returns⟩
  · rw [code, List.mem_singleton] at hi
    subst hi
    exact nofun
  · simp only [code, List.mem_cons, List.not_mem_nil, or_false] at hi
    rcases hi with rfl | rfl
    · exact Instruction.not_reads_constInt f
    · rcases returns with rfl | rfl <;> exact nofun

theorem max_one_cases (registers : UInt16) :
    max registers 1 = 1 ∧ registers ≤ 1 ∨ max registers 1 = registers ∧ 1 < registers := by
  change (if registers ≤ 1 then 1 else registers) = 1 ∧ _ ∨
    (if registers ≤ 1 then 1 else registers) = registers ∧ _
  by_cases small : registers ≤ 1
  · exact .inl ⟨if_pos small, small⟩
  · exact .inr ⟨if_neg small, UInt16.not_le.mp small⟩

theorem registers_minimalBody (loads : value ≠ .void) :
    (minimalBody value registers ins).registers = max registers 1 := if_neg loads

theorem le_registers_minimalBody : registers ≤ (minimalBody value registers ins).registers := by
  by_cases loads : value = .void
  · rw [minimalBody, if_pos loads]
    exact UInt16.le_refl registers
  · rw [registers_minimalBody loads]
    rcases max_one_cases registers with ⟨same, small⟩ | ⟨same, _⟩
    · rwa [same]
    · rw [same]
      exact UInt16.le_refl registers

/-- A frame that has grown for a value does not grow again. -/
theorem minimalBody_minimalBody :
    minimalBody value (minimalBody value registers ins).registers ins =
      minimalBody value registers ins := by
  by_cases loads : value = .void
  · simp [minimalBody, loads]
  · have grown : max (max registers 1) 1 = max registers 1 := by
      rcases max_one_cases registers with ⟨same, _⟩ | ⟨same, _⟩
      · rw [same]
        rfl
      · rw [same, same]
    simp [minimalBody, loads, grown]

theorem ReturnValue.kind_eq_void_iff : value.kind = .void ↔ value = .void := by
  cases value <;> simp [kind]

/-- Of two values of a kind, the second one finds the frame that it makes by itself. -/
theorem minimalBody_of_kind {w : ReturnValue} (same : w.kind = value.kind)
    (registers ins : UInt16) :
    minimalBody value (minimalBody w registers ins).registers ins =
      minimalBody value registers ins := by
  have void : w = .void ↔ value = .void := by
    rw [← ReturnValue.kind_eq_void_iff, same, ReturnValue.kind_eq_void_iff]
  -- Both need the same frame, so the second one finds the one that it has made.
  have frame : (minimalBody w registers ins).registers =
      (minimalBody value registers ins).registers := by
    simp only [minimalBody, void]
  rw [frame, minimalBody_minimalBody]

theorem Body.admits_retVoid {b : Body} : b.Admits .retVoid := by
  refine ⟨⟨rfl, ?_, rfl⟩, ?_, ?_⟩ <;> simp [Instruction.retVoid, Instruction.target?]

theorem Body.admits_return {b : Body} {final : Instruction} {src : Reg}
    (returns : final = .ret src ∨ final = .retObject src) (inFrame : src.index < b.registers)
    (narrow : src.index.toNat < 256) : b.Admits final := by
  rcases returns with rfl | rfl <;> refine ⟨⟨rfl, ?_, rfl⟩, ?_, ?_⟩ <;>
    simp [Instruction.ret, Instruction.retObject, Opcode.format, Instruction.target?, inFrame,
      narrow]

/-- The minimal body passes the checks in every frame that has room for the arguments. -/
theorem isWellFormed_minimalBody (ins_le : ins ≤ registers) :
    (minimalBody value registers ins).IsWellFormed := by
  refine ⟨?_, UInt16.le_trans ins_le le_registers_minimalBody, ?_⟩
  · rcases returnCode_cases value with ⟨_, code⟩ | ⟨_, loaded, final, code, _⟩ <;>
      simp [minimalBody, code]
  · intro i hi
    change i ∈ returnCode value at hi
    rcases returnCode_cases value with ⟨_, code⟩ | ⟨loads, loaded, final, code, returns⟩
    · rw [code, List.mem_singleton] at hi
      exact hi ▸ Body.admits_retVoid
    · have room : (0 : UInt16) < (minimalBody value registers ins).registers := by
        rw [registers_minimalBody loads]
        rcases max_one_cases registers with ⟨same, _⟩ | ⟨same, big⟩
        · rw [same]
          decide
        · rw [same]
          exact UInt16.lt_trans (by decide) big
      simp only [code, List.mem_cons, List.not_mem_nil, or_false] at hi
      rcases hi with rfl | rfl
      · exact .constInt room (by decide) loaded
      · exact Body.admits_return returns room (by decide)

/-! ### One method -/

/-- The method made to return `value` and do nothing else. -/
def MethodDecl.forced (value : ReturnValue) (m : MethodDecl) : MethodDecl :=
  { m with body := m.body.map fun b => minimalBody value b.registers b.ins }

namespace MethodDecl

@[simp]
theorem outline_forced : (m.forced value).outline = m.outline := by
  simp [outline, forced, Function.comp_def]

/-- Of two values of a kind, the later one wins. -/
theorem forced_forced_of_kind {w : ReturnValue} (same : w.kind = value.kind) :
    (m.forced w).forced value = m.forced value := by
  simp only [forced, Option.map_map]
  congr 2
  funext b
  exact minimalBody_of_kind same b.registers b.ins

theorem forced_forced : (m.forced value).forced value = m.forced value :=
  forced_forced_of_kind rfl

theorem mem_returnCode_of_mem_code_forced {i : Instruction} (hi : i ∈ (m.forced value).code) :
    i ∈ returnCode value := by
  cases hb : m.body with
  | none => simp [code, forced, hb] at hi
  | some b => simpa [code, forced, hb, minimalBody] using hi

end MethodDecl

/-- What is left to do for a forced return once the method has been looked up. -/
inductive ForceStep (id : MethodId) (value : ReturnValue) :
    Option (TypeDesc × MethodDecl) → Edit EditError ForceOutcome → Prop
  | unknownMethod : ForceStep id value none (.fail (.program (.unknownMethod id)))
  | returnKindMismatch {owner : TypeDesc} {m : MethodDecl} (kind : value.kind ≠ m.returnKind) :
      ForceStep id value (some (owner, m))
        (.fail (.returnKindMismatch (m.ref owner) m.returnKind value))
  | missingBody {owner : TypeDesc} {m : MethodDecl} (kind : value.kind = m.returnKind)
      (none : m.body = none) : ForceStep id value (some (owner, m)) (.fail (.missingBody (m.ref owner)))
  | unchanged {owner : TypeDesc} {m : MethodDecl} {b : Body} (kind : value.kind = m.returnKind)
      (has : m.body = some b) (minimal : minimalBody value b.registers b.ins = b) :
      ForceStep id value (some (owner, m)) (pure .unchanged)
  | changed {owner : TypeDesc} {m : MethodDecl} {b : Body} (kind : value.kind = m.returnKind)
      (has : m.body = some b) (other : minimalBody value b.registers b.ins ≠ b) :
      ForceStep id value (some (owner, m)) (do
        let _ ← (replaceBody id (minimalBody value b.registers b.ins)).mapError .program
        return .changed)

/-- A forced return looks up the method and does what is then left to do. -/
theorem exists_forceStep (id : MethodId) (value : ReturnValue)
    (located : Option (TypeDesc × MethodDecl)) :
    ∃ rest, ForceStep id value located rest ∧
      ∀ p : Program, p.locate? id = located → (forceReturn id value).run p = rest.run p := by
  cases located with
  | none =>
    exact ⟨_, .unknownMethod, fun p there => by simp [forceReturn, Edit.run_bind, there]⟩
  | some found =>
    obtain ⟨owner, m⟩ := found
    by_cases kind : value.kind = m.returnKind
    · cases has : m.body with
      | none =>
        exact ⟨_, .missingBody kind has, fun p there => by
          simp [forceReturn, Edit.run_bind, there, kind, has]⟩
      | some b =>
        by_cases minimal : minimalBody value b.registers b.ins = b
        · exact ⟨_, .unchanged kind has minimal, fun p there => by
            simp [forceReturn, Edit.run_bind, there, kind, has, minimal]⟩
        · exact ⟨_, .changed kind has minimal, fun p there => by
            simp [forceReturn, Edit.run_bind, there, kind, has, minimal]⟩
    · exact ⟨_, .returnKindMismatch kind, fun p there => by
        simp [forceReturn, Edit.run_bind, there, kind]⟩

/-- A method that has a body and returns a value of the right kind can be made to return it. -/
theorem run_forceReturn (wellFormed : p.IsWellFormed) (found : p.method? id = some m)
    (kind : value.kind = m.returnKind) (has : m.body.isSome) :
    (forceReturn id value).run p =
      (.ok (if m.forced value = m then .unchanged else .changed),
        p.modifyMethod id (·.forced value)) := by
  obtain ⟨owner, located⟩ := exists_locate?_of_method? found
  -- The edit compares bodies, the statement whole methods.
  have done {b : Body} (has : m.body = some b) :
      m.forced value = m ↔ minimalBody value b.registers b.ins = b := by
    obtain ⟨name, params, ret, flags, body⟩ := m
    obtain rfl : body = some b := has
    simp [MethodDecl.forced]
  obtain ⟨rest, step, run⟩ := exists_forceStep id value (some (owner, m))
  rw [run p located]
  cases step with
  | returnKindMismatch other => exact absurd kind other
  | missingBody _ none => simp [none] at has
  | unchanged _ has minimal =>
    rw [if_pos ((done has).mpr minimal),
      (modifyMethod_eq_self_iff found).mpr ((done has).mpr minimal)]
    rfl
  | @changed _ _ b _ has other =>
    have good : (minimalBody value b.registers b.ins).IsWellFormed :=
      isWellFormed_minimalBody (wellFormed.body found has).ins_le
    have put : p.setBody id (minimalBody value b.registers b.ins) =
        p.modifyMethod id (·.forced value) := modifyMethod_congr fun n hn => by
      obtain rfl := Option.some.inj (found.symm.trans hn)
      rw [MethodDecl.forced, has, Option.map_some]
    rw [if_neg (mt (done has).mp other), Edit.run_bind, Edit.run_mapError,
      run_replaceBody found has good, put]
    rfl

/-- A forced return succeeds for a method that has a body and returns a value of that kind. -/
theorem exists_run_forceReturn_iff (wellFormed : p.IsWellFormed) :
    (∃ outcome, (forceReturn id value).run p = (.ok outcome, q)) ↔
      ∃ m, p.method? id = some m ∧ value.kind = m.returnKind ∧ m.body.isSome ∧
        q = p.modifyMethod id (·.forced value) := by
  constructor
  · rintro ⟨outcome, answer⟩
    -- An edit that has answered has passed its checks, and these are all that it needs.
    obtain ⟨m, found, kind, has⟩ :
        ∃ m, p.method? id = some m ∧ value.kind = m.returnKind ∧ m.body.isSome := by
      obtain ⟨rest, step, run⟩ := exists_forceStep id value (p.locate? id)
      rw [run p rfl] at answer
      generalize located : p.locate? id = found at step
      cases step with
      | unknownMethod => simp at answer
      | returnKindMismatch _ => simp at answer
      | missingBody _ _ => simp at answer
      | unchanged kind has _ => exact ⟨_, method?_of_locate? located, kind, has ▸ rfl⟩
      | changed kind has _ => exact ⟨_, method?_of_locate? located, kind, has ▸ rfl⟩
    rw [run_forceReturn wellFormed found kind has] at answer
    exact ⟨m, found, kind, has, (Prod.mk.inj answer).2.symm⟩
  · rintro ⟨m, found, kind, has, rfl⟩
    exact ⟨_, run_forceReturn wellFormed found kind has⟩

/-! ### Plans -/

/-- The method can be made to return what is planned. -/
structure PlannedEdit.Fits (e : PlannedEdit) (m : MethodDecl) : Prop where
  kind : e.value.kind = m.returnKind
  body : m.body.isSome

/-- The method returns what is planned and does nothing else already. -/
def PlannedEdit.IsDone (e : PlannedEdit) (p : Program) : Prop :=
  ∀ m ∈ p.method? e.method, m.forced e.value = m

instance (e : PlannedEdit) (p : Program) : Decidable (e.IsDone p) :=
  inferInstanceAs (Decidable (∀ m ∈ p.method? e.method, m.forced e.value = m))

/-- The plan names each method once, and each of its edits fits. -/
structure Program.Fits (p : Program) (plan : List PlannedEdit) : Prop where
  distinct : (plan.map PlannedEdit.method).Nodup
  edits : ∀ e ∈ plan, ∃ m, p.method? e.method = some m ∧ e.Fits m

/-- The program with every edit of a plan made. -/
def Program.forceEach (plan : List PlannedEdit) (p : Program) : Program :=
  p.modifyEach (plan.map fun e => (e.method, (·.forced e.value)))

@[simp]
theorem outline_forceEach : (p.forceEach plan).outline = p.outline :=
  outline_modifyEach fun change member m => by
    obtain ⟨e, _, rfl⟩ := List.mem_map.mp member
    exact MethodDecl.outline_forced

theorem method?_forceEach_of_notMem (untouched : id ∉ plan.map PlannedEdit.method) :
    (p.forceEach plan).method? id = p.method? id :=
  method?_modifyEach_of_notMem (by rwa [List.map_map])

theorem method?_forceEach_of_mem (distinct : (plan.map PlannedEdit.method).Nodup)
    (member : e ∈ plan) :
    (p.forceEach plan).method? e.method = (p.method? e.method).map (·.forced e.value) :=
  method?_modifyEach_of_mem (by rwa [List.map_map]) (List.mem_map_of_mem member)

/-- A plan that is carried out is done. -/
theorem PlannedEdit.isDone_forceEach (distinct : (plan.map PlannedEdit.method).Nodup)
    (member : e ∈ plan) : e.IsDone (p.forceEach plan) := by
  intro m found
  rw [Option.mem_def, method?_forceEach_of_mem distinct member] at found
  obtain ⟨n, _, rfl⟩ := Option.map_eq_some_iff.mp found
  exact MethodDecl.forced_forced

/-- A plan that is done changes nothing. -/
theorem forceEach_eq_self (distinct : (plan.map PlannedEdit.method).Nodup)
    (done : ∀ e ∈ plan, e.IsDone p) : p.forceEach plan = p := by
  refine eq_of_outline_eq outline_forceEach fun id => ?_
  by_cases named : id ∈ plan.map PlannedEdit.method
  · obtain ⟨e, member, rfl⟩ := List.mem_map.mp named
    rw [method?_forceEach_of_mem distinct member]
    cases found : p.method? e.method with
    | none => rfl
    | some m => rw [Option.map_some, done e member m found]
  · exact method?_forceEach_of_notMem named

/-- A fitting plan is carried out in full, and what it counts are the edits not yet done. -/
theorem run_applyPlan (wellFormed : p.IsWellFormed) (fits : p.Fits plan) :
    (applyPlan plan).run p = (.ok (plan.countP fun e => ¬ e.IsDone p), p.forceEach plan) := by
  have run := Edit.run_total_modifyEach
    (fun (e : PlannedEdit) m => if m.forced e.value = m then 0 else 1)
    (fun e => (usesMutators_forceReturn e.method e.value).bind fun outcome =>
      Edit.usesMutators_pure outcome.count)
    wellFormed fits.distinct (f := fun e m => m.forced e.value) fun e member => by
      obtain ⟨m, found, fit⟩ := fits.edits e member
      refine ⟨m, found, fun q good there => ?_⟩
      rw [Edit.run_bind, run_forceReturn good there fit.kind fit.body]
      by_cases done : m.forced e.value = m
      · rw [if_pos done, if_pos done]
        rfl
      · rw [if_neg done, if_neg done]
        rfl
  -- An edit counts for one exactly if its method does not yet do what is planned.
  have counted (list : List PlannedEdit) (there : ∀ e ∈ list, ∃ m, p.method? e.method = some m) :
      (list.map fun e => (p.method? e.method).elim 0 fun m =>
        if m.forced e.value = m then 0 else 1).foldr (· + ·) 0 =
        list.countP fun e => ¬ e.IsDone p := by
    induction list with
    | nil => rfl
    | cons e rest ih =>
      obtain ⟨⟨m, found⟩, others⟩ := List.forall_mem_cons.mp there
      by_cases done : m.forced e.value = m <;>
        simp [ih others, PlannedEdit.IsDone, found, done, Nat.add_comm]
  have there : ∀ e ∈ plan, ∃ m, p.method? e.method = some m := fun e member =>
    (fits.edits e member).imp fun _ => And.left
  rw [applyPlan, run, forceEach, counted plan there]

end DexPatch
