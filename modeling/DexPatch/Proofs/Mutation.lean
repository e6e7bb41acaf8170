import DexPatch.Patch.Builtin
import DexPatch.Proofs.Slot
import Mathlib.Logic.Relation

/-!
# Mutations

Two edits touch a program, and each of them either does what it says or leaves the program
alone. Every other edit is a sequence of these, so what both preserve is preserved by
whole patch runs, whether they come to their end or stop halfway.

## Main definitions

* `Program.Mutation`, `Program.EditsTo` — one mutation, and any number of them
* `Edit.UsesMutators`, `Patch.UsesMutators` — edits and patches that change programs by
  mutations alone

## Main results

* `replaceBody_cases`, `replaceInstruction_cases` — all that a mutator can do
* `Program.EditsTo.outline_eq`, `Program.EditsTo.isWellFormed` — what mutations preserve
* `Edit.run_total_modifyEach` — edits of distinct methods do not see each other
* `usesMutators_forceReturn`, `usesMutators_apply`, `usesMutators_runPatches`,
  `Builtin.usesMutators` — all edits of this library are sequences of mutations
-/

namespace DexPatch

open Program

variable {p q : Program} {id : MethodId} {m : MethodDecl} {b : Body} {position : Nat}

/-! ### What a mutator can do -/

theorem run_replaceBody {body : Body} (found : p.method? id = some m) (has : m.body = some b)
    (wellFormed : body.IsWellFormed) :
    (replaceBody id body).run p = (.ok b, p.setBody id body) := by
  obtain ⟨owner, located⟩ := exists_locate?_of_method? found
  exact Slot.body.run_replace located has rfl (Body.check_eq_ok_iff.mpr wellFormed)

/-- A body is replaced by a well-formed one, or nothing happens. -/
theorem replaceBody_cases (id : MethodId) (body : Body) (p : Program) :
    (∃ e, (replaceBody id body).run p = (.error e, p)) ∨
      ∃ m b, p.method? id = some m ∧ m.body = some b ∧ body.IsWellFormed ∧
        (replaceBody id body).run p = (.ok b, p.setBody id body) := by
  rcases Slot.body.replace_cases p id body with
    refused | ⟨owner, m, b, previous, located, has, same, fits, done⟩
  · exact .inl refused
  · obtain rfl : b = previous := Except.ok.inj same
    exact .inr ⟨m, b, method?_of_locate? located, has, Body.check_eq_ok_iff.mp fits, done⟩

theorem run_replaceInstruction {i j : Instruction} (found : p.method? id = some m)
    (has : m.body = some b) (there : b.instructions[position]? = some j) (admits : b.Admits i) :
    (replaceInstruction id position i).run p = (.ok j, p.setBody id (b.set position i)) := by
  obtain ⟨owner, located⟩ := exists_locate?_of_method? found
  rw [replaceInstruction_eq]
  exact (Slot.instruction position).run_replace located has
    (Slot.findInstruction_eq_ok_iff.mpr there) (Body.checkInstruction_eq_ok_iff.mpr admits)

/-- An instruction is replaced by one that fits the body, or nothing happens. -/
theorem replaceInstruction_cases (id : MethodId) (position : Nat) (i : Instruction)
    (p : Program) :
    (∃ e, (replaceInstruction id position i).run p = (.error e, p)) ∨
      ∃ m b j, p.method? id = some m ∧ m.body = some b ∧ b.instructions[position]? = some j ∧
        b.Admits i ∧
        (replaceInstruction id position i).run p = (.ok j, p.setBody id (b.set position i)) := by
  rw [replaceInstruction_eq]
  rcases (Slot.instruction position).replace_cases p id i with
    refused | ⟨owner, m, b, j, located, has, there, fits, done⟩
  · exact .inl refused
  · exact .inr ⟨m, b, j, method?_of_locate? located, has, Slot.findInstruction_eq_ok_iff.mp there,
      Body.checkInstruction_eq_ok_iff.mp fits, done⟩

namespace Program

theorem IsWellFormed.setBody {body : Body} (wellFormed : p.IsWellFormed)
    (found : p.method? id = some m) (has : m.body.isSome) (good : body.IsWellFormed) :
    (p.setBody id body).IsWellFormed := by
  refine wellFormed.of_outline_eq (outline_setBody found has).symm ?_
  intro other n c hn hc
  by_cases same : other = id
  · subst same
    rw [Program.setBody, method?_modifyMethod_self, found] at hn
    obtain rfl := Option.some.inj hn
    obtain rfl := Option.some.inj hc
    exact good
  · rw [Program.setBody, method?_modifyMethod_of_ne same] at hn
    exact wellFormed.body hn hc

/-! ### Sequences of mutations -/

/-- One call of a mutator, with any arguments and whatever its answer. -/
inductive Mutation (p : Program) : Program → Prop
  | body (id : MethodId) (body : Body) : Mutation p ((replaceBody id body).run p).2
  | instruction (id : MethodId) (position : Nat) (i : Instruction) :
    Mutation p ((replaceInstruction id position i).run p).2

/-- Any number of mutations lead from one program to the other. -/
def EditsTo : Program → Program → Prop := Relation.ReflTransGen Mutation

theorem Mutation.outline_eq (step : p.Mutation q) : q.outline = p.outline := by
  cases step with
  | body id body =>
    rcases replaceBody_cases id body p with ⟨e, h⟩ | ⟨m, b, found, has, _, h⟩
    · rw [h]
    · rw [h]
      exact outline_setBody found (Option.isSome_of_eq_some has)
  | instruction id position i =>
    rcases replaceInstruction_cases id position i p with ⟨e, h⟩ | ⟨m, b, j, found, has, _, _, h⟩
    · rw [h]
    · rw [h]
      exact outline_setBody found (Option.isSome_of_eq_some has)

theorem Mutation.isWellFormed (step : p.Mutation q) (wellFormed : p.IsWellFormed) :
    q.IsWellFormed := by
  cases step with
  | body id body =>
    rcases replaceBody_cases id body p with ⟨e, h⟩ | ⟨m, b, found, has, good, h⟩
    · rwa [h]
    · rw [h]
      exact wellFormed.setBody found (Option.isSome_of_eq_some has) good
  | instruction id position i =>
    rcases replaceInstruction_cases id position i p with
      ⟨e, h⟩ | ⟨m, b, j, found, has, _, admits, h⟩
    · rwa [h]
    · rw [h]
      exact wellFormed.setBody found (Option.isSome_of_eq_some has)
        ((wellFormed.body found has).set admits)

/-- Mutations change code and nothing else. -/
theorem EditsTo.outline_eq (steps : p.EditsTo q) : q.outline = p.outline := by
  induction steps with
  | refl => rfl
  | tail _ step ih => exact step.outline_eq.trans ih

/-- Mutations keep a well-formed program well-formed. -/
theorem EditsTo.isWellFormed (steps : p.EditsTo q) (wellFormed : p.IsWellFormed) :
    q.IsWellFormed := by
  induction steps with
  | refl => exact wellFormed
  | tail _ step ih => exact step.isWellFormed ih

end Program

/-! ### Edits made of mutations -/

namespace Edit

variable {ε ε' α β : Type} {x : Edit ε α} {f : α → Edit ε β}

/-- The edit changes a program by mutations alone, whatever its answer. -/
def UsesMutators (x : Edit ε α) : Prop := ∀ p : Program, p.EditsTo (x.run p).2

/-- An edit that only looks at the program. -/
theorem UsesMutators.of_unchanged (unchanged : ∀ p, (x.run p).2 = p) : x.UsesMutators := fun p => by
  rw [unchanged]
  exact .refl

theorem usesMutators_pure (a : α) : (pure a : Edit ε α).UsesMutators := .of_unchanged fun _ => rfl

theorem usesMutators_fail (e : ε) : (fail e : Edit ε α).UsesMutators := .of_unchanged fun _ => rfl

theorem usesMutators_program : (program : Edit ε Program).UsesMutators :=
  .of_unchanged fun _ => rfl

theorem UsesMutators.bind (first : x.UsesMutators) (others : ∀ a, (f a).UsesMutators) :
    (x >>= f).UsesMutators := fun p => by
  rw [run_bind]
  have steps := first p
  cases h : x.run p with
  | mk answer q =>
    rw [h] at steps
    cases answer with
    | error e => exact steps
    | ok a => exact steps.trans (others a q)

theorem UsesMutators.mapError (uses : x.UsesMutators) (g : ε → ε') :
    (x.mapError g).UsesMutators := fun p => by
  rw [run_mapError]
  exact uses p

theorem UsesMutators.total {step : α → Edit ε Nat} (uses : ∀ a, (step a).UsesMutators)
    (list : List α) : (Edit.total step list).UsesMutators := by
  induction list with
  | nil => exact usesMutators_pure 0
  | cons a rest ih => exact (uses a).bind fun n => ih.bind fun k => usesMutators_pure (n + k)

end Edit

theorem usesMutators_replaceBody (id : MethodId) (body : Body) :
    (replaceBody id body).UsesMutators := fun _ => .single (.body id body)

theorem usesMutators_replaceInstruction (id : MethodId) (position : Nat) (i : Instruction) :
    (replaceInstruction id position i).UsesMutators := fun _ => .single (.instruction id position i)

theorem usesMutators_forceReturn (id : MethodId) (value : ReturnValue) :
    (forceReturn id value).UsesMutators := by
  refine Edit.usesMutators_program.bind fun p => ?_
  split
  · exact Edit.usesMutators_fail _
  · split
    · exact Edit.usesMutators_fail _
    · split
      · exact Edit.usesMutators_fail _
      · dsimp only
        split
        · exact Edit.usesMutators_pure _
        · exact ((usesMutators_replaceBody _ _).mapError _).bind fun _ => Edit.usesMutators_pure _

theorem usesMutators_applyPlan (edits : List PlannedEdit) : (applyPlan edits).UsesMutators :=
  .total (fun _ => (usesMutators_forceReturn _ _).bind fun _ => Edit.usesMutators_pure _) edits

theorem usesMutators_applySite (target : FieldRef) (id : MethodId) (site : Site) :
    (SubstitutionPlan.applySite target id site).UsesMutators := by
  refine Edit.usesMutators_program.bind fun p => ?_
  split
  · exact Edit.usesMutators_fail _
  · split
    · exact ((usesMutators_replaceInstruction _ _ _).mapError _).bind fun _ =>
        Edit.usesMutators_pure _
    · exact Edit.usesMutators_fail _

theorem usesMutators_applyEntry (target : FieldRef) (entry : MethodId × List Site) :
    (SubstitutionPlan.applyEntry target entry).UsesMutators :=
  .total (usesMutators_applySite target entry.1) entry.2.reverse

theorem usesMutators_apply (plan : SubstitutionPlan) : plan.apply.UsesMutators :=
  .total (usesMutators_applyEntry plan.target) plan.entries

/-! ### Changes to distinct methods -/

/-- Edits that each change a method of their own see it as it was before all of them. -/
theorem Edit.run_total_modifyEach {ε α : Type} {step : α → Edit ε Nat} {id : α → MethodId}
    {f : α → MethodDecl → MethodDecl} {list : List α} (count : α → MethodDecl → Nat)
    (uses : ∀ a, (step a).UsesMutators) (wellFormed : p.IsWellFormed)
    (distinct : (list.map id).Nodup)
    (each : ∀ a ∈ list, ∃ m, p.method? (id a) = some m ∧
      ∀ q : Program, q.IsWellFormed → q.method? (id a) = some m →
        (step a).run q = (.ok (count a m), q.modifyMethod (id a) (f a))) :
    (Edit.total step list).run p =
      (.ok ((list.map fun a => (p.method? (id a)).elim 0 (count a)).foldr (· + ·) 0),
        p.modifyEach (list.map fun a => (id a, f a))) := by
  -- The other edits start from what the first one leaves, where their methods are untouched.
  induction list generalizing p with
  | nil => rfl
  | cons a rest ih =>
    rw [List.map_cons, List.nodup_cons] at distinct
    obtain ⟨⟨m, found, run⟩, others⟩ := List.forall_mem_cons.mp each
    have step := run p wellFormed found
    have good : (p.modifyMethod (id a) (f a)).IsWellFormed := by
      have kept := (uses a p).isWellFormed wellFormed
      rwa [step] at kept
    have untouched : ∀ b ∈ rest, (p.modifyMethod (id a) (f a)).method? (id b) = p.method? (id b) :=
      fun b hb => method?_modifyMethod_of_ne fun same =>
        distinct.1 (same ▸ List.mem_map_of_mem hb)
    have later := ih good distinct.2 fun b hb => by
      obtain ⟨n, hn, run⟩ := others b hb
      exact ⟨n, by rwa [untouched b hb], run⟩
    have counts : (rest.map fun b =>
        ((p.modifyMethod (id a) (f a)).method? (id b)).elim 0 (count b)) =
        rest.map fun b => (p.method? (id b)).elim 0 (count b) :=
      List.map_congr_left fun b hb => by rw [untouched b hb]
    rw [Edit.run_total_cons, step]
    simp only [later, counts, List.map_cons, List.foldr_cons, found, modifyEach_cons,
      Option.elim_some, Except.map]

/-! ### Patches made of mutations -/

/-- The blocks of the patch change a program by mutations alone. -/
def Patch.UsesMutators (patch : Patch) : Prop :=
  ∀ b ∈ patch.blocks, ∀ config, (b.edit config).UsesMutators

/-- A block changes the program as its edit does, skips and failures included. -/
theorem Block.snd_run_outcome (b : Block) (patch : String) (config : Config) (p : Program) :
    ((b.outcome patch config).run p).2 = ((b.edit config).run p).2 := by
  simp only [Block.outcome]
  rcases (b.edit config).run p with ⟨⟨reason | cause⟩ | n, q⟩ <;> rfl

theorem Edit.UsesMutators.outcome {b : Block} {config : Config}
    (uses : (b.edit config).UsesMutators) (patch : String) :
    (b.outcome patch config).UsesMutators := fun p => by
  rw [b.snd_run_outcome]
  exact uses p

theorem usesMutators_executeBlocks {patch : String} {config : Config} {blocks : List Block}
    (uses : ∀ b ∈ blocks, (b.edit config).UsesMutators) :
    (Patch.executeBlocks patch config blocks).UsesMutators := by
  induction blocks with
  | nil => exact Edit.usesMutators_pure _
  | cons b rest ih =>
    obtain ⟨first, others⟩ := List.forall_mem_cons.mp uses
    refine Edit.usesMutators_program.bind fun p => ?_
    split
    · exact (first.outcome patch).bind fun _ => (ih others).bind fun _ => Edit.usesMutators_pure _
    · exact ih others

theorem Patch.UsesMutators.report {patch : Patch} (uses : patch.UsesMutators) (config : Config)
    (options : RunOptions) : (patch.report config options).UsesMutators := by
  refine Edit.usesMutators_program.bind fun p => ?_
  split
  · exact (usesMutators_executeBlocks fun b hb => uses b hb config).bind fun _ =>
      Edit.usesMutators_pure _
  · exact Edit.usesMutators_pure _

theorem usesMutators_runPatches {patches : List Patch}
    (uses : ∀ patch ∈ patches, patch.UsesMutators) (config : Config) (options : RunOptions) :
    (runPatches patches config options).UsesMutators := by
  refine Edit.UsesMutators.bind ?_ fun _ => Edit.usesMutators_pure _
  induction patches with
  | nil => exact Edit.usesMutators_pure _
  | cons patch rest ih =>
    obtain ⟨first, others⟩ := List.forall_mem_cons.mp uses
    exact (first.report config options).bind fun _ => (ih others).bind fun _ =>
      Edit.usesMutators_pure _

namespace Builtin

theorem usesMutators_matchedClass (f : Fingerprint) : (matchedClass f).UsesMutators := by
  refine Edit.usesMutators_program.bind fun p => ?_
  split
  · exact Edit.usesMutators_pure _
  · exact Edit.usesMutators_fail _

theorem usesMutators_resolved (what : String) (found : Except Unresolved FieldRef) :
    (resolved what found).UsesMutators := by
  cases found with
  | error reason => exact Edit.usesMutators_fail _
  | ok f => exact Edit.usesMutators_pure _

/-- The built-in patches change a program by mutations alone. -/
theorem usesMutators : ∀ patch ∈ patches, patch.UsesMutators := by
  intro patch hpatch b hb config
  have applies (edits : List PlannedEdit) :
      ((applyPlan edits).mapError BlockError.fatal).UsesMutators :=
    (usesMutators_applyPlan edits).mapError _
  simp only [patches, List.mem_cons, List.not_mem_nil, or_false] at hpatch
  rcases hpatch with rfl | rfl <;>
    simp only [unlockPremium, disableTelemetry, List.mem_cons, List.not_mem_nil, or_false] at hb <;>
    rcases hb with rfl | rfl
  · exact (usesMutators_matchedClass _).bind fun _ => (usesMutators_resolved _ _).bind fun _ =>
      Edit.usesMutators_program.bind fun _ => applies _
  · exact (usesMutators_matchedClass _).bind fun _ => Edit.usesMutators_program.bind fun _ =>
      applies _
  · exact (usesMutators_matchedClass _).bind fun _ => Edit.usesMutators_program.bind fun _ =>
      applies _
  · exact (usesMutators_matchedClass _).bind fun _ => (usesMutators_resolved _ _).bind fun _ =>
      Edit.usesMutators_program.bind fun _ => (usesMutators_apply _).mapError _

end Builtin

end DexPatch
