import DexPatch.Proofs.PatchRun

/-!
# How far a run gets

A block that is skipped is passed over, a block that fails ends everything. So a list of blocks
either passes as a whole, or there is a first block that fails, all before it have passed, and
what follows has no say. A run of patches is the same one level up, with a gate before each
patch. The gate looks at the program as the patches before have left it, but it asks for the
package alone, and edits do not change that. It might as well have been asked for all patches
before the first of them ran.

No block here is trusted with more than making its changes by mutations: it may be passed over,
and it may skip or fail after any number of edits, which then stay.

## Main definitions

* `Block.Passes`, `Block.Fails` — what a block can do to a program
* `BlocksPass`, `PatchesPass` — blocks and patches that run one after the other to the last one
* `Patch.FailsAt` — a patch that stops at one of its blocks
* `Patch.IsExcluded` — the patch is meant for other packages
* `PatchReport.IsGated` — an entry of a report, as the gate decides it
* `admittedPatches`, `RunReport.executed` — the patches that pass the gate, and their entries

## Main results

* `BlocksPass.run_append`, `PatchesPass.run_append` — a run goes on after what has passed
* `blocks_pass_or_fail`, `patches_pass_or_fail` — nothing else can happen
* `exists_patchesPass` — total patches pass
* `PatchesPass.admitted` — a run without the excluded patches
* `runPatches_gated` — what a run reports, and where it stops
-/

namespace DexPatch

open Program

variable {p q r mid : Program} {b : Block} {blocks earlier : List Block} {patch : Patch}
  {patches before : List Patch} {config : Config} {options : RunOptions} {cause : EditError}

/-! ### One block -/

namespace Block

/-- The block runs to its end or is skipped. Both leave a program for the next block. -/
inductive Passes (config : Config) (b : Block) : BlockOutcome → Program → Program → Prop
  | applied {n : Nat} {p q : Program} (ran : (b.edit config).run p = (.ok n, q)) :
      b.Passes config (.applied n) p q
  | skipped {reason : SkipReason} {p q : Program}
      (ran : (b.edit config).run p = (.error (.skip reason), q)) :
      b.Passes config (.skipped reason) p q

/-- The block applies and fails. What it has changed until then is in the second program. -/
structure Fails (config : Config) (b : Block) (cause : EditError) (p q : Program) : Prop where
  applies : b.applies config p
  ran : (b.edit config).run p = (.error (.fatal cause), q)

theorem passes_or_fails (applies : b.applies config p) :
    (∃ outcome q, b.Passes config outcome p q) ∨ ∃ cause q, b.Fails config cause p q := by
  rcases ran : (b.edit config).run p with ⟨⟨reason | cause⟩ | n, q⟩
  · exact .inl ⟨_, q, .skipped ran⟩
  · exact .inr ⟨cause, q, applies, ran⟩
  · exact .inl ⟨_, q, .applied ran⟩

theorem Passes.run_outcome {outcome : BlockOutcome} (passes : b.Passes config outcome p q)
    (patch : String) : (b.outcome patch config).run p = (.ok outcome, q) := by
  cases passes with
  | applied ran => simp only [outcome, ran]
  | skipped ran => simp only [outcome, ran]

theorem Fails.run_outcome (fails : b.Fails config cause p q) (patch : String) :
    (b.outcome patch config).run p = (.error (.fatal patch b.name cause), q) := by
  simp only [outcome, fails.ran]

theorem Passes.after_eq {outcome : BlockOutcome} (passes : b.Passes config outcome p q) :
    b.after config p = q := by
  cases passes with
  | applied ran => rw [after, ran]
  | skipped ran => rw [after, ran]

theorem Passes.editsTo {outcome : BlockOutcome} (uses : (b.edit config).UsesMutators)
    (passes : b.Passes config outcome p q) : p.EditsTo q := by
  have steps := uses p
  cases passes with
  | applied ran => rwa [ran] at steps
  | skipped ran => rwa [ran] at steps

end Block

/-! ### Blocks in order -/

/-- The blocks run one after the other, none of them fails, and those that apply are reported. -/
inductive BlocksPass (config : Config) :
    List Block → List BlockReport → Program → Program → Prop
  | nil {p : Program} : BlocksPass config [] [] p p
  | passedOver {b : Block} {blocks : List Block} {reports : List BlockReport} {p q : Program}
      (applies : ¬ b.applies config p) (others : BlocksPass config blocks reports p q) :
      BlocksPass config (b :: blocks) reports p q
  | cons {b : Block} {outcome : BlockOutcome} {blocks : List Block} {reports : List BlockReport}
      {p q r : Program} (applies : b.applies config p) (passes : b.Passes config outcome p q)
      (others : BlocksPass config blocks reports q r) :
      BlocksPass config (b :: blocks) (⟨b.name, outcome⟩ :: reports) p r

namespace BlocksPass

variable {reports : List BlockReport}

/-- A run of blocks goes on after the blocks that have passed, from what they leave. -/
theorem run_append (pass : BlocksPass config blocks reports p q) (patch : String)
    (later : List Block) :
    (Patch.executeBlocks patch config (blocks ++ later)).run p =
      (((Patch.executeBlocks patch config later).run q).1.map (reports ++ ·),
        ((Patch.executeBlocks patch config later).run q).2) := by
  induction pass with
  | @nil p =>
    rw [List.nil_append]
    rcases (Patch.executeBlocks patch config later).run p with ⟨_ | _, _⟩ <;> rfl
  | passedOver applies _ ih =>
    rw [← ih, List.cons_append, Patch.executeBlocks, Edit.run_bind, Edit.run_program]
    simp only [applies]
    rfl
  | @cons b outcome blocks reports p q r applies passes _ ih =>
    rw [List.cons_append, Patch.executeBlocks, Edit.run_bind, Edit.run_program]
    simp only [applies, if_true, Edit.run_bind, passes.run_outcome, ih]
    rcases (Patch.executeBlocks patch config later).run r with ⟨_ | _, _⟩ <;> rfl

theorem run (pass : BlocksPass config blocks reports p q) (patch : String) :
    (Patch.executeBlocks patch config blocks).run p = (.ok reports, q) := by
  have whole := pass.run_append patch []
  rwa [List.append_nil, Patch.executeBlocks, Edit.run_pure, Except.map, List.append_nil] at whole

/-- The blocks after one that fails have no say. -/
theorem run_append_of_fails (pass : BlocksPass config earlier reports p mid)
    (fails : b.Fails config cause mid q) (patch : String) (later : List Block) :
    (Patch.executeBlocks patch config (earlier ++ b :: later)).run p =
      (.error (.fatal patch b.name cause), q) := by
  rw [pass.run_append, Patch.executeBlocks, Edit.run_bind, Edit.run_program]
  simp only [fails.applies, if_true, Edit.run_bind, fails.run_outcome]
  rfl

theorem editsTo (uses : ∀ b ∈ blocks, (b.edit config).UsesMutators)
    (pass : BlocksPass config blocks reports p q) : p.EditsTo q := by
  induction pass with
  | nil => exact .refl
  | passedOver _ _ ih => exact ih (List.forall_mem_cons.mp uses).2
  | cons _ passes _ ih =>
    obtain ⟨first, others⟩ := List.forall_mem_cons.mp uses
    exact (passes.editsTo first).trans (ih others)

end BlocksPass

/-- Either all blocks pass, or all before some block pass and this one fails. -/
theorem blocks_pass_or_fail (config : Config) (blocks : List Block) (p : Program) :
    (∃ reports q, BlocksPass config blocks reports p q) ∨
      ∃ earlier b later reports mid cause q, blocks = earlier ++ b :: later ∧
        BlocksPass config earlier reports p mid ∧ b.Fails config cause mid q := by
  induction blocks generalizing p with
  | nil => exact .inl ⟨[], p, .nil⟩
  | cons b rest ih =>
    by_cases applies : b.applies config p
    · rcases Block.passes_or_fails applies with ⟨outcome, next, passes⟩ | ⟨cause, q, fails⟩
      · -- Skipped or not, the block leaves a program that the others start from.
        rcases ih next with ⟨reports, q, pass⟩ |
          ⟨earlier, c, later, reports, mid, cause, q, rfl, pass, fails⟩
        · exact .inl ⟨_, q, .cons applies passes pass⟩
        · exact .inr ⟨b :: earlier, c, later, _, mid, cause, q, rfl,
            .cons applies passes pass, fails⟩
      · exact .inr ⟨[], b, rest, [], p, cause, q, rfl, .nil, fails⟩
    · rcases ih p with ⟨reports, q, pass⟩ |
        ⟨earlier, c, later, reports, mid, cause, q, rfl, pass, fails⟩
      · exact .inl ⟨reports, q, .passedOver applies pass⟩
      · exact .inr ⟨b :: earlier, c, later, reports, mid, cause, q, rfl,
          .passedOver applies pass, fails⟩

/-! ### Patches in order -/

/-- The package is known and not among those that the patch is meant for, and this counts. -/
def Patch.IsExcluded (patch : Patch) (options : RunOptions) (p : Program) : Prop :=
  options.ignoreCompatibility = false ∧
    ∃ package ∈ p.package, patch.packages ≠ [] ∧ package ∉ patch.packages

instance (patch : Patch) (options : RunOptions) (p : Program) :
    Decidable (patch.IsExcluded options p) :=
  inferInstanceAs (Decidable (_ ∧ ∃ package ∈ p.package, _ ∧ _))

theorem Patch.not_mayRun_iff : ¬ patch.MayRun options p ↔ patch.IsExcluded options p := by
  simp [MayRun, IsExcluded, IsCompatibleWith]

theorem Patch.not_isExcluded_iff : ¬ patch.IsExcluded options p ↔ patch.MayRun options p := by
  rw [← not_mayRun_iff, not_not]

theorem Program.EditsTo.isExcluded_iff (steps : p.EditsTo q) :
    patch.IsExcluded options q ↔ patch.IsExcluded options p := by
  rw [← Patch.not_mayRun_iff, ← Patch.not_mayRun_iff, steps.mayRun_iff]

/-- The patches run one after the other, each if the program that it finds does not exclude it,
and none of them fails. -/
inductive PatchesPass (config : Config) (options : RunOptions) :
    List Patch → List PatchReport → Program → Program → Prop
  | nil {p : Program} : PatchesPass config options [] [] p p
  | excluded {patch : Patch} {patches : List Patch} {reports : List PatchReport} {p q : Program}
      (gate : patch.IsExcluded options p)
      (others : PatchesPass config options patches reports p q) :
      PatchesPass config options (patch :: patches)
        (⟨patch.name, .incompatible, []⟩ :: reports) p q
  | executed {patch : Patch} {blocks : List BlockReport} {patches : List Patch}
      {reports : List PatchReport} {p q r : Program} (gate : ¬ patch.IsExcluded options p)
      (pass : BlocksPass config patch.blocks blocks p q)
      (others : PatchesPass config options patches reports q r) :
      PatchesPass config options (patch :: patches)
        (⟨patch.name, .executed, blocks⟩ :: reports) p r

/-- The patch runs up to the block `b`, which fails. The blocks before it pass. -/
structure Patch.FailsAt (config : Config) (options : RunOptions) (patch : Patch)
    (earlier : List Block) (b : Block) (cause : EditError) (p q : Program) : Prop where
  gate : ¬ patch.IsExcluded options p
  blocks : ∃ later, patch.blocks = earlier ++ b :: later
  fails : ∃ reports mid, BlocksPass config earlier reports p mid ∧ b.Fails config cause mid q

theorem Patch.run_report_of_isExcluded (gate : patch.IsExcluded options p) :
    (patch.report config options).run p = (.ok ⟨patch.name, .incompatible, []⟩, p) := by
  rw [report, Edit.run_bind, Edit.run_program]
  simp only [not_mayRun_iff.mpr gate, if_false]
  rfl

theorem Patch.run_report_of_blocksPass {blocks : List BlockReport}
    (gate : ¬ patch.IsExcluded options p) (pass : BlocksPass config patch.blocks blocks p q) :
    (patch.report config options).run p = (.ok ⟨patch.name, .executed, blocks⟩, q) := by
  rw [report, Edit.run_bind, Edit.run_program]
  simp only [not_isExcluded_iff.mp gate, if_true, Edit.run_bind, execute, pass.run]
  rfl

theorem Patch.FailsAt.run_report (fails : patch.FailsAt config options earlier b cause p q) :
    (patch.report config options).run p = (.error (.fatal patch.name b.name cause), q) := by
  obtain ⟨later, blocks⟩ := fails.blocks
  obtain ⟨reports, mid, pass, stop⟩ := fails.fails
  rw [report, Edit.run_bind, Edit.run_program]
  simp only [not_isExcluded_iff.mp fails.gate, if_true, Edit.run_bind, execute, blocks,
    pass.run_append_of_fails stop]

/-- The blocks after the one that fails may be others. -/
theorem Patch.FailsAt.other_blocks (fails : patch.FailsAt config options earlier b cause p q)
    (later : List Block) :
    Patch.FailsAt config options { patch with blocks := earlier ++ b :: later } earlier b cause p
      q :=
  ⟨fails.gate, ⟨later, rfl⟩, fails.fails⟩

/-- A patch is kept from running, passes, or fails at one of its blocks. -/
theorem Patch.passes_or_fails (config : Config) (options : RunOptions) (patch : Patch)
    (p : Program) :
    patch.IsExcluded options p ∨
      (¬ patch.IsExcluded options p ∧ ∃ reports q, BlocksPass config patch.blocks reports p q) ∨
      ∃ earlier b cause q, patch.FailsAt config options earlier b cause p q := by
  by_cases gate : patch.IsExcluded options p
  · exact .inl gate
  · rcases blocks_pass_or_fail config patch.blocks p with pass |
      ⟨earlier, b, later, reports, mid, cause, q, blocks, pass, fails⟩
    · exact .inr (.inl ⟨gate, pass⟩)
    · exact .inr (.inr ⟨earlier, b, cause, q, gate, ⟨later, blocks⟩, reports, mid, pass, fails⟩)

namespace PatchesPass

variable {reports : List PatchReport}

/-- A run of patches goes on after the patches that have passed, from what they leave. -/
theorem run_append (pass : PatchesPass config options patches reports p q) (later : List Patch) :
    (runEach config options (patches ++ later)).run p =
      (((runEach config options later).run q).1.map (reports ++ ·),
        ((runEach config options later).run q).2) := by
  induction pass with
  | @nil p =>
    rw [List.nil_append]
    rcases (runEach config options later).run p with ⟨_ | _, _⟩ <;> rfl
  | @excluded patch patches reports p q gate _ ih =>
    rw [List.cons_append, runEach, Edit.run_bind, Patch.run_report_of_isExcluded gate]
    simp only [Edit.run_bind, ih]
    rcases (runEach config options later).run q with ⟨_ | _, _⟩ <;> rfl
  | @executed patch blocks patches reports p q r gate pass _ ih =>
    rw [List.cons_append, runEach, Edit.run_bind, Patch.run_report_of_blocksPass gate pass]
    simp only [Edit.run_bind, ih]
    rcases (runEach config options later).run r with ⟨_ | _, _⟩ <;> rfl

theorem run (pass : PatchesPass config options patches reports p q) :
    (runPatches patches config options).run p = (.ok ⟨reports⟩, q) := by
  have whole := pass.run_append []
  rw [List.append_nil, runEach, Edit.run_pure, Except.map, List.append_nil] at whole
  rw [runPatches, Edit.run_bind, whole]
  rfl

/-- Patches that run one after the other may be watched in two parts. -/
theorem exists_of_append {later : List Patch}
    (pass : PatchesPass config options (patches ++ later) reports p r) :
    ∃ first others q, reports = first ++ others ∧ PatchesPass config options patches first p q ∧
      PatchesPass config options later others q r := by
  induction patches generalizing p reports with
  | nil => exact ⟨[], reports, p, rfl, .nil, pass⟩
  | cons patch rest ih =>
    cases pass with
    | excluded gate pass =>
      obtain ⟨first, others, q, rfl, before, after⟩ := ih pass
      exact ⟨_ :: first, others, q, rfl, .excluded gate before, after⟩
    | executed gate ran pass =>
      obtain ⟨first, others, q, rfl, before, after⟩ := ih pass
      exact ⟨_ :: first, others, q, rfl, .executed gate ran before, after⟩

theorem map_name (pass : PatchesPass config options patches reports p q) :
    reports.map PatchReport.name = patches.map Patch.name := by
  induction pass with
  | nil => rfl
  | excluded _ _ ih => rw [List.map_cons, List.map_cons, ih]
  | executed _ _ _ ih => rw [List.map_cons, List.map_cons, ih]

/-- The entry of the last patch is known by its name, if no other patch has that name. If the patch
was executed, it ran on what the patches before have left. -/
theorem exists_blocksPass_of_last {entry : PatchReport}
    (pass : PatchesPass config options (before ++ [patch]) reports p q)
    (other : patch.name ∉ before.map Patch.name) (reported : entry ∈ reports)
    (named : entry.name = patch.name) (executed : entry.status = .executed) :
    ∃ first mid, PatchesPass config options before first p mid ∧
      ¬ patch.IsExcluded options mid ∧ BlocksPass config patch.blocks entry.blocks mid q := by
  obtain ⟨first, last, mid, rfl, passBefore, passLast⟩ := pass.exists_of_append
  -- The entries before the last one bear the names of the other patches.
  have inLast : entry ∈ last := by
    rcases List.mem_append.mp reported with early | late
    · have early := List.mem_map_of_mem (f := PatchReport.name) early
      rw [passBefore.map_name, named] at early
      exact absurd early other
    · exact late
  refine ⟨first, mid, passBefore, ?_⟩
  cases passLast with
  | excluded gate pass =>
    cases pass with
    | nil =>
      obtain rfl := List.mem_singleton.mp inLast
      contradiction
  | executed gate pass others =>
    cases others with
    | nil =>
      obtain rfl := List.mem_singleton.mp inLast
      exact ⟨gate, pass⟩

/-- The patches after one that fails have no say. -/
theorem run_append_of_failsAt (pass : PatchesPass config options before reports p mid)
    (fails : patch.FailsAt config options earlier b cause mid q) (after : List Patch) :
    (runPatches (before ++ patch :: after) config options).run p =
      (.error (.fatal patch.name b.name cause), q) := by
  rw [runPatches, Edit.run_bind, pass.run_append, runEach, Edit.run_bind, fails.run_report]
  rfl

theorem editsTo (uses : ∀ patch ∈ patches, patch.UsesMutators)
    (pass : PatchesPass config options patches reports p q) : p.EditsTo q := by
  induction pass with
  | nil => exact .refl
  | excluded _ _ ih => exact ih (List.forall_mem_cons.mp uses).2
  | executed _ pass _ ih =>
    obtain ⟨first, others⟩ := List.forall_mem_cons.mp uses
    exact (pass.editsTo fun b hb => first b hb config).trans (ih others)

end PatchesPass

/-- Either all patches pass, or all before some patch pass and this one fails. -/
theorem patches_pass_or_fail (config : Config) (options : RunOptions) (patches : List Patch)
    (p : Program) :
    (∃ reports q, PatchesPass config options patches reports p q) ∨
      ∃ before patch after reports mid earlier b cause q, patches = before ++ patch :: after ∧
        PatchesPass config options before reports p mid ∧
        patch.FailsAt config options earlier b cause mid q := by
  induction patches generalizing p with
  | nil => exact .inl ⟨[], p, .nil⟩
  | cons patch rest ih =>
    rcases patch.passes_or_fails config options p with gate | ⟨gate, blocks, next, pass⟩ |
      ⟨earlier, b, cause, q, fails⟩
    · rcases ih p with ⟨reports, q, others⟩ |
        ⟨before, failing, after, reports, mid, earlier, b, cause, q, rfl, others, fails⟩
      · exact .inl ⟨_, q, .excluded gate others⟩
      · exact .inr ⟨patch :: before, failing, after, _, mid, earlier, b, cause, q, rfl,
          .excluded gate others, fails⟩
    · rcases ih next with ⟨reports, q, others⟩ |
        ⟨before, failing, after, reports, mid, earlier, b, cause, q, rfl, others, fails⟩
      · exact .inl ⟨_, q, .executed gate pass others⟩
      · exact .inr ⟨patch :: before, failing, after, _, mid, earlier, b, cause, q, rfl,
          .executed gate pass others, fails⟩
    · exact .inr ⟨[], patch, rest, [], p, earlier, b, cause, q, rfl, .nil, fails⟩

/-- Total patches pass, and leave what their blocks leave in turn. -/
theorem exists_patchesPass (total : ∀ patch ∈ patches, patch.IsTotal) (config : Config)
    (options : RunOptions) (wellFormed : p.IsWellFormed) :
    ∃ reports, PatchesPass config options patches reports p
      (afterEach config (activeBlocks options patches p) p) := by
  obtain ⟨report, answer, _⟩ := run_runPatches total config options wellFormed
  rcases patches_pass_or_fail config options patches p with ⟨reports, q, pass⟩ |
    ⟨before, patch, after, reports, mid, earlier, b, cause, q, rfl, pass, fails⟩
  · rw [pass.run] at answer
    exact ⟨reports, (Prod.mk.inj answer).2 ▸ pass⟩
  · rw [pass.run_append_of_failsAt fails after] at answer
    simp at answer

theorem PatchesPass.eq_afterEach {reports : List PatchReport}
    (pass : PatchesPass config options patches reports p q)
    (total : ∀ patch ∈ patches, patch.IsTotal) (wellFormed : p.IsWellFormed) :
    q = afterEach config (activeBlocks options patches p) p := by
  obtain ⟨report, answer, _⟩ := run_runPatches total config options wellFormed
  rw [pass.run] at answer
  exact (Prod.mk.inj answer).2

/-! ### The gate -/

/-- The entry of a patch is that of an incompatible one if the program excludes the patch, and
else that of an executed one. -/
structure PatchReport.IsGated (entry : PatchReport) (options : RunOptions) (p : Program)
    (patch : Patch) : Prop where
  name : entry.name = patch.name
  incompatible : entry.status = .incompatible ↔ patch.IsExcluded options p
  blocks : entry.status = .incompatible → entry.blocks = []

/-- The patches that the program does not exclude. -/
def admittedPatches (options : RunOptions) (p : Program) (patches : List Patch) : List Patch :=
  patches.filter fun patch => ¬ patch.IsExcluded options p

/-- The report with the entries of executed patches alone. -/
def RunReport.executed (report : RunReport) : RunReport :=
  ⟨report.patches.filter (·.status = .executed)⟩

namespace PatchesPass

variable {reports : List PatchReport}

/-- There is an entry for each patch, as the gate of the first program has it. -/
theorem isGated (uses : ∀ patch ∈ patches, patch.UsesMutators)
    (pass : PatchesPass config options patches reports p q) :
    List.Forall₂ (fun patch entry => entry.IsGated options p patch) patches reports := by
  induction pass with
  | nil => exact .nil
  | excluded gate _ ih =>
    refine .cons ⟨rfl, ?_, ?_⟩ (ih (List.forall_mem_cons.mp uses).2)
    · exact iff_of_true rfl gate
    · exact fun _ => rfl
  | executed gate pass _ ih =>
    obtain ⟨first, others⟩ := List.forall_mem_cons.mp uses
    have steps := pass.editsTo fun b hb => first b hb config
    refine .cons ⟨rfl, ?_, nofun⟩ ((ih others).imp ?_)
    · exact iff_of_false nofun gate
    · -- The later gates are asked of what this patch leaves.
      rintro later entry ⟨name, incompatible, blocks⟩
      exact ⟨name, incompatible.trans steps.isExcluded_iff, blocks⟩

/-- Without the patches that the first program excludes, the others do and report the same. -/
theorem admitted (uses : ∀ patch ∈ patches, patch.UsesMutators)
    (pass : PatchesPass config options patches reports p q) :
    PatchesPass config options (admittedPatches options p patches)
      (reports.filter (·.status = .executed)) p q := by
  -- The induction moves the start of the run, and with it the program whose gate counts.
  induction pass with
  | nil => exact .nil
  | excluded gate _ ih =>
    rw [admittedPatches, List.filter_cons_of_neg (by simpa using gate),
      List.filter_cons_of_neg (by simp)]
    exact ih (List.forall_mem_cons.mp uses).2
  | @executed patch blocks patches reports p q r gate pass _ ih =>
    obtain ⟨first, others⟩ := List.forall_mem_cons.mp uses
    have steps := pass.editsTo fun b hb => first b hb config
    have same : admittedPatches options q patches = admittedPatches options p patches := by
      simp only [admittedPatches, steps.isExcluded_iff]
    rw [admittedPatches, List.filter_cons_of_pos (by simpa using gate),
      List.filter_cons_of_pos (by simp), ← admittedPatches, ← same]
    exact .executed gate pass (ih others)

end PatchesPass

/-- A run that comes to its end has an entry for each patch. The package of the program that the
run began with decides which patches are executed, and without the others the run would have
been the same. A run that fails stops within one block: before it all patches that may run and
the blocks of this patch have passed, its own edits until then stay, and no block or patch after
it counts. -/
theorem runPatches_gated (uses : ∀ patch ∈ patches, patch.UsesMutators) (config : Config)
    (options : RunOptions) (p : Program) :
    (∀ report q, (runPatches patches config options).run p = (.ok report, q) →
      List.Forall₂ (fun patch entry => entry.IsGated options p patch) patches report.patches ∧
        (runPatches (admittedPatches options p patches) config options).run p =
          (.ok report.executed, q)) ∧
      ∀ e q, (runPatches patches config options).run p = (.error e, q) →
        ∃ before patch after earlier b later cause,
          patches = before ++ patch :: after ∧ patch.blocks = earlier ++ b :: later ∧
          e = .fatal patch.name b.name cause ∧ ¬ patch.IsExcluded options p ∧
          (∃ report mid reports mid',
            (runPatches (admittedPatches options p before) config options).run p =
              (.ok report, mid) ∧
            BlocksPass config earlier reports mid mid' ∧ b.Fails config cause mid' q) ∧
          ∀ later' after', (runPatches
            (before ++ { patch with blocks := earlier ++ b :: later' } :: after') config
              options).run p = (.error e, q) := by
  -- What has happened decides the answer, so one of the two parts has nothing to say.
  rcases patches_pass_or_fail config options patches p with ⟨reports, end', pass⟩ |
    ⟨before, patch, after, done, mid, earlier, b, cause, end', rfl, pass, fails⟩
  · rw [pass.run]
    refine ⟨?_, by simp⟩
    intro report q answer
    obtain ⟨same, rfl⟩ := Prod.mk.inj answer
    obtain rfl := Except.ok.inj same
    exact ⟨pass.isGated uses, (pass.admitted uses).run⟩
  · rw [pass.run_append_of_failsAt fails]
    refine ⟨by simp, ?_⟩
    intro e q answer
    obtain ⟨same, rfl⟩ := Prod.mk.inj answer
    obtain rfl := Except.error.inj same
    have usesBefore : ∀ patch ∈ before, patch.UsesMutators := by
      intro other listed
      exact uses other (List.mem_append_left _ listed)
    obtain ⟨later, blocks⟩ := fails.blocks
    obtain ⟨reports, mid', blocksPass, stop⟩ := fails.fails
    -- The gate was asked of what the patches before have left.
    have gate := mt (pass.editsTo usesBefore).isExcluded_iff.mpr fails.gate
    refine ⟨before, patch, after, earlier, b, later, cause, rfl, blocks, rfl, gate,
      ⟨_, mid, reports, mid', (pass.admitted usesBefore).run, blocksPass, stop⟩, ?_⟩
    intro later' after'
    exact pass.run_append_of_failsAt (fails.other_blocks later') after'

/-- A patch for another application, and one whose first block is skipped. With a third block
that asks a boolean method for a number the run stops, and the fourth block does nothing. -/
theorem runPatches_gated_wrong_kind :
    let start : MethodDecl := ⟨"start", [], .void, 0, some ⟨1, 0, [.constZero ⟨0⟩, .retVoid]⟩⟩
    let enabled : MethodDecl := ⟨"enabled", [], .boolean, 0,
      some ⟨1, 0, [.constInt ⟨0⟩ 1, .ret ⟨0⟩]⟩⟩
    let p : Program := ⟨some "app", [⟨⟨"LA;"⟩, none, 0, [], [start, enabled]⟩]⟩
    let force (name : String) (index : Nat) (value : ReturnValue) : Block :=
      { name, edit := fun _ => do
          return (← (forceReturn ⟨⟨0⟩, index⟩ value).mapError .fatal).count }
    let search : Block := { name := "search", edit := fun _ => .fail (.skip (.noMatch "key")) }
    let foreign : Patch :=
      { name := "foreign"
        packages := ["other"]
        blocks := [force "enabled" 1 (.boolean false)] }
    let good : Patch := { name := "good", blocks := [search, force "start" 0 .void] }
    let broken : Patch :=
      { name := "broken"
        blocks := good.blocks ++
          [force "number" 1 (.integer 7), force "enabled" 1 (.boolean false)] }
    (∀ patch ∈ [foreign, good, broken], patch.UsesMutators) ∧
      (∃ report q, (runPatches [foreign, good] {} {}).run p = (.ok report, q) ∧
        (runPatches [good] {} {}).run p = (.ok report.executed, q)) ∧
      ∃ cause q,
        (runPatches [foreign, broken] {} {}).run p = (.error (.fatal "broken" "number" cause), q) ∧
        q.method? ⟨⟨0⟩, 0⟩ = some { start with body := some ⟨1, 0, [.retVoid]⟩ } ∧
        q.method? ⟨⟨0⟩, 1⟩ = some enabled ∧
        ∃ before patch after earlier b later, [foreign, broken] = before ++ patch :: after ∧
          patch.blocks = earlier ++ b :: later ∧ ∀ later' after', (runPatches
            (before ++ { patch with blocks := earlier ++ b :: later' } :: after') {} {}).run p =
              (.error (.fatal "broken" "number" cause), q) := by
  intro start enabled p force search foreign good broken
  have forces (name : String) (index : Nat) (value : ReturnValue) (config : Config) :
      ((force name index value).edit config).UsesMutators :=
    ((usesMutators_forceReturn _ _).mapError _).bind fun _ => Edit.usesMutators_pure _
  have uses : ∀ patch ∈ [foreign, good, broken], patch.UsesMutators := by
    have searches (config : Config) : (search.edit config).UsesMutators := Edit.usesMutators_fail _
    simp only [List.forall_mem_cons, Patch.UsesMutators, foreign, good, broken, List.cons_append,
      List.nil_append]
    simp [forces, searches]
  have pair (patch : Patch) (member : patch ∈ [good, broken]) :
      ∀ other ∈ [foreign, patch], other.UsesMutators := by
    intro other listed
    apply uses
    rcases List.mem_cons.mp listed with rfl | same
    · exact List.mem_cons_self
    · rw [List.mem_singleton.mp same]
      exact List.mem_cons_of_mem foreign member
  have ended := (runPatches_gated (pair good List.mem_cons_self) {} {} p).1
  have stopped := (runPatches_gated (pair broken (by simp)) {} {} p).2
  refine ⟨uses, ⟨_, _, rfl, (ended _ _ rfl).2⟩, _, _, rfl, rfl, rfl, ?_⟩
  obtain ⟨before, patch, after, earlier, b, later, _, whole, blocks, _, _, _, others⟩ :=
    stopped _ _ rfl
  exact ⟨before, patch, after, earlier, b, later, whole, blocks, others⟩

end DexPatch
