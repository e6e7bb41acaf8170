import DexPatch.Proofs.Mutation

/-!
# Patch runs

A block is total if on well-formed programs it never fails and makes no change that it does
not count. Runs of total blocks come to their end, report every patch in order, and leave the
program that the blocks of the compatible patches leave one after the other.

## Main definitions

* `Block.after`, `Block.IsIdle` — the program that a block leaves, and a block without edits
* `Block.IsTotal`, `Patch.IsTotal` — blocks and patches that never fail
* `afterEach`, `activeBlocks` — blocks run in turn, and the blocks that a run reaches
* `PatchReport.IsFor` — a report has the shape of its patch

## Main results

* `run_executeBlocks`, `run_runPatches` — what runs of total blocks answer and leave
-/

namespace DexPatch

open Program

variable {p q : Program} {b : Block} {blocks : List Block} {patches : List Patch} {config : Config}
  {options : RunOptions}

namespace Block

/-- The program that the block leaves behind. -/
def after (config : Config) (b : Block) (p : Program) : Program := ((b.edit config).run p).2

/-- The block is skipped or counts no edit. -/
def IsIdle (config : Config) (b : Block) (p : Program) : Prop :=
  ∀ n, ((b.edit config).run p).1 = .ok n → n = 0

/-- The block applies to all programs, changes them by mutations alone, and on well-formed
ones never fails; a change that it counts as none is none. -/
structure IsTotal (b : Block) : Prop where
  applies : ∀ config p, b.applies config p
  mutators : ∀ config, (b.edit config).UsesMutators
  completes : ∀ config p cause, p.IsWellFormed →
    ((b.edit config).run p).1 ≠ .error (.fatal cause)
  idle : ∀ config p, p.IsWellFormed → b.IsIdle config p → b.after config p = p

theorem IsTotal.editsTo (total : b.IsTotal) (config : Config) : p.EditsTo (b.after config p) :=
  total.mutators config p

theorem IsTotal.isWellFormed_after (total : b.IsTotal) (config : Config)
    (wellFormed : p.IsWellFormed) : (b.after config p).IsWellFormed :=
  (total.editsTo config).isWellFormed wellFormed

/-- A total block answers an outcome, which counts no edit only if the block is idle. -/
theorem IsTotal.run_outcome (total : b.IsTotal) (patch : String) (config : Config)
    (wellFormed : p.IsWellFormed) :
    ∃ outcome : BlockOutcome,
      (b.outcome patch config).run p = (.ok outcome, b.after config p) ∧
        (outcome.edits = 0 ↔ b.IsIdle config p) := by
  have completes := fun cause => total.completes config p cause wellFormed
  simp only [Block.outcome, after, IsIdle]
  rcases h : (b.edit config).run p with ⟨⟨reason | cause⟩ | n, q⟩
  · exact ⟨.skipped reason, rfl, by simp [BlockOutcome.edits]⟩
  · exact absurd (congrArg Prod.fst h) (completes cause)
  · exact ⟨.applied n, rfl, by simp [BlockOutcome.edits]⟩

end Block

/-- The program that the blocks leave behind when they run in turn. -/
def afterEach (config : Config) (blocks : List Block) (p : Program) : Program :=
  blocks.foldl (fun q b => b.after config q) p

@[simp]
theorem afterEach_nil : afterEach config [] p = p := rfl

@[simp]
theorem afterEach_cons :
    afterEach config (b :: blocks) p = afterEach config blocks (b.after config p) := rfl

theorem afterEach_append {others : List Block} :
    afterEach config (blocks ++ others) p = afterEach config others (afterEach config blocks p) :=
  List.foldl_append

/-- Blocks may be run in two parts. -/
theorem afterEach_drop_take (k : Nat) :
    afterEach config (blocks.drop k) (afterEach config (blocks.take k) p) =
      afterEach config blocks p := by
  rw [← afterEach_append, List.take_append_drop]

theorem editsTo_afterEach (total : ∀ b ∈ blocks, b.IsTotal) (config : Config) :
    p.EditsTo (afterEach config blocks p) := by
  induction blocks generalizing p with
  | nil => exact .refl
  | cons b rest ih =>
    obtain ⟨first, others⟩ := List.forall_mem_cons.mp total
    exact (first.editsTo config).trans (ih others)

/-- Blocks that are all idle leave the program alone. -/
theorem afterEach_eq_self (total : ∀ b ∈ blocks, b.IsTotal) (wellFormed : p.IsWellFormed)
    (idle : ∀ b ∈ blocks, b.IsIdle config p) : afterEach config blocks p = p := by
  induction blocks with
  | nil => rfl
  | cons b rest ih =>
    obtain ⟨first, others⟩ := List.forall_mem_cons.mp total
    obtain ⟨idleFirst, idleOthers⟩ := List.forall_mem_cons.mp idle
    rw [afterEach_cons, first.idle config p wellFormed idleFirst, ih others idleOthers]

/-- Total blocks answer a report each, and no report counts an edit if and only if all of
them are idle. -/
theorem run_executeBlocks (total : ∀ b ∈ blocks, b.IsTotal) (patch : String) (config : Config)
    (wellFormed : p.IsWellFormed) :
    ∃ reports, (Patch.executeBlocks patch config blocks).run p =
        (.ok reports, afterEach config blocks p) ∧
      reports.map BlockReport.name = blocks.map Block.name ∧
      ((∀ r ∈ reports, r.outcome.edits = 0) ↔ ∀ b ∈ blocks, b.IsIdle config p) := by
  induction blocks generalizing p with
  | nil => exact ⟨[], rfl, rfl, by simp⟩
  | cons b rest ih =>
    obtain ⟨first, others⟩ := List.forall_mem_cons.mp total
    obtain ⟨outcome, answer, idleFirst⟩ := first.run_outcome patch config wellFormed
    obtain ⟨reports, answers, names, idleOthers⟩ :=
      ih others (first.isWellFormed_after config wellFormed)
    refine ⟨⟨b.name, outcome⟩ :: reports, ?_, by simp [names], ?_⟩
    · rw [Patch.executeBlocks, Edit.run_bind, Edit.run_program]
      simp only [first.applies config p, if_true, Edit.run_bind, answer, answers]
      rfl
    · rw [List.forall_mem_cons, List.forall_mem_cons, idleOthers, idleFirst]
      -- What the other blocks find is the program itself if the first one is idle.
      refine and_congr_right fun idle => ?_
      rw [first.idle config p wellFormed idle]

/-! ### Whole runs -/

/-- Every block of the patch is total. -/
def Patch.IsTotal (patch : Patch) : Prop := ∀ b ∈ patch.blocks, b.IsTotal

/-- The report has the shape of the patch: one outcome for each block of a patch that may run
on the program, and none for any other. -/
structure PatchReport.IsFor (r : PatchReport) (options : RunOptions) (p : Program)
    (patch : Patch) : Prop where
  name : r.name = patch.name
  executed : patch.MayRun options p →
    r.status = .executed ∧ r.blocks.map BlockReport.name = patch.blocks.map Block.name
  incompatible : ¬ patch.MayRun options p → r.status = .incompatible ∧ r.blocks = []

/-- The blocks of the patch, none if it may not run on the program. -/
def Patch.activeBlocks (options : RunOptions) (p : Program) (patch : Patch) : List Block :=
  if patch.MayRun options p then patch.blocks else []

/-- The blocks that a run of the patches reaches. -/
def activeBlocks (options : RunOptions) (patches : List Patch) (p : Program) : List Block :=
  patches.flatMap (Patch.activeBlocks options p)

/-- Whether a patch may run is a matter of the package, which no mutation changes. -/
theorem Program.EditsTo.mayRun_iff (steps : p.EditsTo q) {patch : Patch} :
    patch.MayRun options q ↔ patch.MayRun options p := by
  have outlines : q.outline.package = p.outline.package := by rw [steps.outline_eq]
  have same : q.package = p.package := outlines
  rw [Patch.MayRun, Patch.MayRun, same]

theorem Program.EditsTo.activeBlocks_eq (steps : p.EditsTo q) :
    activeBlocks options patches q = activeBlocks options patches p := by
  have same : Patch.activeBlocks options q = Patch.activeBlocks options p := by
    funext patch
    simp only [Patch.activeBlocks, steps.mayRun_iff]
  rw [activeBlocks, activeBlocks, same]

theorem PatchReport.IsFor.of_editsTo {r : PatchReport} {patch : Patch} (steps : p.EditsTo q)
    (shape : r.IsFor options q patch) : r.IsFor options p patch where
  name := shape.name
  executed may := shape.executed (steps.mayRun_iff.mpr may)
  incompatible mayNot := shape.incompatible (mt steps.mayRun_iff.mp mayNot)

theorem Patch.IsTotal.activeBlocks {patch : Patch} (total : patch.IsTotal) :
    ∀ b ∈ patch.activeBlocks options p, b.IsTotal := by
  unfold Patch.activeBlocks
  split
  · exact total
  · simp

theorem isTotal_of_mem_activeBlocks (total : ∀ patch ∈ patches, patch.IsTotal)
    (member : b ∈ activeBlocks options patches p) : b.IsTotal := by
  obtain ⟨patch, listed, inside⟩ := List.mem_flatMap.mp member
  exact (total patch listed).activeBlocks b inside

theorem RunReport.edits_eq_zero_iff {r : RunReport} :
    r.edits = 0 ↔ ∀ patch ∈ r.patches, ∀ b ∈ patch.blocks, b.outcome.edits = 0 := by
  have total : r.edits = (r.outcomes.map BlockOutcome.edits).sum := by
    rw [List.sum_eq_foldr, List.foldr_map]
    rfl
  rw [total, List.sum_eq_zero_iff_forall_eq_nat]
  constructor
  · intro zero patch listed b inside
    exact zero _ (List.mem_map_of_mem
      (List.mem_flatMap.mpr ⟨patch, listed, List.mem_map_of_mem inside⟩))
  · intro zero n member
    obtain ⟨outcome, reported, rfl⟩ := List.mem_map.mp member
    obtain ⟨patch, listed, inside⟩ := List.mem_flatMap.mp reported
    obtain ⟨b, there, rfl⟩ := List.mem_map.mp inside
    exact zero patch listed b there

theorem Patch.IsTotal.run_report {patch : Patch} (total : patch.IsTotal) (config : Config)
    (options : RunOptions) (wellFormed : p.IsWellFormed) :
    ∃ r, (patch.report config options).run p =
        (.ok r, afterEach config (patch.activeBlocks options p) p) ∧
      r.IsFor options p patch ∧
      ((∀ b ∈ r.blocks, b.outcome.edits = 0) ↔
        ∀ b ∈ patch.activeBlocks options p, b.IsIdle config p) := by
  rw [Patch.report, Edit.run_bind, Edit.run_program]
  by_cases may : patch.MayRun options p
  · obtain ⟨reports, answers, names, idle⟩ := run_executeBlocks total patch.name config wellFormed
    refine ⟨⟨patch.name, .executed, reports⟩, ?_, ⟨rfl, fun _ => ⟨rfl, names⟩, ?_⟩, ?_⟩
    · simp only [may, if_true, Edit.run_bind, Patch.execute, answers, Patch.activeBlocks]
      rfl
    · exact absurd may
    · simpa only [Patch.activeBlocks, may, if_true] using idle
  · refine ⟨⟨patch.name, .incompatible, []⟩, ?_, ⟨rfl, fun h => absurd h may, ?_⟩, ?_⟩
    · simp [may, Patch.activeBlocks]
    · exact fun _ => ⟨rfl, rfl⟩
    · simp [may, Patch.activeBlocks]

theorem run_runEach (total : ∀ patch ∈ patches, patch.IsTotal) (config : Config)
    (options : RunOptions) (wellFormed : p.IsWellFormed) :
    ∃ reports, (runEach config options patches).run p =
        (.ok reports, afterEach config (activeBlocks options patches p) p) ∧
      List.Forall₂ (fun patch r => r.IsFor options p patch) patches reports ∧
      ((∀ r ∈ reports, ∀ b ∈ r.blocks, b.outcome.edits = 0) ↔
        ∀ b ∈ activeBlocks options patches p, b.IsIdle config p) := by
  induction patches generalizing p with
  | nil => exact ⟨[], rfl, .nil, by simp [activeBlocks]⟩
  | cons patch rest ih =>
    obtain ⟨first, others⟩ := List.forall_mem_cons.mp total
    have steps : p.EditsTo (afterEach config (patch.activeBlocks options p) p) :=
      editsTo_afterEach first.activeBlocks config
    obtain ⟨r, answer, shape, idle⟩ := first.run_report config options wellFormed
    obtain ⟨reports, answers, shapes, idles⟩ := ih others (steps.isWellFormed wellFormed)
    rw [steps.activeBlocks_eq] at answers idles
    refine ⟨r :: reports, ?_, ?_, ?_⟩
    · rw [runEach, Edit.run_bind, answer]
      simp only [Edit.run_bind, answers, activeBlocks, List.flatMap_cons, afterEach_append]
      rfl
    · exact .cons shape (shapes.imp fun _ _ => .of_editsTo steps)
    · rw [List.forall_mem_cons, idle, idles, activeBlocks, activeBlocks, List.flatMap_cons,
        List.forall_mem_append]
      -- The other patches run on the program itself if the first one is idle.
      refine and_congr_right fun idle => ?_
      rw [afterEach_eq_self first.activeBlocks wellFormed idle]

/-- A run of total patches comes to its end and reports every patch in order. It counts no
edit if and only if all blocks that it reaches are idle. -/
theorem run_runPatches (total : ∀ patch ∈ patches, patch.IsTotal) (config : Config)
    (options : RunOptions) (wellFormed : p.IsWellFormed) :
    ∃ report, (runPatches patches config options).run p =
        (.ok report, afterEach config (activeBlocks options patches p) p) ∧
      List.Forall₂ (fun patch r => r.IsFor options p patch) patches report.patches ∧
      (report.edits = 0 ↔ ∀ b ∈ activeBlocks options patches p, b.IsIdle config p) := by
  obtain ⟨reports, answers, shapes, idle⟩ := run_runEach total config options wellFormed
  refine ⟨⟨reports⟩, ?_, shapes, RunReport.edits_eq_zero_iff.trans idle⟩
  rw [runPatches, Edit.run_bind, answers]
  rfl

end DexPatch
