import DexPatch.Proofs.EditRank
import DexPatch.Proofs.LateSubstitution

/-!
# Reports that are true

What a run reports of its blocks can be checked against the programs before and after each of
them: a skipped block left the program alone, and a block that counts edits put that many bodies
or instructions in place, each of them new and each in a place of its own. Since no edit is ever
taken back, the run as a whole counts no edit exactly if it ends with the program that it found.

## Main definitions

* `BlockOutcome.IsTrueOf` — an outcome is true of the programs before and after a block
* `TrueReports` — the reports of blocks that ran one after the other are true

## Main results

* `BlockOutcome.IsTrueOf.edits_eq_zero_iff` — no edit is counted if and only if none is made
* `BlockOutcome.IsTrueOf.exists_differing` — the edits counted are the places that differ
* `trace_of_run_applyPlan` — the bodies that a plan puts in place
* `trueReports_of_run_runPatches` — what a run of truthful blocks reports is true
* `Builtin.run_reports_truth` — runs of built-in patches report the truth
-/

namespace DexPatch

open Program

variable {p q r : Program} {id : MethodId} {value : ReturnValue} {f : FieldRef} {n : Nat}
  {plan : List PlannedEdit} {b : Block} {list : List Block} {reports : List BlockReport}
  {config : Config} {options : RunOptions}

/-- What the outcome of a block says of the programs before and after it. -/
inductive BlockOutcome.IsTrueOf : BlockOutcome → Program → Program → Prop
  /-- Nothing has changed. -/
  | skipped (reason : SkipReason) {p : Program} : IsTrueOf (.skipped reason) p p
  /-- Each edit has put a new body in place, in a method of its own. -/
  | bodies {ids : List MethodId} {p q : Program} (distinct : ids.Nodup)
    (trace : Trace ReplacesBody ids p q) : IsTrueOf (.applied ids.length) p q
  /-- Each edit has put a new instruction in place, in a place of its own. -/
  | instructions {places : List (MethodId × Nat)} {p q : Program} (distinct : places.Nodup)
    (trace : Trace ReplacesInstruction places p q) : IsTrueOf (.applied places.length) p q

/-- A true outcome counts no edit if and only if the program has not changed. -/
theorem BlockOutcome.IsTrueOf.edits_eq_zero_iff {outcome : BlockOutcome}
    (truth : outcome.IsTrueOf p q) : outcome.edits = 0 ↔ q = p := by
  cases truth with
  | skipped reason => exact iff_of_true rfl rfl
  | bodies distinct trace =>
    exact trace.length_eq_zero_iff distinct fun _ _ _ => ReplacesBody.changesOnly
  | instructions distinct trace =>
    exact trace.length_eq_zero_iff distinct fun _ _ _ => ReplacesInstruction.changesOnly

/-- The edits that a true outcome counts are the methods, or the instructions, that differ. -/
theorem BlockOutcome.IsTrueOf.exists_differing {k : Nat}
    (truth : (BlockOutcome.applied k).IsTrueOf p q) :
    (∃ ids : List MethodId, ids.Nodup ∧ ids.length = k ∧
        ∀ id, id ∈ ids ↔ q.method? id ≠ p.method? id) ∨
      ∃ places : List (MethodId × Nat), places.Nodup ∧ places.length = k ∧
        ∀ place, place ∈ places ↔ q.atPlace place ≠ p.atPlace place := by
  cases truth with
  | bodies distinct trace =>
    exact .inl ⟨_, distinct, rfl, fun _ =>
      trace.mem_iff distinct fun _ _ _ => ReplacesBody.changesOnly⟩
  | instructions distinct trace =>
    exact .inr ⟨_, distinct, rfl, fun _ =>
      trace.mem_iff distinct fun _ _ _ => ReplacesInstruction.changesOnly⟩

/-! ### Plans -/

/-- A forced return that succeeds finds the minimal body in place or puts it there. -/
theorem forceReturn_eq_ok {outcome : ForceOutcome}
    (answer : (forceReturn id value).run p = (.ok outcome, q)) :
    outcome = .unchanged ∧ q = p ∨ outcome = .changed ∧ ReplacesBody id p q := by
  obtain ⟨rest, step, run⟩ := exists_forceStep id value (p.locate? id)
  rw [run p rfl] at answer
  generalize located : p.locate? id = found at step
  cases step with
  | unknownMethod => simp at answer
  | returnKindMismatch _ => simp at answer
  | missingBody _ _ => simp at answer
  | unchanged _ _ _ =>
    obtain ⟨rfl, rfl⟩ := Edit.run_pure_eq_ok answer
    exact .inl ⟨rfl, rfl⟩
  | changed _ body other =>
    obtain ⟨previous, s, put, answer⟩ := Edit.run_bind_eq_ok answer
    obtain ⟨rfl, rfl⟩ := Edit.run_pure_eq_ok answer
    rw [Edit.run_mapError_eq_ok] at put
    refine .inr ⟨rfl, _, previous, put, ?_⟩
    -- The body that was there is the one that has been compared.
    obtain ⟨n, there, has, _⟩ := replaceBody_eq_ok put
    obtain rfl := Option.some.inj ((method?_of_locate? located).symm.trans there)
    obtain rfl := Option.some.inj (body.symm.trans has)
    exact other

/-- What is made of some elements of a list, one thing at most for each, is no longer. -/
theorem flatten_sublist {α κ : Type} {key : α → κ} {items : List α} {made : List (List κ)}
    (each : List.Forall₂ (fun a keys => keys.Sublist [key a]) items made) :
    made.flatten.Sublist (items.map key) := by
  induction each with
  | nil => exact .slnil
  | cons first _ ih => exact first.append ih

/-- The bodies that a plan puts in place are those of some of its methods, in its order. -/
theorem trace_of_run_applyPlan (answer : (applyPlan plan).run p = (.ok n, q)) :
    ∃ ids, ids.Sublist (plan.map PlannedEdit.method) ∧ ids.length = n ∧
      Trace ReplacesBody ids p q := by
  have each : ∀ e ∈ plan, ∀ p n q,
      (do return (← forceReturn e.method e.value).count : Edit EditError Nat).run p = (.ok n, q) →
        ∃ ids, ids.Sublist [e.method] ∧ ids.length = n ∧ Trace ReplacesBody ids p q := by
    intro e _ p n q answer
    obtain ⟨outcome, s, forced, answer⟩ := Edit.run_bind_eq_ok answer
    obtain ⟨rfl, rfl⟩ := Edit.run_pure_eq_ok answer
    rcases forceReturn_eq_ok forced with ⟨rfl, rfl⟩ | ⟨rfl, replaced⟩
    · exact ⟨[], List.nil_sublist _, rfl, .nil⟩
    · exact ⟨[e.method], List.Sublist.refl _, rfl, .cons replaced .nil⟩
  obtain ⟨visits, some, count, trace⟩ := Edit.exists_trace _ each answer
  exact ⟨visits.flatten, flatten_sublist some, count, trace⟩

/-- A fitting plan makes as many edits as it counts. -/
theorem isTrueOf_forceEach (wellFormed : p.IsWellFormed) (fits : p.Fits plan) :
    (BlockOutcome.applied (plan.countP fun e => ¬ e.IsDone p)).IsTrueOf p (p.forceEach plan) := by
  obtain ⟨ids, some, count, trace⟩ := trace_of_run_applyPlan (run_applyPlan wellFormed fits)
  rw [← count]
  exact .bodies (some.nodup fits.distinct) trace

/-! ### Substitutions -/

/-- Zeroing all reads of a field replaces as many instructions as read it. -/
theorem isTrueOf_zeroReads (wellFormed : p.IsWellFormed) (f : FieldRef) :
    (BlockOutcome.applied (p.readCount f)).IsTrueOf p (p.zeroReads f) := by
  obtain ⟨count, trace⟩ :=
    SubstitutionPlan.trace_of_run_apply (SubstitutionPlan.run_apply_collect (f := f) wellFormed)
  rw [← count, ← List.length_map fun place : MethodId × Site => (place.1, place.2.position)]
  exact .instructions trace.nodup_of_zeroesRead (trace.map fun _ _ _ => ZeroesRead.replaces)

/-! ### Blocks -/

/-- Whatever outcome the block has on a well-formed program is true. -/
def Block.IsTruthful (config : Config) (b : Block) : Prop :=
  ∀ patch p outcome q, p.IsWellFormed →
    (b.outcome patch config).run p = (.ok outcome, q) → outcome.IsTrueOf p q

/-- A block whose search comes first is truthful if its edits are. -/
theorem BlockSpec.Describes.isTruthful {τ : Type} {s : BlockSpec τ} (describes : s.Describes b)
    (applied : ∀ p t, p.IsWellFormed →
      (BlockOutcome.applied (s.count config p t)).IsTrueOf p (s.result config p t)) :
    b.IsTruthful config := by
  intro patch p outcome q wellFormed answer
  simp only [Block.outcome] at answer
  cases found : s.search config p with
  | error reason =>
    rw [describes.skips config p reason found] at answer
    obtain ⟨skipped, rfl⟩ := Prod.mk.inj answer
    obtain rfl := Except.ok.inj skipped
    exact .skipped reason
  | ok t =>
    rw [describes.acts config p t wellFormed found] at answer
    obtain ⟨counted, rfl⟩ := Prod.mk.inj answer
    obtain rfl := Except.ok.inj counted
    exact applied p t wellFormed

theorem Builtin.isTruthful_of_mem_blocks : ∀ b ∈ blocks, b.IsTruthful config :=
  forall_mem_blocks.mpr
    ⟨describes_subscriptionTier.isTruthful fun _ _ good => isTrueOf_forceEach good fits_planTier,
      describes_serverChangeDelay.isTruthful fun _ _ good => isTrueOf_forceEach good fits_planDelay,
      describes_crashReporter.isTruthful fun _ _ good => isTrueOf_forceEach good fits_planDisable,
      describes_telemetryFlag.isTruthful fun _ f good => isTrueOf_zeroReads good f⟩

/-! ### Runs -/

/-- The reports are true of blocks that run one after the other, each on the program that the
one before has left. -/
inductive TrueReports (config : Config) :
    List Block → List BlockReport → Program → Program → Prop
  | nil {p : Program} : TrueReports config [] [] p p
  | cons {b : Block} {outcome : BlockOutcome} {blocks : List Block} {reports : List BlockReport}
    {p q r : Program} (left : b.after config p = q) (truth : outcome.IsTrueOf p q)
    (idle : outcome.edits = 0 ↔ q = p) (others : TrueReports config blocks reports q r) :
    TrueReports config (b :: blocks) (⟨b.name, outcome⟩ :: reports) p r

namespace TrueReports

theorem append {later : List Block} {more : List BlockReport}
    (first : TrueReports config list reports p q) (second : TrueReports config later more q r) :
    TrueReports config (list ++ later) (reports ++ more) p r := by
  induction first with
  | nil => exact second
  | cons left truth idle _ ih => exact .cons left truth idle (ih second)

theorem afterEach_eq (truth : TrueReports config list reports p q) :
    afterEach config list p = q := by
  induction truth with
  | nil => rfl
  | cons left _ _ _ ih => rw [afterEach_cons, left, ih]

/-- Blocks that report no edits have left the program alone. -/
theorem eq_self (truth : TrueReports config list reports p q)
    (zero : ∀ r ∈ reports, r.outcome.edits = 0) : q = p := by
  induction truth with
  | nil => rfl
  | cons left _ idle _ ih =>
    obtain ⟨first, others⟩ := List.forall_mem_cons.mp zero
    rw [ih others, idle.mp first]

/-- Blocks that leave the program alone report no edits. -/
theorem edits_eq_zero (truth : TrueReports config list reports p q)
    (unchanged : ∀ b ∈ list, b.after config p = p) : ∀ r ∈ reports, r.outcome.edits = 0 := by
  induction truth with
  | nil => simp
  | cons left _ idle _ ih =>
    obtain ⟨first, others⟩ := List.forall_mem_cons.mp unchanged
    obtain rfl := left.symm.trans first
    exact List.forall_mem_cons.mpr ⟨idle.mpr rfl, ih others⟩

end TrueReports

theorem trueReports_of_run_executeBlocks {patch : String} (total : ∀ b ∈ list, b.IsTotal)
    (truthful : ∀ b ∈ list, b.IsTruthful config) (wellFormed : p.IsWellFormed)
    (answer : (Patch.executeBlocks patch config list).run p = (.ok reports, q)) :
    TrueReports config list reports p q := by
  induction list generalizing p reports with
  | nil =>
    obtain ⟨rfl, rfl⟩ := Edit.run_pure_eq_ok answer
    exact .nil
  | cons b rest ih =>
    obtain ⟨totalFirst, totalRest⟩ := List.forall_mem_cons.mp total
    obtain ⟨first, others⟩ := List.forall_mem_cons.mp truthful
    rw [Patch.executeBlocks, Edit.run_bind, Edit.run_program] at answer
    -- No block is passed over, so each report belongs to its block.
    simp only [totalFirst.applies config p, if_true] at answer
    obtain ⟨outcome, s, ran, answer⟩ := Edit.run_bind_eq_ok answer
    obtain ⟨more, t, remaining, answer⟩ := Edit.run_bind_eq_ok answer
    obtain ⟨rfl, rfl⟩ := Edit.run_pure_eq_ok answer
    have left : b.after config p = s := by
      rw [Block.after, ← b.snd_run_outcome patch, ran]
    have truth := first patch p outcome s wellFormed ran
    exact .cons left truth truth.edits_eq_zero_iff
      (ih totalRest others (left ▸ totalFirst.isWellFormed_after config wellFormed) remaining)

theorem trueReports_of_run_report {patch : Patch} {report : PatchReport} (total : patch.IsTotal)
    (truthful : ∀ b ∈ patch.blocks, b.IsTruthful config) (wellFormed : p.IsWellFormed)
    (answer : (patch.report config options).run p = (.ok report, q)) :
    TrueReports config (patch.activeBlocks options p) report.blocks p q := by
  rw [Patch.report, Edit.run_bind, Edit.run_program] at answer
  by_cases may : patch.MayRun options p
  · simp only [may, if_true] at answer
    obtain ⟨reports, s, ran, answer⟩ := Edit.run_bind_eq_ok answer
    obtain ⟨rfl, rfl⟩ := Edit.run_pure_eq_ok answer
    rw [Patch.activeBlocks, if_pos may]
    exact trueReports_of_run_executeBlocks total truthful wellFormed ran
  · simp only [may, if_false] at answer
    obtain ⟨rfl, rfl⟩ := Edit.run_pure_eq_ok answer
    rw [Patch.activeBlocks, if_neg may]
    exact .nil

theorem trueReports_of_run_runEach {patches : List Patch} {all : List PatchReport}
    (total : ∀ patch ∈ patches, patch.IsTotal)
    (truthful : ∀ patch ∈ patches, ∀ b ∈ patch.blocks, b.IsTruthful config)
    (wellFormed : p.IsWellFormed) (answer : (runEach config options patches).run p = (.ok all, q)) :
    TrueReports config (activeBlocks options patches p) (all.flatMap PatchReport.blocks) p q := by
  induction patches generalizing p all with
  | nil =>
    obtain ⟨rfl, rfl⟩ := Edit.run_pure_eq_ok answer
    exact .nil
  | cons patch rest ih =>
    obtain ⟨totalFirst, totalRest⟩ := List.forall_mem_cons.mp total
    obtain ⟨first, others⟩ := List.forall_mem_cons.mp truthful
    rw [runEach] at answer
    obtain ⟨report, s, ran, answer⟩ := Edit.run_bind_eq_ok answer
    obtain ⟨more, t, remaining, answer⟩ := Edit.run_bind_eq_ok answer
    obtain ⟨rfl, rfl⟩ := Edit.run_pure_eq_ok answer
    have reported := trueReports_of_run_report totalFirst first wellFormed ran
    have steps : p.EditsTo s :=
      reported.afterEach_eq ▸ editsTo_afterEach totalFirst.activeBlocks config
    -- The gate of the other patches is that of the first program.
    have later := ih totalRest others (steps.isWellFormed wellFormed) remaining
    rw [steps.activeBlocks_eq] at later
    exact reported.append later

/-- What a run of truthful patches reports is true. -/
theorem trueReports_of_run_runPatches {patches : List Patch} {report : RunReport}
    (total : ∀ patch ∈ patches, patch.IsTotal)
    (truthful : ∀ patch ∈ patches, ∀ b ∈ patch.blocks, b.IsTruthful config)
    (wellFormed : p.IsWellFormed)
    (answer : (runPatches patches config options).run p = (.ok report, q)) :
    TrueReports config (activeBlocks options patches p)
      (report.patches.flatMap PatchReport.blocks) p q := by
  rw [runPatches] at answer
  obtain ⟨all, s, ran, answer⟩ := Edit.run_bind_eq_ok answer
  obtain ⟨rfl, rfl⟩ := Edit.run_pure_eq_ok answer
  exact trueReports_of_run_runEach total truthful wellFormed ran

namespace Builtin

/-- A run of built-in patches reports the truth of each block, and counts no edit if and only if
it ends with the program that it found. -/
theorem run_reports_truth {package : Option String} {classes : List ClassDecl}
    (accepted : Program.ofClasses package classes = .ok p) {names : List String}
    {selection : List Patch} (selected : selectPatches patches names = .ok selection)
    (config : Config) (options : RunOptions) :
    ∃ report q, (runPatches selection config options).run p = (.ok report, q) ∧
      TrueReports config (activeBlocks options selection p)
        (report.patches.flatMap PatchReport.blocks) p q ∧
      (report.edits = 0 ↔ q = p) := by
  have wellFormed := (Program.ofClasses_eq_ok_iff.mp accepted).2
  have total := isTotal_of_selectPatches selected
  have truthful : ∀ patch ∈ selection, ∀ b ∈ patch.blocks, b.IsTruthful config := by
    intro patch listed b inside
    exact isTruthful_of_mem_blocks b (List.mem_flatMap.mpr
      ⟨patch, mem_of_selectPatches selected patch listed, inside⟩)
  obtain ⟨report, answer, _⟩ := run_runPatches total config options wellFormed
  have truth := trueReports_of_run_runPatches total truthful wellFormed answer
  refine ⟨report, _, answer, truth, ?_⟩
  have counted : report.edits = 0 ↔
      ∀ r ∈ report.patches.flatMap PatchReport.blocks, r.outcome.edits = 0 := by
    rw [RunReport.edits_eq_zero_iff]
    simp only [List.mem_flatMap, forall_exists_index, and_imp]
    exact ⟨fun zero r patch listed inside => zero patch listed r inside,
      fun zero patch listed r inside => zero r patch listed inside⟩
  rw [counted]
  -- A program that comes out as it went in has not been changed on the way.
  refine ⟨truth.eq_self, fun back => truth.edits_eq_zero ?_⟩
  exact after_eq_self_of_afterEach
    (fun _ member => (activeBlocks_sublist selected).subset member) wellFormed back

/-- The crash reporter reads the telemetry flag, as another method does. Both of them change. -/
theorem run_reports_truth_two_blocks :
    let flag : FieldRef := ⟨⟨"LSettings;"⟩, "a", .boolean⟩
    let log : MethodDecl := ⟨"log", [], .void, 0, some ⟨1, 0, [.constString ⟨0⟩ "Telemetry: ",
      .staticField (.sget .boolean) ⟨0⟩ flag, .retVoid]⟩⟩
    let keys : MethodDecl := ⟨"<init>", [], .void, 0, some ⟨1, 0,
      [.constString ⟨0⟩ "sentry_installation_id", .constString ⟨0⟩ "sentry_is_enabled", .retVoid]⟩⟩
    let switch : MethodDecl := ⟨"b", [], .boolean, 0,
      some ⟨2, 1, [.staticField (.sget .boolean) ⟨0⟩ flag, .ret ⟨0⟩]⟩⟩
    let p : Program := ⟨none, [⟨⟨"LSettings;"⟩, none, 0, [], [log]⟩,
      ⟨⟨"LCrash;"⟩, none, 0, [], [keys, switch]⟩]⟩
    Program.ofClasses p.package p.classes = .ok p ∧
      selectPatches patches [] = .ok patches ∧
      ∃ report q, (runPatches patches {} {}).run p = (.ok report, q) ∧
        TrueReports {} (activeBlocks {} patches p)
          (report.patches.flatMap PatchReport.blocks) p q ∧
        (report.edits = 0 ↔ q = p) := by
  intro flag log keys switch p
  have accepted : Program.ofClasses p.package p.classes = .ok p := rfl
  have selected : selectPatches patches [] = .ok patches := rfl
  exact ⟨accepted, selected, run_reports_truth accepted selected {} {}⟩

end Builtin

end DexPatch
