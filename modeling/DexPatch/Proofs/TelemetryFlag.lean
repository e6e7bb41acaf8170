import DexPatch.Proofs.FirstMatch
import DexPatch.Proofs.MarkerSearch
import DexPatch.Proofs.RunLoop
import DexPatch.Proofs.SecondRun
import DexPatch.Proofs.Trace

/-!
# What becomes of the telemetry flag

The block looks for the flag in a program that other blocks have been at, and three scans have to
agree there: the fingerprint that finds the class, the search near the marker that finds the
field, and the collection of the reads. They do. A field that is found is read somewhere, so the
block never counts no edit, and it leaves no read behind. The marker itself stays, since a load of
a string reads no field.

## Main definitions

* `Builtin.FlagAnswer` — all that the block can answer, and what it then leaves

## Main results

* `Builtin.target_cases` — a search by fingerprint, said without it
* `Builtin.flagAnswer_of_passes` — the block answers nothing else
* `Builtin.run_flagAnswer` — nor does it as part of a run
-/

namespace DexPatch

open Program

variable {p q : Program} {config : Config} {options : RunOptions} {f : FieldRef} {m : MethodDecl}

/-! ### Blocks with a specification -/

namespace BlockSpec.Describes

variable {τ : Type} {t : τ} {s : BlockSpec τ} {b : Block} {outcome : BlockOutcome}
  {reason : SkipReason}

/-- A block that passes without a target was skipped. -/
theorem passes_of_error (describes : s.Describes b) (missing : s.search config p = .error reason)
    (passes : b.Passes config outcome p q) : outcome = .skipped reason ∧ q = p := by
  have ran := passes.run_outcome ""
  simp only [Block.outcome, describes.skips config p reason missing] at ran
  obtain ⟨skipped, left⟩ := Prod.mk.inj ran
  exact ⟨(Except.ok.inj skipped).symm, left.symm⟩

/-- A block that passes with a target has done all that is specified. -/
theorem passes_of_ok (describes : s.Describes b) (wellFormed : p.IsWellFormed)
    (found : s.search config p = .ok t) (passes : b.Passes config outcome p q) :
    outcome = .applied (s.count config p t) ∧ q = s.result config p t := by
  have ran := passes.run_outcome ""
  simp only [Block.outcome, describes.acts config p t wellFormed found] at ran
  obtain ⟨counted, left⟩ := Prod.mk.inj ran
  exact ⟨(Except.ok.inj counted).symm, left.symm⟩

end BlockSpec.Describes

namespace Builtin

/-! ### Searches -/

/-- A search by fingerprint finds the first class that has a match, if any. -/
theorem target_cases (fp : Fingerprint) (p : Program) :
    (target fp p = .error (.noMatch fp.name) ∧
        ∀ id m, p.method? id = some m → ¬ fp.Matches m) ∨
      ∃ id c, target fp p = .ok (id, c) ∧ p.IsFirstWith fp.Matches id c := by
  rw [target]
  cases found : fp.find? p with
  | none => exact .inl ⟨rfl, Fingerprint.find?_eq_none_iff.mp found⟩
  | some first =>
    obtain ⟨c, isFirst⟩ := Fingerprint.isFirstWith_of_find? found
    refine .inr ⟨first.owner, c, ?_, isFirst⟩
    rw [Option.bind_some, isFirst.declared]
    rfl

theorem matches_localUserSettings (marker : String) :
    (localUserSettings marker).Matches = (·.Loads marker) := by
  ext m
  simp [Fingerprint.matches_iff, localUserSettings]

/-! ### The block -/

/-- All that the block of the telemetry flag can answer on a program, and the program that it then
leaves. -/
inductive FlagAnswer (config : Config) : BlockOutcome → Program → Program → Prop
  /-- The flag is found near the marker, and no read of it is left. -/
  | applied {n : Nat} {p q : Program} {id : ClassId} {c : ClassDecl} {f : FieldRef}
      (first : p.IsFirstWith (·.Loads config.telemetryMarker) id c)
      (chosen : c.fieldNearString config.telemetryMarker config.lookaheadWindow = .ok f)
      (positive : 1 ≤ n) (count : n = p.readCount f)
      (silent : ∀ id m, q.method? id = some m → ¬ m.ReadsField f)
      (marker : ∀ id k i, p.instruction? id k = some i →
        i.loadedString? = some config.telemetryMarker → q.instruction? id k = some i) :
      FlagAnswer config (.applied n) p q
  /-- No method loads the marker. -/
  | noMatch {p : Program} (none : ∀ id m, p.method? id = some m → ¬ m.Loads config.telemetryMarker) :
      FlagAnswer config (.skipped (.noMatch "LocalUserSettings")) p p
  /-- No boolean read is near the marker in the first class that has a method that loads it. -/
  | notFound {p : Program} {id : ClassId} {c : ClassDecl}
      (first : p.IsFirstWith (·.Loads config.telemetryMarker) id c)
      (nowhere : ∀ m ∈ c.methods,
        ¬ ∃ i k, IsReadNear config.telemetryMarker config.lookaheadWindow m.code i k) :
      FlagAnswer config (.skipped (.unresolved "telemetry field" .notFound)) p p

/-- Loads of strings stay in place. -/
theorem instruction?_zeroReads_of_loadedString? {id : MethodId} {k : Nat} {i : Instruction}
    {s : String} (there : p.instruction? id k = some i) (loads : i.loadedString? = some s) :
    (p.zeroReads f).instruction? id k = some i := by
  have other : ¬ i.Reads f := fun reads => by
    rw [reads.loadedString?_eq_none] at loads
    contradiction
  obtain ⟨m, found, inCode⟩ := Option.bind_eq_some_iff.mp there
  have after : (p.zeroReads f).method? id = some (m.zeroReads f) := by
    rw [method?_zeroReads, found, Option.map_some]
  rw [instruction?_eq after, MethodDecl.code_zeroReads, List.getElem?_map, inCode, Option.map_some,
    Instruction.zeroRead_of_not_reads other]

/-- The search for the flag finds it near the marker in the first class that has a method that loads
it, or tells why there is none. -/
theorem telemetryTarget_cases (config : Config) (wellFormed : p.IsWellFormed) :
    (∃ id c f, telemetryTarget config p = .ok f ∧
        p.IsFirstWith (·.Loads config.telemetryMarker) id c ∧
        c.fieldNearString config.telemetryMarker config.lookaheadWindow = .ok f) ∨
      (telemetryTarget config p = .error (.noMatch "LocalUserSettings") ∧
        ∀ id m, p.method? id = some m → ¬ m.Loads config.telemetryMarker) ∨
      ∃ id c, telemetryTarget config p = .error (.unresolved "telemetry field" .notFound) ∧
        p.IsFirstWith (·.Loads config.telemetryMarker) id c ∧
        ∀ m ∈ c.methods,
          ¬ ∃ i k, IsReadNear config.telemetryMarker config.lookaheadWindow m.code i k := by
  rcases target_cases (localUserSettings config.telemetryMarker) p with ⟨missing, none⟩ |
    ⟨id, c, found, first⟩
  · rw [matches_localUserSettings] at none
    refine .inr (.inl ⟨?_, none⟩)
    rw [telemetryTarget, missing]
    rfl
  · rw [matches_localUserSettings] at first
    have inClass := wellFormed.instruction_of_mem (List.mem_of_getElem? first.declared)
    cases near : c.fieldNearString config.telemetryMarker config.lookaheadWindow with
    | ok f =>
      refine .inl ⟨id, c, f, ?_, first, near⟩
      simp [telemetryTarget, found, near, bind, Except.bind, Except.mapError]
    | error e =>
      obtain ⟨rfl, nowhere⟩ := (ClassDecl.fieldNearString_eq_error_iff inClass).mp near
      refine .inr (.inr ⟨id, c, ?_, first, nowhere⟩)
      simp [telemetryTarget, found, near, bind, Except.bind, Except.mapError]

/-- The block answers nothing else on a well-formed program. -/
theorem flagAnswer_of_passes {outcome : BlockOutcome} (wellFormed : p.IsWellFormed)
    (passes : telemetryFlag.Passes config outcome p q) : FlagAnswer config outcome p q := by
  rcases telemetryTarget_cases config wellFormed with ⟨id, c, f, found, first, near⟩ |
    ⟨missing, none⟩ | ⟨id, c, missing, first, nowhere⟩
  · obtain ⟨rfl, rfl⟩ := describes_telemetryFlag.passes_of_ok wellFormed found passes
    refine .applied first near ?_ rfl ?_ ?_
    · exact Nat.one_le_iff_ne_zero.mpr (readCount_ne_zero_of_telemetryTarget found)
    · exact fun other m there => wellFormed.not_readsField_zeroReads there
    · exact fun other k i there loads => instruction?_zeroReads_of_loadedString? there loads
  · obtain ⟨rfl, rfl⟩ := describes_telemetryFlag.passes_of_error missing passes
    exact .noMatch none
  · obtain ⟨rfl, rfl⟩ := describes_telemetryFlag.passes_of_error missing passes
    exact .notFound first nowhere

/-! ### Runs -/

/-- If the patch against telemetry is selected at all, then it runs last. -/
theorem selection_eq_of_name_mem {names : List String} {selection : List Patch}
    (selected : selectPatches patches names = .ok selection)
    (named : disableTelemetry.name ∈ selection.map Patch.name) :
    ∃ before, selection = before ++ [disableTelemetry] ∧
      disableTelemetry.name ∉ before.map Patch.name := by
  -- A selection keeps the order of the built-in patches, and this one is the last of them.
  have parts : selection.Sublist ([unlockPremium] ++ [disableTelemetry]) :=
    selectPatches_sublist selected
  obtain ⟨before, last, rfl, sub, sub'⟩ := List.sublist_append_iff.mp parts
  have other : disableTelemetry.name ∉ before.map Patch.name := by
    intro named
    have same := (sub.map Patch.name).subset named
    revert same
    decide
  rcases List.sublist_singleton.mp sub' with rfl | rfl
  · rw [List.append_nil] at named
    exact absurd named other
  · exact ⟨before, rfl, other⟩

/-- The block of the flag comes after that of the crash reporter, and neither is passed over. -/
theorem flagAnswer_of_blocksPass {blocks : List BlockReport} (wellFormed : p.IsWellFormed)
    (pass : BlocksPass config disableTelemetry.blocks blocks p q) :
    ∃ crash outcome, blocks = [⟨crashReporterBlock.name, crash⟩, ⟨telemetryFlag.name, outcome⟩] ∧
      FlagAnswer config outcome (crashReporterBlock.after config p) q := by
  cases pass with
  | passedOver applies _ => exact absurd rfl applies
  | cons _ crash pass =>
    cases pass with
    | passedOver applies _ => exact absurd rfl applies
    | cons _ flag pass =>
      cases pass with
      | nil =>
        -- The block before may have replaced bodies, but each new one is valid.
        have good := describes_crashReporter.isTotal.isWellFormed_after config wellFormed
        rw [crash.after_eq] at good ⊢
        exact ⟨_, _, rfl, flagAnswer_of_passes good flag⟩

/-- In a run of built-in patches that executes the patch against telemetry, the block of the flag
is the last one that runs. It answers what it should of the program that the blocks before it
leave, and what it leaves is the program in which the run ends. -/
theorem run_flagAnswer {package : Option String} {classes : List ClassDecl}
    (accepted : Program.ofClasses package classes = .ok p) {names : List String}
    {selection : List Patch} (selected : selectPatches patches names = .ok selection)
    (config : Config) (options : RunOptions) :
    ∃ report q, (runPatches selection config options).run p = (.ok report, q) ∧
      ∀ entry ∈ report.patches, entry.name = disableTelemetry.name → entry.status = .executed →
        ∃ earlier crash outcome,
          activeBlocks options selection p = earlier ++ [telemetryFlag] ∧
          entry.blocks = [⟨crashReporterBlock.name, crash⟩, ⟨telemetryFlag.name, outcome⟩] ∧
          FlagAnswer config outcome (afterEach config earlier p) q := by
  have wellFormed := (Program.ofClasses_eq_ok_iff.mp accepted).2
  have total := isTotal_of_selectPatches selected
  obtain ⟨reports, pass⟩ := exists_patchesPass total config options wellFormed
  refine ⟨⟨reports⟩, _, pass.run, ?_⟩
  intro entry reported named executed
  have member : disableTelemetry.name ∈ selection.map Patch.name := by
    rw [← pass.map_name, ← named]
    exact List.mem_map_of_mem reported
  obtain ⟨before, rfl, other⟩ := selection_eq_of_name_mem selected member
  have totalBefore : ∀ patch ∈ before, patch.IsTotal := fun patch listed =>
    total patch (List.mem_append_left _ listed)
  obtain ⟨first, mid, passBefore, gate, passLast⟩ :=
    pass.exists_blocksPass_of_last other reported named executed
  -- The block runs on what all blocks before it leave, those of other patches included.
  have left := passBefore.eq_afterEach totalBefore wellFormed
  have steps : p.EditsTo mid := by
    rw [left]
    exact editsTo_afterEach (fun b => isTotal_of_mem_activeBlocks totalBefore) config
  have may : disableTelemetry.MayRun options p :=
    steps.mayRun_iff.mp (Patch.not_isExcluded_iff.mp gate)
  obtain ⟨crash, outcome, blocks, answer⟩ :=
    flagAnswer_of_blocksPass (steps.isWellFormed wellFormed) passLast
  refine ⟨activeBlocks options before p ++ [crashReporterBlock], crash, outcome, ?_, blocks, ?_⟩
  · rw [activeBlocks, List.flatMap_append, List.flatMap_singleton, Patch.activeBlocks, if_pos may,
      List.append_assoc]
    rfl
  · rwa [afterEach_append, ← left]

/-- The flag is read near the marker and in a class before it. Both reads are gone afterwards. -/
theorem run_flagAnswer_read_elsewhere :
    let flag : FieldRef := ⟨⟨"LSettings;"⟩, "a", .boolean⟩
    let read : Instruction := .staticField (.sget .boolean) ⟨0⟩ flag
    let enabled : MethodDecl := ⟨"enabled", [], .boolean, 0, some ⟨1, 0, [read, .ret ⟨0⟩]⟩⟩
    let log : MethodDecl := ⟨"log", [], .void, 0,
      some ⟨2, 0, [.constString ⟨1⟩ "Telemetry: ", read, .retVoid]⟩⟩
    let p : Program := ⟨none, [⟨⟨"LMain;"⟩, none, 0, [], [enabled]⟩,
      ⟨⟨"LSettings;"⟩, none, 0, [], [log]⟩]⟩
    Program.ofClasses p.package p.classes = .ok p ∧
      selectPatches patches ["disable telemetry"] = .ok [disableTelemetry] ∧
      ∃ q, (runPatches [disableTelemetry] {} {}).run p =
          (.ok ⟨[⟨"Disable telemetry", .executed,
            [⟨"crash reporter", .skipped (.noMatch "SentryIntegration")⟩,
              ⟨"telemetry flag", .applied 2⟩]⟩]⟩, q) ∧
        FlagAnswer {} (.applied 2) (crashReporterBlock.after {} p) q := by
  intro flag read enabled log p
  have accepted : Program.ofClasses p.package p.classes = .ok p := rfl
  have selected : selectPatches patches ["disable telemetry"] = .ok [disableTelemetry] := rfl
  obtain ⟨report, q, run, answers⟩ := run_flagAnswer accepted selected {} {}
  have said : ((runPatches [disableTelemetry] {} {}).run p).1 =
      .ok ⟨[⟨"Disable telemetry", .executed,
        [⟨"crash reporter", .skipped (.noMatch "SentryIntegration")⟩,
          ⟨"telemetry flag", .applied 2⟩]⟩]⟩ := by
    decide +zetaReduce
  rw [run] at said
  obtain rfl := Except.ok.inj said
  obtain ⟨earlier, crash, outcome, active, blocks, answer⟩ :=
    answers _ List.mem_cons_self rfl rfl
  obtain rfl : [crashReporterBlock] = earlier := List.append_cancel_right active
  simp only [List.cons.injEq, BlockReport.mk.injEq] at blocks
  obtain rfl := blocks.2.1.2
  exact ⟨accepted, selected, q, run, answer⟩

end Builtin

end DexPatch
