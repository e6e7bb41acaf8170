import Mathlib.Data.List.Flatten
import DexPatch.Proofs.BuiltinBlocks
import DexPatch.Proofs.Settling

/-!
# Second runs

A second run of the built-in patches searches in a program from which the first run has
removed some of the clues. While a search finds what it found in the first run, there is
nothing left to do. A search that moves on to another class or field may find work there, and
the search for the telemetry field does so whenever it succeeds, since every field that it
finds is still read.

## Main definitions

* `Builtin.blocks` — the four built-in blocks in the order in which they run
* `Builtin.Settled` — no search of a second run moves on to something that is left to do

## Main results

* `Builtin.eachMethod_tier`, `Builtin.eachMethod_delay`, `Builtin.eachMethod_crash` — what the
  first run found is settled for good
* `Builtin.readCount_ne_zero_of_telemetryTarget` — a telemetry field that is found is read
* `Builtin.second_run_idle_iff` — a second run changes nothing if and only if all is settled
-/

namespace DexPatch

open Program

variable {p : Program} {config : Config} {options : RunOptions} {id : ClassId} {f : FieldRef}
  {P : MethodDecl → Prop}

/-- A property of all methods of a class survives a block that forces returns, if it survives
each of the edits. -/
theorem eachMethod_after {b : Block} {τ : Type} {search : Config → Program → Except SkipReason τ}
    {plan : Config → Program → τ → List PlannedEdit}
    (describes : (BlockSpec.ofPlan search plan).Describes b) (wellFormed : p.IsWellFormed)
    (fits : ∀ t, p.Fits (plan config p t)) (each : p.EachMethod id P)
    (forced : ∀ t, ∀ e ∈ plan config p t, ∀ m, p.method? e.method = some m → P m →
      P (m.forced e.value)) :
    (b.after config p).EachMethod id P := by
  cases found : search config p with
  | error reason =>
    rw [describes.after_of_error found]
    exact each
  | ok t =>
    rw [describes.after_of_ok wellFormed found]
    exact each.forceEach (fits t) (forced t)

namespace Builtin

/-! ### Searches for what is there -/

theorem class?_of_target {fp : Fingerprint} {c : ClassDecl} (found : target fp p = .ok (id, c)) :
    p.class? id = some c := by
  unfold target at found
  split at found
  · rename_i h
    obtain rfl := Except.ok.inj found
    obtain ⟨first, _, there⟩ := Option.bind_eq_some_iff.mp h
    obtain ⟨d, hd, same⟩ := Option.map_eq_some_iff.mp there
    obtain ⟨rfl, rfl⟩ := Prod.mk.inj same
    exact hd
  · contradiction

theorem exists_reads_of_readNearString? {marker : String} {window : Nat}
    {code : List Instruction} (found : ClassDecl.readNearString? marker window code = some f) :
    ∃ i ∈ code, i.Reads f := by
  induction code with
  | nil => contradiction
  | cons i rest ih =>
    have later (found : ClassDecl.readNearString? marker window rest = some f) :
        ∃ j ∈ i :: rest, j.Reads f := by
      obtain ⟨j, hj, reads⟩ := ih found
      exact ⟨j, List.mem_cons_of_mem i hj, reads⟩
    rw [ClassDecl.readNearString?] at found
    split at found
    · split at found
      · rename_i near
        obtain rfl := Option.some.inj found
        obtain ⟨j, hj, field⟩ := Option.bind_eq_some_iff.mp near
        have boolean : j.opcode.isBooleanFieldRead := by simpa using List.find?_some hj
        refine ⟨j, List.mem_cons_of_mem i ?_, Instruction.reads_of_isFieldRead
          (Instruction.isFieldRead_of_isBooleanFieldRead boolean) field⟩
        exact List.mem_of_mem_take (List.mem_of_find?_eq_some hj)
      · exact later found
    · exact later found

theorem exists_reads_of_fieldNearString {c : ClassDecl} {marker : String} {window : Nat}
    (found : c.fieldNearString marker window = .ok f) : ∃ m ∈ c.methods, m.ReadsField f := by
  unfold ClassDecl.fieldNearString at found
  split at found
  · rename_i near
    obtain rfl := Except.ok.inj found
    obtain ⟨m, hm, read⟩ := List.exists_of_findSome?_eq_some near
    exact ⟨m, hm, exists_reads_of_readNearString? read⟩
  · contradiction

/-- A telemetry field that is found is read somewhere. -/
theorem readCount_ne_zero_of_telemetryTarget (found : telemetryTarget config p = .ok f) :
    p.readCount f ≠ 0 := by
  unfold telemetryTarget at found
  cases marked : target (localUserSettings config.telemetryMarker) p with
  | error reason =>
    rw [marked] at found
    contradiction
  | ok t =>
    obtain ⟨owner, c⟩ := t
    cases near : c.fieldNearString config.telemetryMarker config.lookaheadWindow with
    | error reason =>
      rw [marked] at found
      simp [bind, Except.bind, near, Except.mapError] at found
    | ok g =>
      rw [marked] at found
      obtain rfl : g = f := by simpa [bind, Except.bind, near, Except.mapError] using found
      obtain ⟨m, hm, reads⟩ := exists_reads_of_fieldNearString near
      obtain ⟨id, listed⟩ :=
        exists_method?_iff.mpr ⟨c, List.mem_of_getElem? (class?_of_target marked), hm⟩
      exact fun zero => readCount_eq_zero_iff.mp zero id m listed reads

/-! ### Blocks that find what they found before -/

/-- The blocks of all built-in patches in the order in which they run. -/
def blocks : List Block :=
  [subscriptionTier, serverChangeDelay, crashReporterBlock, telemetryFlag]

theorem forall_mem_blocks {Q : Block → Prop} :
    (∀ b ∈ blocks, Q b) ↔
      Q subscriptionTier ∧ Q serverChangeDelay ∧ Q crashReporterBlock ∧ Q telemetryFlag := by
  simp [blocks]

theorem isTotal_of_mem_blocks : ∀ b ∈ blocks, b.IsTotal :=
  forall_mem_blocks.mpr ⟨describes_subscriptionTier.isTotal, describes_serverChangeDelay.isTotal,
    describes_crashReporter.isTotal, describes_telemetryFlag.isTotal⟩

theorem eachMethod_after_telemetryFlag (wellFormed : p.IsWellFormed) (each : p.EachMethod id P)
    (zeroed : ∀ f m, P m → P (m.zeroReads f)) :
    (telemetryFlag.after config p).EachMethod id P := by
  cases found : telemetryTarget config p with
  | error reason =>
    rw [describes_telemetryFlag.after_of_error found]
    exact each
  | ok f =>
    rw [describes_telemetryFlag.after_of_ok wellFormed found]
    exact each.zeroReads (zeroed f)

/-- The class that the crash reporter had is disabled for good. -/
theorem eachMethod_crash (config : Config) (wellFormed : p.IsWellFormed)
    (found : crashTarget p = .ok id) :
    (afterEach config (blocks.drop 2) p).EachMethod id MethodDecl.IsDisabled := by
  have disabled : (crashReporterBlock.after config p).EachMethod id MethodDecl.IsDisabled := by
    rw [describes_crashReporter.after_of_ok wellFormed found]
    change (p.forceEach (p.planRoles id MethodDecl.disableRole? 0)).EachMethod id _
    exact eachMethod_forceEach_planRoles
      (fun m none role known => by rw [none] at known; contradiction)
      (fun m role known => MethodDecl.isDisabled_forced known)
  have wellFormed' := describes_crashReporter.isTotal.isWellFormed_after config wellFormed
  exact eachMethod_after_telemetryFlag wellFormed' disabled fun f m disabled => disabled.zeroReads

/-- The class that had the delays has none any more. -/
theorem eachMethod_delay (wellFormed : p.IsWellFormed) (found : delayTarget p = .ok id)
    (zero : 0 ∉ config.delayLiterals) :
    (afterEach config (blocks.drop 1) p).EachMethod id
      (·.delayEdit? config.delayLiterals = none) := by
  have settled : (serverChangeDelay.after config p).EachMethod id
      (·.delayEdit? config.delayLiterals = none) := by
    rw [describes_serverChangeDelay.after_of_ok wellFormed found]
    change (p.forceEach (p.planDelay id config.delayLiterals)).EachMethod id _
    rw [planDelay_eq]
    refine eachMethod_forceEach_planRoles (fun m none => none) fun m role known => ?_
    obtain ⟨_, rfl⟩ := MethodDecl.delayEdit?_eq_some_iff.mp known
    exact MethodDecl.delayEdit?_forced zero
  have wellFormed₁ := describes_serverChangeDelay.isTotal.isWellFormed_after config wellFormed
  have wellFormed₂ := describes_crashReporter.isTotal.isWellFormed_after config wellFormed₁
  refine eachMethod_after_telemetryFlag wellFormed₂ ?_ fun f m =>
    MethodDecl.delayEdit?_zeroReads zero
  refine eachMethod_after describes_crashReporter wellFormed₁ (fun _ => fits_planDisable) settled ?_
  -- Disabling may force methods of the same class, but none that returns a number.
  intro t e planned m found' _
  obtain ⟨n, role, _, found, known, _⟩ := mem_planRoles.mp planned
  obtain rfl := Option.some.inj (found.symm.trans found')
  have number : n.ret ≠ .int := MethodDecl.ret_ne_int_of_disableRole? known
  exact MethodDecl.delayEdit?_eq_none_of_ret_ne (m := n.forced e.value) number

/-- The tier field of the user class has no tier checks any more. -/
theorem eachMethod_tier (wellFormed : p.IsWellFormed) (found : tierTarget p = .ok (id, f)) :
    (afterEach config blocks p).EachMethod id (·.tierEdit? f = none) := by
  have settled : (subscriptionTier.after config p).EachMethod id (·.tierEdit? f = none) := by
    rw [describes_subscriptionTier.after_of_ok wellFormed found]
    change (p.forceEach (p.planTier id f config.elevatedTier)).EachMethod id _
    rw [planTier_eq]
    exact eachMethod_forceEach_planRoles (fun m none => none) fun _ _ _ =>
      MethodDecl.tierEdit?_forced
  have wellFormed₁ := describes_subscriptionTier.isTotal.isWellFormed_after config wellFormed
  have wellFormed₂ := describes_serverChangeDelay.isTotal.isWellFormed_after config wellFormed₁
  have wellFormed₃ := describes_crashReporter.isTotal.isWellFormed_after config wellFormed₂
  -- Methods that the later blocks change read the tier field no more often than before.
  refine eachMethod_after_telemetryFlag wellFormed₃ ?_ fun f m => MethodDecl.tierEdit?_zeroReads
  refine eachMethod_after describes_crashReporter wellFormed₂ (fun _ => fits_planDisable) ?_
    fun _ _ _ _ _ _ => MethodDecl.tierEdit?_forced
  exact eachMethod_after describes_serverChangeDelay wellFormed₁ (fun _ => fits_planDelay) settled
    fun _ _ _ _ _ _ => MethodDecl.tierEdit?_forced

/-! ### A second run -/

/-- On what the first run on `p` leaves, every search either fails, or finds what it found in
the first run, or finds methods that do already what they are to do. Delays that are known by
the literal zero are found again, and so are fields that are read after the marker. -/
structure Settled (config : Config) (p once : Program) : Prop where
  tier : ∀ id f, tierTarget once = .ok (id, f) → tierTarget p = .ok (id, f) ∨
    ∀ e ∈ once.planTier id f config.elevatedTier, e.IsDone once
  delay : ∀ id, delayTarget once = .ok id →
    (delayTarget (afterEach config (blocks.take 1) p) = .ok id ∧ 0 ∉ config.delayLiterals) ∨
    ∀ e ∈ once.planDelay id config.delayLiterals, e.IsDone once
  crash : ∀ id, crashTarget once = .ok id →
    crashTarget (afterEach config (blocks.take 2) p) = .ok id ∨
    ∀ e ∈ once.planDisable id, e.IsDone once
  telemetry : ∀ f, telemetryTarget config once ≠ .ok f

theorem isIdle_subscriptionTier_iff (wellFormed : p.IsWellFormed) :
    subscriptionTier.IsIdle config p ↔ ∀ id f, tierTarget p = .ok (id, f) →
      ∀ e ∈ p.planTier id f config.elevatedTier, e.IsDone p := by
  rw [describes_subscriptionTier.isIdle_iff wellFormed, Prod.forall]
  exact forall_congr' fun id => forall_congr' fun f => imp_congr_right fun _ =>
    BlockSpec.count_ofPlan_eq_zero_iff

theorem isIdle_serverChangeDelay_iff (wellFormed : p.IsWellFormed) :
    serverChangeDelay.IsIdle config p ↔ ∀ id, delayTarget p = .ok id →
      ∀ e ∈ p.planDelay id config.delayLiterals, e.IsDone p := by
  rw [describes_serverChangeDelay.isIdle_iff wellFormed]
  exact forall_congr' fun id => imp_congr_right fun _ => BlockSpec.count_ofPlan_eq_zero_iff

theorem isIdle_crashReporter_iff (wellFormed : p.IsWellFormed) :
    crashReporterBlock.IsIdle config p ↔ ∀ id, crashTarget p = .ok id →
      ∀ e ∈ p.planDisable id, e.IsDone p := by
  rw [describes_crashReporter.isIdle_iff wellFormed]
  exact forall_congr' fun id => imp_congr_right fun _ => BlockSpec.count_ofPlan_eq_zero_iff

/-- The telemetry block is idle only if it is skipped. -/
theorem isIdle_telemetryFlag_iff (wellFormed : p.IsWellFormed) :
    telemetryFlag.IsIdle config p ↔ ∀ f, telemetryTarget config p ≠ .ok f := by
  rw [describes_telemetryFlag.isIdle_iff wellFormed]
  refine forall_congr' fun f => imp_congr_right fun found => ?_
  exact ⟨fun zero => readCount_ne_zero_of_telemetryTarget found zero, False.elim⟩

/-- What a first run leaves is settled if and only if all blocks are idle on it. -/
theorem settled_iff (wellFormed : p.IsWellFormed) :
    Settled config p (afterEach config blocks p) ↔
      ∀ b ∈ blocks, b.IsIdle config (afterEach config blocks p) := by
  have stage (k : Nat) : (afterEach config (blocks.take k) p).IsWellFormed :=
    (editsTo_afterEach (fun b hb => isTotal_of_mem_blocks b (List.mem_of_mem_take hb))
      config).isWellFormed wellFormed
  have wellFormed' := (editsTo_afterEach isTotal_of_mem_blocks config).isWellFormed wellFormed
  rw [forall_mem_blocks, isIdle_subscriptionTier_iff wellFormed',
    isIdle_serverChangeDelay_iff wellFormed', isIdle_crashReporter_iff wellFormed',
    isIdle_telemetryFlag_iff wellFormed']
  constructor
  · intro settled
    -- What is found again was settled by the first run, and later blocks have kept it so.
    refine ⟨fun id f found => ?_, fun id found => ?_, fun id found => ?_, settled.telemetry⟩
    · rcases settled.tier id f found with same | done
      · rw [planTier_eq_nil (eachMethod_tier wellFormed same)]
        exact nofun
      · exact done
    · rcases settled.delay id found with ⟨same, zero⟩ | done
      · have each := eachMethod_delay (stage 1) same zero
        rw [afterEach_drop_take] at each
        rw [planDelay_eq_nil each]
        exact nofun
      · exact done
    · rcases settled.crash id found with same | done
      · have each := eachMethod_crash config (stage 2) same
        rw [afterEach_drop_take] at each
        exact fun e => isDone_of_mem_planDisable each
      · exact done
  · rintro ⟨tier, delay, crash, telemetry⟩
    exact ⟨fun id f found => .inr (tier id f found), fun id found => .inr (delay id found),
      fun id found => .inr (crash id found), telemetry⟩

theorem activeBlocks_patches :
    activeBlocks options patches p = if unlockPremium.MayRun options p then blocks else [] := by
  have alike : disableTelemetry.MayRun options p ↔ unlockPremium.MayRun options p := Iff.rfl
  simp only [activeBlocks, patches, List.flatMap_cons, List.flatMap_nil, Patch.activeBlocks, alike]
  split <;> rfl

/-- Whatever is selected, a run goes through some of the four blocks in their order. -/
theorem activeBlocks_sublist {names : List String} {selection : List Patch}
    (selected : selectPatches patches names = .ok selection) :
    (activeBlocks options selection p).Sublist blocks := by
  refine ((selectPatches_sublist selected).flatMap (Patch.activeBlocks options p)).trans ?_
  change (activeBlocks options patches p).Sublist blocks
  rw [activeBlocks_patches]
  split
  · exact List.Sublist.refl _
  · exact List.nil_sublist _

/-- The program that a run of the built-in patches leaves behind. -/
def afterRun (config : Config) (options : RunOptions) (p : Program) : Program :=
  ((runPatches patches config options).run p).2

/-- A second run comes to its end. It makes no edit and changes nothing if and only if the
patches may not run at all or everything is settled. -/
theorem second_run_idle_iff {package : Option String} {classes : List ClassDecl}
    (accepted : Program.ofClasses package classes = .ok p) (config : Config)
    (options : RunOptions) :
    ∃ report, (runPatches patches config options).run (afterRun config options p) =
        (.ok report, afterRun config options (afterRun config options p)) ∧
      (report.edits = 0 ∧
          afterRun config options (afterRun config options p) = afterRun config options p ↔
        (unlockPremium.MayRun options p → Settled config p (afterRun config options p))) := by
  have wellFormed := (Program.ofClasses_eq_ok_iff.mp accepted).2
  obtain ⟨_, first, _⟩ := run_runPatches isTotal config options wellFormed
  have left : afterRun config options p = afterEach config (activeBlocks options patches p) p :=
    congrArg Prod.snd first
  have total : ∀ b ∈ activeBlocks options patches p, b.IsTotal := fun b =>
    isTotal_of_mem_activeBlocks isTotal
  have steps : p.EditsTo (afterRun config options p) := left ▸ editsTo_afterEach total config
  have wellFormed' := steps.isWellFormed wellFormed
  -- The gate goes by the package, so the second run reaches the blocks that the first one did.
  obtain ⟨report, second, _, idle⟩ := run_runPatches isTotal config options wellFormed'
  rw [steps.activeBlocks_eq] at second idle
  have again : afterRun config options (afterRun config options p) =
      afterEach config (activeBlocks options patches p) (afterRun config options p) :=
    congrArg Prod.snd second
  refine ⟨report, by rw [second, again], ?_⟩
  have unchanged : report.edits = 0 →
      afterRun config options (afterRun config options p) = afterRun config options p := by
    intro zero
    rw [again]
    exact afterEach_eq_self total wellFormed' (idle.mp zero)
  rw [and_iff_left_of_imp unchanged, idle]
  by_cases may : unlockPremium.MayRun options p
  · rw [activeBlocks_patches, if_pos may] at left ⊢
    rw [left, ← settled_iff wellFormed]
    exact ⟨fun settled _ => settled, fun settled => settled may⟩
  · rw [activeBlocks_patches, if_neg may]
    exact ⟨fun _ h => absurd h may, fun _ => nofun⟩

/-- The only flag that is read after the marker is not found again. -/
theorem second_run_idle_iff_one_flag :
    let flag : FieldRef := ⟨⟨"LSettings;"⟩, "a", .boolean⟩
    let log : MethodDecl := ⟨"log", [], .void, 0, some ⟨1, 0, [.constString ⟨0⟩ "Telemetry: ",
      .staticField (.sget .boolean) ⟨0⟩ flag, .retVoid]⟩⟩
    let p : Program := ⟨none, [⟨⟨"LSettings;"⟩, none, 0, [], [log]⟩]⟩
    Program.ofClasses p.package p.classes = .ok p ∧ afterRun {} {} p ≠ p ∧
      Settled {} p (afterRun {} {} p) := by
  intro flag log p
  have accepted : Program.ofClasses p.package p.classes = .ok p := rfl
  have changed : afterRun {} {} p ≠ p := by decide +kernel +zetaReduce
  have noEdit : ((runPatches patches {} {}).run (afterRun {} {} p)).1.map RunReport.edits =
      .ok 0 := by decide +kernel +zetaReduce
  have same : afterRun {} {} (afterRun {} {} p) = afterRun {} {} p := by
    decide +kernel +zetaReduce
  obtain ⟨report, answer, settled⟩ := second_run_idle_iff accepted {} {}
  rw [answer] at noEdit
  exact ⟨accepted, changed, settled.mp ⟨Except.ok.inj noEdit, same⟩ (by decide)⟩

/-- A second flag that is read in the window after the marker comes first once the reads of
the first one are gone. -/
theorem second_run_finds_next_flag :
    let flag (name : String) : FieldRef := ⟨⟨"LSettings;"⟩, name, .boolean⟩
    let log : MethodDecl := ⟨"log", [], .void, 0, some ⟨1, 0, [.constString ⟨0⟩ "Telemetry: ",
      .staticField (.sget .boolean) ⟨0⟩ (flag "a"), .staticField (.sget .boolean) ⟨0⟩ (flag "b"),
      .retVoid]⟩⟩
    let p : Program := ⟨none, [⟨⟨"LSettings;"⟩, none, 0, [], [log]⟩]⟩
    Program.ofClasses p.package p.classes = .ok p ∧
      ((runPatches patches {} {}).run (afterRun {} {} p)).1.map RunReport.edits = .ok 1 ∧
      afterRun {} {} (afterRun {} {} p) ≠ afterRun {} {} p := by
  refine ⟨rfl, ?_, ?_⟩ <;> decide +kernel

end Builtin

end DexPatch
