import DexPatch.Proofs.EditPlans
import DexPatch.Proofs.PatchRun
import DexPatch.Proofs.PatchSelection
import DexPatch.Proofs.Substitution

/-!
# The built-in blocks

A built-in block searches for its target and then carries out a plan for it. The plan fits
the program in which the target was found, whatever earlier blocks have done there, so a block
that is not skipped is carried out in full.

## Main definitions

* `BlockSpec`, `BlockSpec.Describes` — what a block searches for and does with what it finds
* `Builtin.tierTarget`, `Builtin.delayTarget`, `Builtin.crashTarget`, `Builtin.telemetryTarget`
  — the four searches
* `Builtin.tierSpec`, `Builtin.delaySpec`, `Builtin.crashSpec`, `Builtin.telemetrySpec`
  — the four blocks

## Main results

* `BlockSpec.Describes.isTotal` — a block that has a specification never fails
* `Builtin.describes_subscriptionTier` and three others — each block meets its own
* `Builtin.runPatches_selected` — no selection of the built-in patches ever fails
-/

namespace DexPatch

open Program

variable {p : Program} {b : Block} {config : Config} {τ : Type} {t : τ}

/-- A search, and the number of edits and the program that come of what it finds. -/
structure BlockSpec (τ : Type) where
  search : Config → Program → Except SkipReason τ
  count : Config → Program → τ → Nat
  result : Config → Program → τ → Program

namespace BlockSpec

variable {s : BlockSpec τ}

/-- The block is skipped where the search fails, and otherwise does what is specified. -/
structure Describes (s : BlockSpec τ) (b : Block) : Prop where
  applies : ∀ config p, b.applies config p
  mutators : ∀ config, (b.edit config).UsesMutators
  skips : ∀ config p reason, s.search config p = .error reason →
    (b.edit config).run p = (.error (.skip reason), p)
  acts : ∀ config p t, p.IsWellFormed → s.search config p = .ok t →
    (b.edit config).run p = (.ok (s.count config p t), s.result config p t)
  idle : ∀ config p t, p.IsWellFormed → s.count config p t = 0 → s.result config p t = p

/-- A block is idle if and only if nothing is left to do for what it finds. -/
theorem Describes.isIdle_iff (describes : s.Describes b) (wellFormed : p.IsWellFormed) :
    b.IsIdle config p ↔ ∀ t, s.search config p = .ok t → s.count config p t = 0 := by
  unfold Block.IsIdle
  cases found : s.search config p with
  | error reason => simp [describes.skips config p reason found]
  | ok t => simp [describes.acts config p t wellFormed found]

theorem Describes.after_of_ok (describes : s.Describes b) (wellFormed : p.IsWellFormed)
    (found : s.search config p = .ok t) : b.after config p = s.result config p t := by
  rw [Block.after, describes.acts config p t wellFormed found]

theorem Describes.after_of_error {reason : SkipReason} (describes : s.Describes b)
    (missing : s.search config p = .error reason) : b.after config p = p := by
  rw [Block.after, describes.skips config p reason missing]

theorem Describes.after_cases (describes : s.Describes b) (wellFormed : p.IsWellFormed) :
    b.after config p = p ∨ ∃ t, b.after config p = s.result config p t := by
  cases found : s.search config p with
  | error reason => exact .inl (describes.after_of_error found)
  | ok t => exact .inr ⟨t, describes.after_of_ok wellFormed found⟩

/-- A block that has a specification never fails. -/
theorem Describes.isTotal (describes : s.Describes b) : b.IsTotal where
  applies := describes.applies
  mutators := describes.mutators
  completes config p cause wellFormed := by
    cases found : s.search config p with
    | error reason => simp [describes.skips config p reason found]
    | ok t => simp [describes.acts config p t wellFormed found]
  idle config p wellFormed idle := by
    cases found : s.search config p with
    | error reason => exact describes.after_of_error found
    | ok t =>
      rw [describes.after_of_ok wellFormed found]
      exact describes.idle config p t wellFormed
        ((describes.isIdle_iff wellFormed).mp idle t found)

/-- The specification of a block that forces the returns of a plan. -/
def ofPlan (search : Config → Program → Except SkipReason τ)
    (plan : Config → Program → τ → List PlannedEdit) : BlockSpec τ where
  search := search
  count config p t := (plan config p t).countP fun e => ¬ e.IsDone p
  result config p t := p.forceEach (plan config p t)

theorem count_ofPlan_eq_zero_iff {search : Config → Program → Except SkipReason τ}
    {plan : Config → Program → τ → List PlannedEdit} :
    (ofPlan search plan).count config p t = 0 ↔ ∀ e ∈ plan config p t, e.IsDone p := by
  simp [ofPlan]

/-- A block that carries out plans that fit is described by its search and its plan. -/
theorem describes_ofPlan {search : Config → Program → Except SkipReason τ}
    {plan : Config → Program → τ → List PlannedEdit} (applies : ∀ config p, b.applies config p)
    (mutators : ∀ config, (b.edit config).UsesMutators)
    (fits : ∀ (config : Config) (p : Program) (t : τ), p.Fits (plan config p t))
    (edit : ∀ config p, (b.edit config).run p =
      match search config p with
      | .error reason => (.error (.skip reason), p)
      | .ok t => ((applyPlan (plan config p t)).mapError .fatal).run p) :
    (ofPlan search plan).Describes b where
  applies := applies
  mutators := mutators
  skips config p reason missing := by
    change search config p = _ at missing
    rw [edit, missing]
  acts config p t wellFormed found := by
    change search config p = _ at found
    rw [edit, found]
    simp only [Edit.run_mapError, run_applyPlan wellFormed (fits config p t)]
    rfl
  idle config p t _ zero :=
    forceEach_eq_self (fits config p t).distinct (count_ofPlan_eq_zero_iff.mp zero)

/-- A block that carries out plans by roles leaves the program alone or forces the roles of one
class. -/
theorem Describes.after_planRoles {search : Config → Program → Except SkipReason τ}
    {plan : Config → Program → τ → List PlannedEdit} {owner : τ → ClassId}
    {role? : τ → MethodDecl → Option Role} {tier : Int32}
    (describes : (ofPlan search plan).Describes b) (wellFormed : p.IsWellFormed)
    (roles : ∀ t, plan config p t = p.planRoles (owner t) (role? t) tier) :
    b.after config p = p ∨
      ∃ t, b.after config p = p.forceEach (p.planRoles (owner t) (role? t) tier) := by
  rcases describes.after_cases wellFormed with same | ⟨t, forced⟩
  · exact .inl same
  · exact .inr ⟨t, by rw [forced, ← roles]; rfl⟩

end BlockSpec

/-! ### Searches -/

namespace Builtin

/-- The class of the first method with a given fingerprint, or why there is none. -/
def target (f : Fingerprint) (p : Program) : Except SkipReason (ClassId × ClassDecl) :=
  match (f.find? p).bind fun found => (p.class? found.owner).map (found.owner, ·) with
  | some target => .ok target
  | none => .error (.noMatch f.name)

theorem run_matchedClass (f : Fingerprint) :
    (matchedClass f).run p = ((target f p).mapError .skip, p) := by
  rw [matchedClass, Edit.run_bind, Edit.run_program, target]
  cases h : (f.find? p).bind fun found => (p.class? found.owner).map (found.owner, ·) with
  | none => simp [h, Except.mapError]
  | some found => simp [h, Except.mapError]

/-- The user class and its tier field. -/
def tierTarget (p : Program) : Except SkipReason (ClassId × FieldRef) := do
  let (id, c) ← target vpnUser p
  let field ← c.tierField.mapError (.unresolved "tier field")
  return (id, field)

/-- The class with the delays. -/
def delayTarget (p : Program) : Except SkipReason ClassId :=
  (target appConfigResponse p).map Prod.fst

/-- The class of the crash reporter. -/
def crashTarget (p : Program) : Except SkipReason ClassId :=
  (target crashReporter p).map Prod.fst

/-- The field of the telemetry preference. -/
def telemetryTarget (config : Config) (p : Program) : Except SkipReason FieldRef := do
  let (_, c) ← target (localUserSettings config.telemetryMarker) p
  (c.fieldNearString config.telemetryMarker config.lookaheadWindow).mapError
    (.unresolved "telemetry field")

/-! ### The four blocks -/

def tierSpec : BlockSpec (ClassId × FieldRef) :=
  .ofPlan (fun _ p => tierTarget p) fun config p (id, f) => p.planTier id f config.elevatedTier

def delaySpec : BlockSpec ClassId :=
  .ofPlan (fun _ p => delayTarget p) fun config p id => p.planDelay id config.delayLiterals

def crashSpec : BlockSpec ClassId :=
  .ofPlan (fun _ p => crashTarget p) fun _ p id => p.planDisable id

def telemetrySpec : BlockSpec FieldRef where
  search := telemetryTarget
  count _ p f := p.readCount f
  result _ p f := p.zeroReads f

theorem describes_subscriptionTier : tierSpec.Describes subscriptionTier := by
  refine BlockSpec.describes_ofPlan (fun _ _ => rfl)
    (usesMutators unlockPremium (by simp [patches]) _ (by simp [unlockPremium]))
    (fun _ _ _ => fits_planTier) fun config p => ?_
  simp only [subscriptionTier, tierTarget, Edit.run_bind, run_matchedClass]
  rcases target vpnUser p with reason | ⟨id, c⟩
  · rfl
  · dsimp only [Except.mapError, bind, Except.bind]
    cases c.tierField <;> rfl

theorem describes_serverChangeDelay : delaySpec.Describes serverChangeDelay := by
  refine BlockSpec.describes_ofPlan (fun _ _ => rfl)
    (usesMutators unlockPremium (by simp [patches]) _ (by simp [unlockPremium]))
    (fun _ _ _ => fits_planDelay) fun config p => ?_
  simp only [serverChangeDelay, delayTarget, Edit.run_bind, run_matchedClass]
  rcases target appConfigResponse p with reason | ⟨id, c⟩ <;> rfl

theorem describes_crashReporter : crashSpec.Describes crashReporterBlock := by
  refine BlockSpec.describes_ofPlan (fun _ _ => rfl)
    (usesMutators disableTelemetry (by simp [patches]) _ (by simp [disableTelemetry]))
    (fun _ _ _ => fits_planDisable) fun config p => ?_
  simp only [crashReporterBlock, crashTarget, Edit.run_bind, run_matchedClass]
  rcases target crashReporter p with reason | ⟨id, c⟩ <;> rfl

theorem run_telemetryFlag :
    (telemetryFlag.edit config).run p =
      match telemetryTarget config p with
      | .error reason => (.error (.skip reason), p)
      | .ok f => ((SubstitutionPlan.collect p f).apply.mapError .fatal).run p := by
  simp only [telemetryFlag, telemetryTarget, Edit.run_bind, run_matchedClass]
  rcases target (localUserSettings config.telemetryMarker) p with reason | ⟨id, c⟩
  · rfl
  · dsimp only [Except.mapError, bind, Except.bind]
    cases c.fieldNearString config.telemetryMarker config.lookaheadWindow <;> rfl

theorem describes_telemetryFlag : telemetrySpec.Describes telemetryFlag where
  applies _ _ := rfl
  mutators := usesMutators disableTelemetry (by simp [patches]) _ (by simp [disableTelemetry])
  skips config p reason missing := by
    change telemetryTarget config p = _ at missing
    rw [run_telemetryFlag, missing]
  acts config p f wellFormed found := by
    change telemetryTarget config p = _ at found
    rw [run_telemetryFlag, found]
    simp only [Edit.run_mapError, SubstitutionPlan.run_apply_collect wellFormed]
    rfl
  idle config p f _ zero := zeroReads_eq_self (readCount_eq_zero_iff.mp zero)

/-! ### Selections -/

theorem isTotal : ∀ patch ∈ patches, patch.IsTotal := by
  intro patch listed b inside
  simp only [patches, List.mem_cons, List.not_mem_nil, or_false] at listed
  rcases listed with rfl | rfl <;>
    simp only [unlockPremium, disableTelemetry, List.mem_cons, List.not_mem_nil, or_false]
      at inside <;>
    rcases inside with rfl | rfl
  · exact describes_subscriptionTier.isTotal
  · exact describes_serverChangeDelay.isTotal
  · exact describes_crashReporter.isTotal
  · exact describes_telemetryFlag.isTotal

theorem isTotal_of_selectPatches {names : List String} {selection : List Patch}
    (selected : selectPatches patches names = .ok selection) :
    ∀ patch ∈ selection, patch.IsTotal :=
  fun patch listed => isTotal patch (mem_of_selectPatches selected patch listed)

theorem length_blocks : ∀ patch ∈ patches, patch.blocks.length = 2 := by
  simp [patches, unlockPremium, disableTelemetry]

/-- No selection of the built-in patches ever fails: every selected patch is reported in
order, with an outcome for each of its two blocks if it may run. -/
theorem runPatches_selected {package : Option String} {classes : List ClassDecl}
    (accepted : Program.ofClasses package classes = .ok p) {names : List String}
    {selection : List Patch} (selected : selectPatches patches names = .ok selection)
    (config : Config) (options : RunOptions) :
    ∃ report, ((runPatches selection config options).run p).1 = .ok report ∧
      List.Forall₂ (fun patch r => r.IsFor options p patch ∧
        (patch.MayRun options p → r.blocks.length = 2)) selection report.patches := by
  have wellFormed := (Program.ofClasses_eq_ok_iff.mp accepted).2
  have known : ∀ patch ∈ selection, patch ∈ patches := mem_of_selectPatches selected
  have total : ∀ patch ∈ selection, patch.IsTotal := fun patch listed =>
    isTotal patch (known patch listed)
  obtain ⟨report, answer, shapes, _⟩ := run_runPatches total config options wellFormed
  refine ⟨report, by rw [answer], ?_⟩
  have listed := (List.forall₂_and_left selection report.patches).mpr ⟨known, shapes⟩
  refine listed.imp fun patch r ⟨member, shape⟩ => ⟨shape, fun may => ?_⟩
  have names := congrArg List.length (shape.executed may).2
  rwa [List.length_map, List.length_map, length_blocks patch member] at names

/-- A selection by name, in another case, on a program where both of its blocks have
something to do. -/
theorem runPatches_selected_unlockPremium :
    let tier : FieldRef := ⟨⟨"LUser;"⟩, "a", .boxedInteger⟩
    let user : ClassDecl := ⟨⟨"LUser;"⟩, none, 0, [⟨"a", .boxedInteger, 0⟩],
      [⟨"b", [], .void, 0, some ⟨1, 0, [.constString ⟨0⟩ "Proton VPN Account",
          .constString ⟨0⟩ "Proton Mail Account", .retVoid]⟩⟩,
        ⟨"c", [], .int, 0, some ⟨1, 0, [.staticField (.sget .object) ⟨0⟩ tier, .ret ⟨0⟩]⟩⟩]⟩
    let delays : ClassDecl := ⟨⟨"LConfig;"⟩, none, 0, [],
      [⟨"d", [], .int, 0, some ⟨1, 0, [.constString ⟨0⟩ "ChangeServerShortDelayInSeconds",
          .constString ⟨0⟩ "ChangeServerLongDelayInSeconds", .constInt ⟨0⟩ 90, .ret ⟨0⟩]⟩⟩]⟩
    let p : Program := ⟨none, [user, delays]⟩
    Program.ofClasses p.package p.classes = .ok p ∧
      selectPatches patches ["unlock premium"] = .ok [unlockPremium] ∧
      ∃ report, ((runPatches [unlockPremium] {} {}).run p).1 = .ok report ∧
        List.Forall₂ (fun patch r => r.IsFor {} p patch ∧
          (patch.MayRun {} p → r.blocks.length = 2)) [unlockPremium] report.patches := by
  intro tier user delays p
  have accepted : Program.ofClasses p.package p.classes = .ok p := rfl
  have selected : selectPatches patches ["unlock premium"] = .ok [unlockPremium] := rfl
  exact ⟨accepted, selected, runPatches_selected accepted selected {} {}⟩

end Builtin

end DexPatch
