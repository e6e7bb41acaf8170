import DexPatch.Proofs.SecondRun

/-!
# What a run makes of a body

Up to three blocks may force the same method to return a value, each on the program that the
earlier ones left, and the substitution of the telemetry flag goes through all methods in the
end. Still a body changes in one way only, seen from the program before the run: the last forced
return wins, and what has been forced reads nothing that a substitution would find.

## Main definitions

* `Body.ZeroesTo` — the reads of a field, and nothing else, have become loads of zero
* `Builtin.forcedValues` — the values that methods are made to return
* `BodyChange` — the three ways in which a body may change
* `Program.ChangesBodies` — every body of a program has changed in one of these ways

## Main results

* `BodyChange.forced_again`, `BodyChange.zeroed_later` — two changes are like one
* `BodyChange.ins_eq`, `BodyChange.registers_cases`, `BodyChange.kept_or_zeroed` — what all changes
  leave alone
* `Builtin.run_changesBodies` — a run of built-in patches changes each body in one way
-/

namespace DexPatch

open Program

variable {p q : Program} {m : MethodDecl} {b b' : Body} {v : ReturnValue} {f : FieldRef}
  {target : Option FieldRef} {tier : Int32} {plan : List PlannedEdit} {config : Config}
  {options : RunOptions}

/-- The reads of `f`, each in its place, have become loads of zero into the registers that they
wrote. The frame and all other instructions are as before. -/
structure Body.ZeroesTo (f : FieldRef) (b b' : Body) : Prop where
  registers : b'.registers = b.registers
  ins : b'.ins = b.ins
  length : b'.instructions.length = b.instructions.length
  reads : ∀ (k : Nat) (i : Instruction), b.instructions[k]? = some i → i.Reads f →
    ∃ d, i.dest? = some d ∧ b'.instructions[k]? = some (.constZero d)
  others : ∀ (k : Nat) (i : Instruction), b.instructions[k]? = some i → ¬ i.Reads f →
    b'.instructions[k]? = some i

/-- In a body that does not read the field nothing changes. -/
theorem Body.ZeroesTo.eq_self (zeroes : b.ZeroesTo f b')
    (none : ∀ i ∈ b.instructions, ¬ i.Reads f) : b' = b := by
  obtain ⟨registers, ins, code⟩ := b
  obtain ⟨registers', ins', code'⟩ := b'
  obtain rfl : registers' = registers := zeroes.registers
  obtain rfl : ins' = ins := zeroes.ins
  have same : code' = code := by
    refine List.ext_getElem? fun k => ?_
    cases there : code[k]? with
    | none => exact List.getElem?_eq_none (zeroes.length ▸ List.getElem?_eq_none_iff.mp there)
    | some i => exact zeroes.others k i there (none i (List.mem_of_getElem? there))
  rw [same]

/-- The values that methods are made to return. -/
def Builtin.forcedValues (tier : Int32) : List ReturnValue :=
  [.void, .boolean true, .boolean false, .integer tier, .integer 0]

/-- A body of `m` stays as it is, or becomes the minimal body for a value of the kind that `m`
returns, or has its reads of the target zeroed. Initialisers are not emptied. -/
inductive BodyChange (tier : Int32) (target : Option FieldRef) (m : MethodDecl) (b : Body) :
    Body → Prop
  | kept : BodyChange tier target m b b
  | forced (v : ReturnValue) (listed : v ∈ Builtin.forcedValues tier)
    (kind : v.kind = m.returnKind) (action : v = .void → ¬ m.IsConstructor) :
    BodyChange tier target m b (minimalBody v b.registers b.ins)
  | zeroed (f : FieldRef) (member : f ∈ target) {b' : Body} (zeroes : b.ZeroesTo f b') :
    BodyChange tier target m b b'

namespace BodyChange

/-! ### What no change touches -/

theorem ins_eq (change : BodyChange tier target m b b') : b'.ins = b.ins := by
  cases change with
  | kept => rfl
  | forced v listed kind action => rfl
  | zeroed f member zeroes => exact zeroes.ins

/-- A frame without registers gets one if there is a value to load. -/
theorem registers_cases (change : BodyChange tier target m b b') :
    b'.registers = b.registers ∨ b.registers = 0 ∧ b'.registers = 1 := by
  cases change with
  | kept => exact .inl rfl
  | zeroed f member zeroes => exact .inl zeroes.registers
  | forced v listed kind action =>
    by_cases loads : v = .void
    · exact .inl (if_pos loads)
    · rw [registers_minimalBody loads]
      -- Only a frame without registers is too small for the value.
      rcases max_one_cases b.registers with ⟨one, small⟩ | ⟨same, _⟩
      · have empty : b.registers = 0 ∨ b.registers = 1 := by
          have bound : b.registers.toNat ≤ 1 := UInt16.le_iff_toNat_le.mp small
          simp only [← UInt16.toNat_inj, UInt16.toNat_ofNat]
          omega
        rw [one]
        exact empty.symm.imp Eq.symm fun none => ⟨none, rfl⟩
      · exact .inl same

/-- Methods that return an object or a wide value, and void initialisers, are never forced. -/
theorem kept_or_zeroed (change : BodyChange tier target m b b')
    (apart : m.returnKind = .object ∨ m.returnKind = .other ∨
      m.returnKind = .void ∧ m.IsConstructor) :
    b' = b ∨ ∃ f ∈ target, b.ZeroesTo f b' := by
  cases change with
  | kept => exact .inl rfl
  | zeroed f member zeroes => exact .inr ⟨f, member, zeroes⟩
  | forced v listed kind action =>
    exfalso
    rw [← kind] at apart
    cases v with
    | void => exact action rfl (by simpa [ReturnValue.kind] using apart)
    | boolean value => simp [ReturnValue.kind] at apart
    | integer value => simp [ReturnValue.kind] at apart
    | null => simp [Builtin.forcedValues] at listed

/-! ### Two changes in a row -/

/-- The last forced return wins: it finds the frame as it was, or as it makes it. -/
theorem forced_again (change : BodyChange tier none m b b')
    (listed : v ∈ Builtin.forcedValues tier) (kind : v.kind = m.returnKind)
    (action : v = .void → ¬ m.IsConstructor) :
    BodyChange tier none m b (minimalBody v b'.registers b'.ins) := by
  cases change with
  | kept => exact .forced v listed kind action
  | forced w _ kind' _ =>
    rw [show (minimalBody w b.registers b.ins).ins = b.ins from rfl,
      minimalBody_of_kind (kind'.trans kind.symm)]
    exact .forced v listed kind action
  | zeroed f member => cases member

/-- A substitution finds no reads in a method that has been forced. -/
theorem zeroed_later {zeroed : Body} (change : BodyChange tier none m b b')
    (zeroes : b'.ZeroesTo f zeroed) : BodyChange tier (some f) m b zeroed := by
  cases change with
  | kept => exact .zeroed f rfl zeroes
  | forced v listed kind action =>
    rw [zeroes.eq_self fun i => not_reads_of_mem_returnCode]
    exact .forced v listed kind action
  | zeroed g member => cases member

end BodyChange

/-! ### Whole programs -/

namespace Program

/-- Every body of `p` has changed in one of the three ways, and is still the body of the same
method. -/
def ChangesBodies (tier : Int32) (target : Option FieldRef) (p q : Program) : Prop :=
  ∀ id m b, p.method? id = some m → m.body = some b →
    ∃ b', q.method? id = some { m with body := some b' } ∧ BodyChange tier target m b b'

theorem ChangesBodies.refl : p.ChangesBodies tier target p := by
  intro id m b found has
  exact ⟨b, by rw [found, ← has], .kept⟩

/-- Carrying out a plan of forced returns changes bodies in the same ways. -/
theorem ChangesBodies.forceEach (sofar : p.ChangesBodies tier none q) (fits : q.Fits plan)
    (listed : ∀ e ∈ plan, e.value ∈ Builtin.forcedValues tier)
    (action : ∀ e ∈ plan, e.value = .void → ∀ m ∈ q.method? e.method, ¬ m.IsConstructor) :
    p.ChangesBodies tier none (q.forceEach plan) := by
  intro id m b found has
  obtain ⟨b', there, change⟩ := sofar id m b found has
  by_cases named : id ∈ plan.map PlannedEdit.method
  · obtain ⟨e, member, rfl⟩ := List.mem_map.mp named
    obtain ⟨n, same, fit⟩ := fits.edits e member
    obtain rfl := Option.some.inj (same.symm.trans there)
    -- The plan was made for the program that earlier blocks left, which declares the same method.
    have spared : e.value = .void → ¬ m.IsConstructor := fun void =>
      action e member void { m with body := some b' } there
    refine ⟨minimalBody e.value b'.registers b'.ins, ?_,
      change.forced_again (listed e member) fit.kind spared⟩
    rw [method?_forceEach_of_mem fits.distinct member, there]
    rfl
  · exact ⟨b', by rw [method?_forceEach_of_notMem named, there], change⟩

/-- Zeroing the reads of a field comes last. -/
theorem ChangesBodies.zeroReads (sofar : p.ChangesBodies tier none q)
    (wellFormed : q.IsWellFormed) : p.ChangesBodies tier (some f) (q.zeroReads f) := by
  intro id m b found has
  obtain ⟨b', there, change⟩ := sofar id m b found has
  refine ⟨{ b' with instructions := b'.instructions.map (Instruction.zeroRead f) }, ?_,
    change.zeroed_later ⟨rfl, rfl, List.length_map _, ?_, ?_⟩⟩
  · rw [method?_zeroReads, there]
    rfl
  · intro k i inside reads
    exact (wellFormed.getElem?_map_zeroRead there inside).2 reads
  · intro k i inside other
    exact (wellFormed.getElem?_map_zeroRead there inside).1 other

end Program

/-! ### Plans by role -/

theorem Role.forcedValue_mem (role : Role) {t : Int32} (elevated : t = tier ∨ t = 0) :
    role.forcedValue t ∈ Builtin.forcedValues tier := by
  rcases elevated with rfl | rfl <;> cases role <;> simp [forcedValue, Builtin.forcedValues]

theorem Role.eq_action_of_forcedValue {role : Role} {t : Int32}
    (void : role.forcedValue t = .void) : role = .action := by
  cases role <;> simp [forcedValue] at void ⊢

/-- A tier check returns something, so its role is no action. -/
theorem MethodDecl.not_action_of_tierEdit? : m.tierEdit? f ≠ some .action := by
  intro known
  have tierRole := (tierEdit?_eq_some_iff.mp known).2
  have kind : (Role.action.forcedValue 0).kind = m.returnKind := kind_of_tierRole? tierRole
  rw [tierRole?, ← kind] at tierRole
  cases tierRole

theorem MethodDecl.not_isConstructor_of_disableRole? {role : Role}
    (known : m.disableRole? = some role) : ¬ m.IsConstructor := by
  unfold disableRole? at known
  split_ifs at known with conditions
  exact conditions.2.2

namespace Program

variable {owner : ClassId} {role? : MethodDecl → Option Role} {t : Int32}

/-- A plan by roles changes bodies in the same ways if it makes no action of an initialiser. -/
theorem ChangesBodies.planRoles (sofar : p.ChangesBodies tier none q)
    (fits : q.Fits (q.planRoles owner role? t)) (elevated : t = tier ∨ t = 0)
    (actions : ∀ m, role? m = some .action → ¬ m.IsConstructor) :
    p.ChangesBodies tier none (q.forceEach (q.planRoles owner role? t)) := by
  refine sofar.forceEach fits (fun e member => ?_) fun e member void m found => ?_
  · obtain ⟨_, role, _, _, _, same⟩ := mem_planRoles.mp member
    rw [same]
    exact role.forcedValue_mem elevated
  · obtain ⟨n, role, _, there, known, same⟩ := mem_planRoles.mp member
    obtain rfl := Option.some.inj (there.symm.trans found)
    rw [same] at void
    obtain rfl := Role.eq_action_of_forcedValue void
    exact actions n known

end Program

/-! ### Blocks -/

/-- The block changes bodies by forced returns alone. -/
def Block.Forces (config : Config) (b : Block) : Prop :=
  ∀ p q : Program, q.IsWellFormed → p.ChangesBodies config.elevatedTier none q →
    p.ChangesBodies config.elevatedTier none (b.after config q)

/-- A block that carries out plans by roles forces, unless it makes an action of an
initialiser. -/
theorem BlockSpec.Describes.forces {τ : Type} {search : Config → Program → Except SkipReason τ}
    {plan : Config → Program → τ → List PlannedEdit} {block : Block} {owner : τ → ClassId}
    {role? : τ → MethodDecl → Option Role} {t : Int32}
    (describes : (BlockSpec.ofPlan search plan).Describes block)
    (roles : ∀ (q : Program) (x : τ), plan config q x = q.planRoles (owner x) (role? x) t)
    (fits : ∀ (q : Program) (x : τ), q.Fits (plan config q x))
    (elevated : t = config.elevatedTier ∨ t = 0)
    (actions : ∀ x m, role? x m = some .action → ¬ m.IsConstructor) : block.Forces config := by
  intro p q wellFormed sofar
  rcases describes.after_planRoles wellFormed (roles q) with same | ⟨x, forced⟩
  · rwa [same]
  · rw [forced]
    exact sofar.planRoles (roles q x ▸ fits q x) elevated (actions x)

theorem Program.ChangesBodies.afterEach {blocks : List Block}
    (sofar : p.ChangesBodies config.elevatedTier none q) (total : ∀ b ∈ blocks, b.IsTotal)
    (forces : ∀ b ∈ blocks, b.Forces config) (wellFormed : q.IsWellFormed) :
    p.ChangesBodies config.elevatedTier none (afterEach config blocks q) := by
  induction blocks generalizing q with
  | nil => exact sofar
  | cons block rest ih =>
    obtain ⟨totalFirst, totalRest⟩ := List.forall_mem_cons.mp total
    obtain ⟨first, others⟩ := List.forall_mem_cons.mp forces
    exact ih (first p q wellFormed sofar) totalRest others
      (totalFirst.isWellFormed_after config wellFormed)

namespace Builtin

/-- The blocks that force returns. -/
def forcingBlocks : List Block := [subscriptionTier, serverChangeDelay, crashReporterBlock]

theorem forces_of_mem_forcingBlocks : ∀ b ∈ forcingBlocks, b.Forces config := by
  have tier : subscriptionTier.Forces config :=
    describes_subscriptionTier.forces (fun _ _ => planTier_eq) (fun _ _ => fits_planTier)
      (.inl rfl) fun _ _ action => absurd action MethodDecl.not_action_of_tierEdit?
  have delay : serverChangeDelay.Forces config :=
    describes_serverChangeDelay.forces (fun _ _ => planDelay_eq) (fun _ _ => fits_planDelay)
      (.inr rfl) fun _ _ action =>
        absurd (MethodDecl.delayEdit?_eq_some_iff.mp action).2 nofun
  have crash : crashReporterBlock.Forces config :=
    describes_crashReporter.forces (fun _ _ => planDisable_eq) (fun _ _ => fits_planDisable)
      (.inr rfl) fun _ _ action => MethodDecl.not_isConstructor_of_disableRole? action
  simp only [forcingBlocks, List.mem_cons, List.not_mem_nil, or_false]
  rintro b (rfl | rfl | rfl)
  exacts [tier, delay, crash]

/-- The blocks that a run goes through are some that force returns, and then perhaps the one
that zeroes the reads of the telemetry flag. -/
theorem activeBlocks_cases {names : List String} {selection : List Patch}
    (selected : selectPatches patches names = .ok selection) (options : RunOptions)
    (p : Program) :
    ∃ forcing last, activeBlocks options selection p = forcing ++ last ∧
      (∀ b ∈ forcing, b ∈ forcingBlocks) ∧ (last = [] ∨ last = [telemetryFlag]) := by
  have inOrder : (activeBlocks options selection p).Sublist (forcingBlocks ++ [telemetryFlag]) :=
    activeBlocks_sublist selected
  obtain ⟨forcing, last, split, first, final⟩ := List.sublist_append_iff.mp inOrder
  refine ⟨forcing, last, split, fun b member => first.subset member, ?_⟩
  cases final with
  | cons _ none => exact .inl (List.sublist_nil.mp none)
  | cons_cons _ none => exact .inr (by rw [List.sublist_nil.mp none])

/-- The block of the telemetry flag has one target at most. -/
theorem changesBodies_telemetryFlag (sofar : p.ChangesBodies tier none q)
    (wellFormed : q.IsWellFormed) :
    ∃ target, p.ChangesBodies tier target (telemetryFlag.after config q) := by
  rcases describes_telemetryFlag.after_cases wellFormed with same | ⟨f, zeroed⟩
  · exact ⟨none, by rwa [same]⟩
  · exact ⟨some f, by rw [zeroed]; exact sofar.zeroReads wellFormed⟩

/-- The blocks of a run change bodies with one target for all. -/
theorem exists_changesBodies {names : List String} {selection : List Patch}
    (selected : selectPatches patches names = .ok selection) (config : Config)
    (options : RunOptions) (wellFormed : p.IsWellFormed) :
    ∃ target, p.ChangesBodies config.elevatedTier target
      (afterEach config (activeBlocks options selection p) p) := by
  have total : ∀ b ∈ activeBlocks options selection p, b.IsTotal := fun b =>
    isTotal_of_mem_activeBlocks (isTotal_of_selectPatches selected)
  obtain ⟨forcing, last, split, known, final⟩ := activeBlocks_cases selected options p
  rw [split] at total ⊢
  obtain ⟨totalForcing, _⟩ := List.forall_mem_append.mp total
  have forced : p.ChangesBodies config.elevatedTier none (afterEach config forcing p) :=
    ChangesBodies.refl.afterEach totalForcing
      (fun b member => forces_of_mem_forcingBlocks b (known b member)) wellFormed
  -- All forced returns come before the substitution, if there is one.
  rw [afterEach_append]
  rcases final with rfl | rfl
  · exact ⟨none, forced⟩
  · exact changesBodies_telemetryFlag forced
      ((editsTo_afterEach totalForcing config).isWellFormed wellFormed)

/-- A run of built-in patches changes each body in one way, with the same target for all. -/
theorem run_changesBodies {package : Option String} {classes : List ClassDecl}
    (accepted : Program.ofClasses package classes = .ok p) {names : List String}
    {selection : List Patch} (selected : selectPatches patches names = .ok selection)
    (config : Config) (options : RunOptions) :
    ∃ report q target, (runPatches selection config options).run p = (.ok report, q) ∧
      q.outline = p.outline ∧
      ∀ id m b, p.method? id = some m → m.body = some b →
        ∃ b', q.method? id = some { m with body := some b' } ∧
          BodyChange config.elevatedTier target m b b' ∧ b'.ins = b.ins ∧
          (b'.registers = b.registers ∨ b.registers = 0 ∧ b'.registers = 1) ∧
          (m.returnKind = .object ∨ m.returnKind = .other ∨
              m.returnKind = .void ∧ m.IsConstructor →
            b' = b ∨ ∃ f ∈ target, b.ZeroesTo f b') := by
  have wellFormed := (Program.ofClasses_eq_ok_iff.mp accepted).2
  have total := isTotal_of_selectPatches selected
  obtain ⟨report, answer, _⟩ := run_runPatches total config options wellFormed
  have steps : p.EditsTo (afterEach config (activeBlocks options selection p) p) :=
    editsTo_afterEach (fun b => isTotal_of_mem_activeBlocks total) config
  obtain ⟨target, changes⟩ := exists_changesBodies selected config options wellFormed
  refine ⟨report, _, target, answer, steps.outline_eq, fun id m b found has => ?_⟩
  obtain ⟨b', there, change⟩ := changes id m b found has
  exact ⟨b', there, change, change.ins_eq, change.registers_cases, change.kept_or_zeroed⟩

/-- A method that reads the telemetry flag and belongs to the crash reporter. -/
theorem run_changesBodies_switch :
    let flag : FieldRef := ⟨⟨"LSettings;"⟩, "a", .boolean⟩
    let log : MethodDecl := ⟨"log", [], .void, 0, some ⟨1, 0, [.constString ⟨0⟩ "Telemetry: ",
      .staticField (.sget .boolean) ⟨0⟩ flag, .retVoid]⟩⟩
    let keys : MethodDecl := ⟨"<init>", [], .void, 0, some ⟨1, 0,
      [.constString ⟨0⟩ "sentry_installation_id", .constString ⟨0⟩ "sentry_is_enabled", .retVoid]⟩⟩
    let body : Body := ⟨2, 1, [.staticField (.sget .boolean) ⟨0⟩ flag, .ret ⟨0⟩]⟩
    let switch : MethodDecl := ⟨"b", [], .boolean, 0, some body⟩
    let p : Program := ⟨none, [⟨⟨"LSettings;"⟩, none, 0, [], [log]⟩,
      ⟨⟨"LCrash;"⟩, none, 0, [], [keys, switch]⟩]⟩
    Program.ofClasses p.package p.classes = .ok p ∧
      selectPatches patches ["Disable telemetry"] = .ok [disableTelemetry] ∧
      ∃ report q target b', (runPatches [disableTelemetry] {} {}).run p = (.ok report, q) ∧
        q.method? ⟨⟨1⟩, 1⟩ = some { switch with body := some b' } ∧
        BodyChange 2 target switch body b' := by
  intro flag log keys body switch p
  have accepted : Program.ofClasses p.package p.classes = .ok p := rfl
  have selected : selectPatches patches ["Disable telemetry"] = .ok [disableTelemetry] := rfl
  obtain ⟨report, q, target, answer, _, changes⟩ := run_changesBodies accepted selected {} {}
  obtain ⟨b', there, change, _⟩ := changes ⟨⟨1⟩, 1⟩ switch body rfl rfl
  exact ⟨accepted, selected, report, q, target, b', answer, there, change⟩

end Builtin

end DexPatch
