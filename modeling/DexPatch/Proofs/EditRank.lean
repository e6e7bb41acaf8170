import DexPatch.Proofs.SecondRun

/-!
# No way back

Several blocks may edit the same method, and a method that is forced to return true by one may
be forced to return false by the next. Still no edit is ever taken back. A tier check reads a
field before it is forced, and nothing reads one afterwards; a delay or a disabled method comes
to rest at the neutral value of its kind; and zeroing a read leaves one read less. So each change
lowers the rank of a method, and a method that has changed once cannot be what it was.

## Main definitions

* `MethodDecl.IsNeutral` — a method returns the neutral value of its kind
* `MethodDecl.rank` — what every change lowers
* `Program.Descends` — every method is as it was or of a lower rank

## Main results

* `Program.Descends.antisymm` — programs that descend to each other are equal
* `Builtin.descends_after` — every built-in block descends
* `Builtin.after_eq_self_of_afterEach` — blocks that leave a program in the end have left it
  all along
-/

namespace DexPatch

open Program

variable {p q r : Program} {m : MethodDecl} {id : MethodId} {value : ReturnValue} {f : FieldRef}
  {tier : Int32} {config : Config}

/-- The value of a kind that stands for nothing, where an edit can produce one. -/
def ReturnKind.neutral? : ReturnKind → Option ReturnValue
  | .void => some .void
  | .boolean => some (.boolean false)
  | .integer => some (.integer 0)
  | .object | .other => none

namespace Instruction

variable {i : Instruction} {code : List Instruction}

theorem isSome_fieldRead?_zeroRead (reads : (i.zeroRead f).fieldRead?.isSome) :
    i.fieldRead?.isSome := by
  obtain ⟨g, reads⟩ := Option.isSome_iff_exists.mp reads
  have before : i.Reads g := reads_of_zeroRead reads
  rw [before]
  rfl

/-- Zeroing the reads of one field leaves fewer reads, unless there were none of it. -/
theorem countP_map_zeroRead_lt (new : code.map (zeroRead f) ≠ code) :
    (code.map (zeroRead f)).countP (·.fieldRead?.isSome) < code.countP (·.fieldRead?.isSome) := by
  have le (list : List Instruction) : (list.map (zeroRead f)).countP (·.fieldRead?.isSome) ≤
      list.countP (·.fieldRead?.isSome) := by
    rw [List.countP_map]
    exact List.countP_mono_left fun i _ => isSome_fieldRead?_zeroRead
  induction code with
  | nil => contradiction
  | cons i rest ih =>
    rw [List.map_cons, List.countP_cons, List.countP_cons]
    rcases zeroRead_cases f i with same | ⟨d, reads, _, load⟩
    · rw [same]
      exact Nat.add_lt_add_right (ih fun rest => new (by rw [List.map_cons, same, rest])) _
    · -- The read is gone, and the rest does not make up for it.
      have before : i.fieldRead?.isSome := by rw [reads]; rfl
      have after : (constZero d).fieldRead? = none :=
        Option.eq_none_iff_forall_ne_some.mpr fun _ => not_reads_constInt _
      rw [load, before, after]
      exact Nat.lt_succ_of_le (le rest)

end Instruction

namespace MethodDecl

/-- The method returns the neutral value of its kind and does nothing else. -/
def IsNeutral (m : MethodDecl) : Prop := ∃ v ∈ m.returnKind.neutral?, m.forced v = m

instance (m : MethodDecl) : Decidable m.IsNeutral :=
  inferInstanceAs (Decidable (∃ v ∈ m.returnKind.neutral?, m.forced v = m))

/-- The number of instructions that read some field. -/
def fieldReads (m : MethodDecl) : Nat := m.code.countP (·.fieldRead?.isSome)

/-- Reads count first. Among methods without reads, neutral ones are below all others. -/
def rank (m : MethodDecl) : Nat := 2 * m.fieldReads + if m.IsNeutral then 0 else 1

/-! ### Ranks of edited methods -/

theorem fieldReads_pos (reads : m.ReadsField f) : 0 < m.fieldReads := by
  obtain ⟨i, hi, reads⟩ := reads
  exact List.countP_pos_iff.mpr ⟨i, hi, by rw [reads]; rfl⟩

@[simp]
theorem fieldReads_forced : (m.forced value).fieldReads = 0 := by
  refine List.countP_eq_zero.mpr fun i hi reads => ?_
  obtain ⟨g, read⟩ := Option.isSome_iff_exists.mp reads
  exact not_readsField_forced ⟨i, hi, read⟩

/-- Zeroing reads changes a method only if it leaves fewer of them. -/
theorem fieldReads_zeroReads_lt (new : m.zeroReads f ≠ m) :
    (m.zeroReads f).fieldReads < m.fieldReads := by
  have changed : m.code.map (Instruction.zeroRead f) ≠ m.code := mt mapCode_eq_self new
  rw [fieldReads, fieldReads, code_zeroReads]
  exact Instruction.countP_map_zeroRead_lt changed

theorem rank_zeroReads_lt (new : m.zeroReads f ≠ m) : (m.zeroReads f).rank < m.rank := by
  have drop := fieldReads_zeroReads_lt new
  rw [rank, rank]
  split <;> split <;> omega

/-- A method that reads a field is above whatever it is forced to return. -/
theorem rank_forced_lt_of_readsField (reads : m.ReadsField f) :
    (m.forced value).rank < m.rank := by
  -- One read outweighs being neutral.
  have pos := fieldReads_pos reads
  rw [rank, rank, fieldReads_forced]
  split <;> split <;> omega

/-- Forcing the neutral value changes a method only if it is not neutral yet. -/
theorem rank_forced_lt_of_neutral (neutral : m.returnKind.neutral? = some value)
    (new : m.forced value ≠ m) : (m.forced value).rank < m.rank := by
  have before : ¬ m.IsNeutral := by
    rintro ⟨v, member, same⟩
    obtain rfl : v = value := Option.some.inj (member.symm.trans neutral)
    exact new same
  have after : (m.forced value).IsNeutral := by
    refine ⟨value, ?_, forced_forced⟩
    rwa [returnKind_eq_of_outline_eq outline_forced]
  rw [rank, rank, fieldReads_forced, if_pos after, if_neg before]
  omega

/-! ### Ranks by role -/

theorem rank_forced_lt_of_tierEdit? {role : Role} (known : m.tierEdit? f = some role) :
    (m.forced value).rank < m.rank :=
  rank_forced_lt_of_readsField (tierEdit?_eq_some_iff.mp known).1

theorem neutral?_of_delayEdit? {role : Role} {literals : List Int}
    (known : m.delayEdit? literals = some role) :
    m.returnKind.neutral? = some (role.forcedValue tier) := by
  obtain ⟨⟨ret, _⟩, rfl⟩ := delayEdit?_eq_some_iff.mp known
  rw [returnKind, ret]
  rfl

theorem neutral?_of_disableRole? {role : Role} (known : m.disableRole? = some role) :
    m.returnKind.neutral? = some (role.forcedValue tier) := by
  unfold disableRole? at known
  split_ifs at known
  split at known
  · rename_i kind
    obtain rfl := Option.some.inj known
    rw [kind]
    rfl
  · rename_i kind
    obtain rfl := Option.some.inj known
    rw [kind]
    rfl
  · contradiction

end MethodDecl

namespace Program

/-- The rank of the method at a place, none where there is no method. -/
def rankAt (p : Program) (id : MethodId) : Nat := (p.method? id).elim 0 MethodDecl.rank

theorem rankAt_congr (same : q.method? id = p.method? id) : q.rankAt id = p.rankAt id := by
  rw [rankAt, rankAt, same]

/-- Every method is as it was or has come to a lower rank. -/
def Descends (p q : Program) : Prop :=
  ∀ id, q.method? id = p.method? id ∨ q.rankAt id < p.rankAt id

theorem Descends.refl : p.Descends p := fun _ => .inl rfl

theorem Descends.rankAt_le (descends : p.Descends q) (id : MethodId) :
    q.rankAt id ≤ p.rankAt id := by
  rcases descends id with same | lower
  · exact Nat.le_of_eq (rankAt_congr same)
  · exact Nat.le_of_lt lower

theorem Descends.trans (first : p.Descends q) (second : q.Descends r) : p.Descends r := by
  intro id
  rcases second id with same | lower
  · rw [same, rankAt_congr same]
    exact first id
  · exact .inr (Nat.lt_of_lt_of_le lower (first.rankAt_le id))

/-- There is no way back but by staying. -/
theorem Descends.antisymm (there : p.Descends q) (back : q.Descends p)
    (outline : q.outline = p.outline) : q = p := by
  refine eq_of_outline_eq outline fun id => ?_
  rcases there id with same | lower
  · exact same
  · exact absurd (back.rankAt_le id) (Nat.not_le.mpr lower)

theorem descends_zeroReads : p.Descends (p.zeroReads f) := by
  intro id
  rw [rankAt, rankAt, method?_zeroReads]
  cases p.method? id with
  | none => exact .inl rfl
  | some m =>
    by_cases same : m.zeroReads f = m
    · exact .inl (congrArg some same)
    · exact .inr (MethodDecl.rank_zeroReads_lt same)

/-- A plan by roles descends if the value of each role does. -/
theorem descends_planRoles {owner : ClassId} {role? : MethodDecl → Option Role}
    (lower : ∀ m role, role? m = some role → m.forced (role.forcedValue tier) ≠ m →
      (m.forced (role.forcedValue tier)).rank < m.rank) :
    p.Descends (p.forceEach (p.planRoles owner role? tier)) := by
  intro id
  by_cases named : id ∈ (p.planRoles owner role? tier).map PlannedEdit.method
  · obtain ⟨e, member, rfl⟩ := List.mem_map.mp named
    obtain ⟨m, role, _, found, known, same⟩ := mem_planRoles.mp member
    have value : e.value = role.forcedValue tier := by rw [same]; rfl
    rw [rankAt, rankAt, method?_forceEach_of_mem distinct_planRoles member, found, value]
    by_cases done : m.forced (role.forcedValue tier) = m
    · exact .inl (congrArg some done)
    · exact .inr (lower m role known done)
  · exact .inl (method?_forceEach_of_notMem named)

end Program

/-! ### Blocks -/

/-- A block that carries out plans by roles descends if the value of each role does. -/
theorem BlockSpec.Describes.descends {τ : Type} {search : Config → Program → Except SkipReason τ}
    {plan : Config → Program → τ → List PlannedEdit} {b : Block} {owner : τ → ClassId}
    {role? : τ → MethodDecl → Option Role} (describes : (BlockSpec.ofPlan search plan).Describes b)
    (wellFormed : p.IsWellFormed)
    (roles : ∀ t, plan config p t = p.planRoles (owner t) (role? t) tier)
    (lower : ∀ t m role, role? t m = some role → m.forced (role.forcedValue tier) ≠ m →
      (m.forced (role.forcedValue tier)).rank < m.rank) : p.Descends (b.after config p) := by
  rcases describes.after_planRoles wellFormed roles with same | ⟨t, forced⟩
  · rw [same]
    exact .refl
  · rw [forced]
    exact descends_planRoles (lower t)

namespace Builtin

variable {list : List Block}

/-- Every built-in block leaves each method as it is or at a lower rank. -/
theorem descends_after (wellFormed : p.IsWellFormed) :
    ∀ b ∈ blocks, p.Descends (b.after config p) := by
  refine forall_mem_blocks.mpr ⟨?tier, ?delay, ?crash, ?telemetry⟩
  case tier =>
    exact describes_subscriptionTier.descends wellFormed (fun _ => planTier_eq)
      fun _ _ _ known _ => MethodDecl.rank_forced_lt_of_tierEdit? known
  case delay =>
    exact describes_serverChangeDelay.descends wellFormed (fun _ => planDelay_eq)
      fun _ _ _ known =>
        MethodDecl.rank_forced_lt_of_neutral (MethodDecl.neutral?_of_delayEdit? known)
  case crash =>
    exact describes_crashReporter.descends wellFormed (fun _ => planDisable_eq)
      fun _ _ _ known =>
        MethodDecl.rank_forced_lt_of_neutral (MethodDecl.neutral?_of_disableRole? known)
  case telemetry =>
    rcases describes_telemetryFlag.after_cases wellFormed with same | ⟨f, zeroed⟩
    · rw [same]
      exact .refl
    · rw [zeroed]
      exact descends_zeroReads

theorem descends_afterEach (known : ∀ b ∈ list, b ∈ blocks) (wellFormed : p.IsWellFormed) :
    p.Descends (afterEach config list p) := by
  induction list generalizing p with
  | nil => exact .refl
  | cons b rest ih =>
    obtain ⟨first, others⟩ := List.forall_mem_cons.mp known
    have total := isTotal_of_mem_blocks b first
    exact (descends_after wellFormed b first).trans
      (ih others (total.isWellFormed_after config wellFormed))

/-- Blocks that leave in the end the program that they found have left it all along. -/
theorem after_eq_self_of_afterEach (known : ∀ b ∈ list, b ∈ blocks) (wellFormed : p.IsWellFormed)
    (back : afterEach config list p = p) : ∀ b ∈ list, b.after config p = p := by
  induction list with
  | nil => simp
  | cons b rest ih =>
    obtain ⟨first, others⟩ := List.forall_mem_cons.mp known
    have total := isTotal_of_mem_blocks b first
    -- The other blocks lead back to the program that this one found.
    have returns : (b.after config p).Descends p := by
      have later : (b.after config p).Descends (afterEach config rest (b.after config p)) :=
        descends_afterEach others (total.isWellFormed_after config wellFormed)
      rwa [← afterEach_cons, back] at later
    have same : b.after config p = p :=
      (descends_after wellFormed b first).antisymm returns (total.editsTo config).outline_eq
    rw [afterEach_cons, same] at back
    exact List.forall_mem_cons.mpr ⟨same, ih others back⟩

end Builtin

end DexPatch
