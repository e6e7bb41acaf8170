import DexPatch.Proofs.EditPlans
import DexPatch.Proofs.ZeroedReads

/-!
# Settling

A method that returns a fixed value reads no field and carries no literal but its own, and a
method whose reads are zeroed gains nothing but loads of zero. So a method that has no role
in a plan any more, or does what its role calls for, does not get out of that state by later
edits. The one exception is a delay that is known by the literal zero.

## Main definitions

* `Program.EachMethod` — every method of a class has a property
* `MethodDecl.IsDisabled` — a method does what disabling its class calls for

## Main results

* `Program.eachMethod_forceEach_planRoles` — what a plan for a class achieves there
* `Program.EachMethod.forceEach`, `Program.EachMethod.zeroReads` — what later edits preserve
* `MethodDecl.tierEdit?_forced`, `MethodDecl.delayEdit?_forced`, `MethodDecl.isDisabled_forced`
  — forced methods are settled
* `MethodDecl.tierEdit?_zeroReads`, `MethodDecl.delayEdit?_zeroReads`,
  `MethodDecl.IsDisabled.zeroReads` — settled methods stay so
-/

namespace DexPatch

variable {p : Program} {owner : ClassId} {m : MethodDecl} {value : ReturnValue} {role : Role}
  {role? : MethodDecl → Option Role} {tier : Int32} {f g : FieldRef} {literals : List Int}
  {plan : List PlannedEdit} {P : MethodDecl → Prop}

/-! ### Classes -/

namespace Program

/-- Every method of the class has the property. -/
def EachMethod (p : Program) (owner : ClassId) (P : MethodDecl → Prop) : Prop :=
  ∀ id m, id.owner = owner → p.method? id = some m → P m

/-- A property survives a plan if it survives each of its edits. -/
theorem EachMethod.forceEach (each : p.EachMethod owner P) (fits : p.Fits plan)
    (forced : ∀ e ∈ plan, ∀ m, p.method? e.method = some m → P m → P (m.forced e.value)) :
    (p.forceEach plan).EachMethod owner P := by
  intro id m inside found
  by_cases named : id ∈ plan.map PlannedEdit.method
  · obtain ⟨e, member, rfl⟩ := List.mem_map.mp named
    rw [method?_forceEach_of_mem fits.distinct member] at found
    obtain ⟨n, hn, rfl⟩ := Option.map_eq_some_iff.mp found
    exact forced e member n hn (each e.method n inside hn)
  · rw [method?_forceEach_of_notMem named] at found
    exact each id m inside found

theorem EachMethod.zeroReads (each : p.EachMethod owner P)
    (zeroed : ∀ m, P m → P (m.zeroReads f)) : (p.zeroReads f).EachMethod owner P := by
  intro id m inside found
  rw [method?_zeroReads] at found
  obtain ⟨n, hn, rfl⟩ := Option.map_eq_some_iff.mp found
  exact zeroed n (each id n inside hn)

/-- After a plan for a class, every method of it either had no role or has been forced. -/
theorem eachMethod_forceEach_planRoles (without : ∀ m, role? m = none → P m)
    (forced : ∀ m role, role? m = some role → P (m.forced (role.forcedValue tier))) :
    (p.forceEach (p.planRoles owner role? tier)).EachMethod owner P := by
  intro id m inside found
  by_cases named : id ∈ (p.planRoles owner role? tier).map PlannedEdit.method
  · obtain ⟨e, member, rfl⟩ := List.mem_map.mp named
    rw [method?_forceEach_of_mem distinct_planRoles member] at found
    obtain ⟨n, hn, rfl⟩ := Option.map_eq_some_iff.mp found
    obtain ⟨m, role, _, hm, known, same⟩ := mem_planRoles.mp member
    obtain rfl := Option.some.inj (hm.symm.trans hn)
    rw [same]
    exact forced m role known
  · rw [method?_forceEach_of_notMem named] at found
    -- A method with a role would have been named.
    cases known : role? m with
    | none => exact without m known
    | some role =>
      have member : PlannedEdit.ofRole id role tier ∈ p.planRoles owner role? tier :=
        mem_planRoles.mpr ⟨m, role, inside, found, known, rfl⟩
      exact absurd (List.mem_map_of_mem member) named

/-- A class without roles needs no edit. -/
theorem planRoles_eq_nil (each : p.EachMethod owner (role? · = none)) :
    p.planRoles owner role? tier = [] := by
  rw [List.eq_nil_iff_forall_not_mem]
  intro e member
  obtain ⟨m, role, inside, found, known, _⟩ := mem_planRoles.mp member
  rw [each e.method m inside found] at known
  contradiction

end Program

/-! ### Tier checks -/

namespace MethodDecl

theorem not_readsField_forced : ¬ (m.forced value).ReadsField f := by
  rintro ⟨i, hi, reads⟩
  exact not_reads_of_mem_returnCode (mem_returnCode_of_mem_code_forced hi) reads

/-- A forced method is no tier check. -/
theorem tierEdit?_forced : (m.forced value).tierEdit? f = none :=
  if_neg not_readsField_forced

theorem tierRole?_zeroReads : (m.zeroReads g).tierRole? = m.tierRole? := by
  have kind : (m.zeroReads g).returnKind = m.returnKind :=
    returnKind_eq_of_outline_eq outline_zeroReads
  rw [tierRole?, tierRole?, kind, ofCode_zeroReads]
  rfl

/-- Zeroing reads makes no tier checks. -/
theorem tierEdit?_zeroReads (none : m.tierEdit? f = none) :
    (m.zeroReads g).tierEdit? f = .none := by
  by_cases reads : (m.zeroReads g).ReadsField f
  · rw [tierEdit?, if_pos (readsField_of_zeroReads reads)] at none
    rwa [tierEdit?, if_pos reads, tierRole?_zeroReads]
  · exact if_neg reads

/-! ### Delays -/

theorem delayEdit?_eq_none_of_ret_ne (other : m.ret ≠ .int) : m.delayEdit? literals = none :=
  if_neg fun h => other h.1

/-- A method that returns zero is no delay, unless zero is one of the literals. -/
theorem delayEdit?_forced (zero : 0 ∉ literals) :
    (m.forced (.integer 0)).delayEdit? literals = none := by
  refine if_neg ?_
  rintro ⟨_, i, hi, literal, carried, listed⟩
  have member := mem_returnCode_of_mem_code_forced hi
  simp only [returnCode, List.mem_cons, List.not_mem_nil, or_false] at member
  rcases member with rfl | rfl
  · obtain rfl : 0 = literal := by simpa using carried
    exact zero listed
  · exact absurd carried nofun

/-- If zero is one of the literals, then a method that returns zero is a delay. -/
theorem delayEdit?_forced_of_mem (zero : 0 ∈ literals) (ret : m.ret = .int)
    (has : m.body.isSome) : (m.forced (.integer 0)).delayEdit? literals = some .serverDelay := by
  obtain ⟨b, hb⟩ := Option.isSome_iff_exists.mp has
  refine if_pos ⟨ret, .constInt ⟨0⟩ 0, ?_, 0, rfl, zero⟩
  simp [code, forced, hb, minimalBody, returnCode]

/-- Zeroing reads makes no delays, unless zero is one of the literals. -/
theorem delayEdit?_zeroReads (zero : 0 ∉ literals) (none : m.delayEdit? literals = none) :
    (m.zeroReads g).delayEdit? literals = .none := by
  refine if_neg ?_
  rintro ⟨ret, i, hi, literal, carried, listed⟩
  rw [code_zeroReads] at hi
  obtain ⟨j, hj, rfl⟩ := List.mem_map.mp hi
  rcases Instruction.zeroRead_cases g j with same | ⟨d, _, _, load⟩
  · rw [same] at carried
    rw [delayEdit?, if_pos ⟨ret, j, hj, literal, carried, listed⟩] at none
    contradiction
  · obtain rfl : 0 = literal := by simpa [load, Instruction.constZero] using carried
    exact zero listed

/-! ### Disabled methods -/

/-- Disabling a class leaves its numbers alone. -/
theorem ret_ne_int_of_disableRole? (known : m.disableRole? = some role) : m.ret ≠ .int := by
  intro number
  have kind : m.returnKind = .integer := by
    rw [returnKind, number]
    rfl
  rw [disableRole?, kind] at known
  split at known <;> contradiction

/-- The method does what disabling its class calls for. -/
def IsDisabled (m : MethodDecl) : Prop :=
  ∀ role, m.disableRole? = some role → m.forced (role.forcedValue 0) = m

theorem disableRole?_eq_of_outline_eq {n : MethodDecl} (same : m.outline = n.outline) :
    m.disableRole? = n.disableRole? := by
  have name : m.name = n.name := congrArg (·.name) same
  have flags : m.accessFlags = n.accessFlags := congrArg (·.accessFlags) same
  refine if_congr ?_ ?_ rfl
  · rw [IsAbstractOrNative, IsAbstractOrNative, IsConstructor, IsConstructor, name, flags,
      isSome_body_eq_of_outline_eq same]
  · rw [returnKind_eq_of_outline_eq same]

theorem isDisabled_forced (known : m.disableRole? = some role) :
    (m.forced (role.forcedValue 0)).IsDisabled := by
  intro other again
  rw [disableRole?_eq_of_outline_eq outline_forced, known] at again
  obtain rfl := Option.some.inj again
  exact forced_forced

theorem IsDisabled.zeroReads (disabled : m.IsDisabled) : (m.zeroReads f).IsDisabled := by
  intro role known
  rw [disableRole?_eq_of_outline_eq outline_zeroReads] at known
  -- A method that has a role has been forced, so it reads nothing.
  have fixed := disabled role known
  have none : ¬ m.ReadsField f := fixed ▸ not_readsField_forced
  rwa [zeroReads_eq_self none]

end MethodDecl

/-! ### Settled classes -/

namespace Program

theorem planTier_eq_nil (each : p.EachMethod owner (·.tierEdit? f = none)) :
    p.planTier owner f tier = [] := by
  rw [planTier_eq, planRoles_eq_nil each]

theorem planDelay_eq_nil (each : p.EachMethod owner (·.delayEdit? literals = none)) :
    p.planDelay owner literals = [] := by
  rw [planDelay_eq, planRoles_eq_nil each]

/-- In a disabled class everything planned is done. -/
theorem isDone_of_mem_planDisable {e : PlannedEdit}
    (each : p.EachMethod owner MethodDecl.IsDisabled) (planned : e ∈ p.planDisable owner) :
    e.IsDone p := by
  obtain ⟨m, role, inside, found, known, same⟩ := mem_planRoles.mp planned
  intro n hn
  obtain rfl := Option.some.inj (found.symm.trans hn)
  rw [same]
  exact each e.method m inside found role known

end Program

end DexPatch
