import DexPatch.Proofs.MethodLists
import DexPatch.Proofs.Settling

/-!
# Plans in any order

A plan names each method once, so its edits do not see each other and their order does not
matter. What it leaves is a program in which the same planner finds less than before, or just the
same: a forced method reads no field, so no tier check is left, and whether a method is to be
disabled does not depend on its code. Only a delay may come back, since a method that was made to
return zero carries the literal zero. In any case what is found again is already done.

## Main definitions

* `Planner` — the three plans with their parameters
* `Planner.recurs` — the planner finds its own work again
* `MethodDecl.played` — a method that returns what its role calls for

## Main results

* `Program.forceEach_perm`, `Program.Fits.perm` — the order of a plan does not matter
* `Program.forceEach_planRoles_eq` — a plan that is carried out, method by method
* `Planner.role?_forced` — the role of a method that has been forced
* `Planner.plan_contract` — plans may be carried out in any order, and leave nothing to do
-/

namespace DexPatch

open Program

variable {p : Program} {owner : ClassId} {m : MethodDecl} {role : Role}

/-! ### The order of a plan -/

section Order

variable {plan order : List PlannedEdit} {role? : MethodDecl → Option Role} {tier : Int32}

namespace Program

theorem Fits.perm (fits : p.Fits plan) (perm : order.Perm plan) : p.Fits order where
  distinct := (perm.map PlannedEdit.method).nodup_iff.mpr fits.distinct
  edits e member := fits.edits e (perm.subset member)

/-- Edits of different methods lead to the same program in every order. -/
theorem forceEach_perm (perm : order.Perm plan)
    (distinct : (plan.map PlannedEdit.method).Nodup) : p.forceEach order = p.forceEach plan := by
  have names := perm.map PlannedEdit.method
  -- No edit changes an outline, so it is enough to compare the programs method by method.
  refine eq_of_outline_eq (outline_forceEach.trans outline_forceEach.symm) fun id => ?_
  by_cases named : id ∈ plan.map PlannedEdit.method
  · obtain ⟨e, member, rfl⟩ := List.mem_map.mp named
    rw [method?_forceEach_of_mem distinct member,
      method?_forceEach_of_mem (names.nodup_iff.mpr distinct) (perm.symm.subset member)]
  · rw [method?_forceEach_of_notMem named,
      method?_forceEach_of_notMem (mt (names.subset ·) named)]

/-- A fitting plan does the same in every order, and counts the same. -/
theorem run_applyPlan_perm (wellFormed : p.IsWellFormed) (fits : p.Fits plan)
    (perm : order.Perm plan) :
    (applyPlan order).run p = (.ok (plan.countP fun e => ¬ e.IsDone p), p.forceEach plan) := by
  rw [run_applyPlan wellFormed (fits.perm perm), forceEach_perm perm fits.distinct,
    perm.countP_eq]

/-- Where everything is done, every edit of the plan says so. -/
theorem run_forceReturn_of_isDone {e : PlannedEdit} (wellFormed : p.IsWellFormed)
    (fits : p.Fits plan) (member : e ∈ plan) (done : e.IsDone p) :
    (forceReturn e.method e.value).run p = (.ok .unchanged, p) := by
  obtain ⟨m, found, fit⟩ := fits.edits e member
  have same := done m found
  rw [run_forceReturn wellFormed found fit.kind fit.body, if_pos same,
    (modifyMethod_eq_self_iff found).mpr same]

theorem run_applyPlan_of_isDone (wellFormed : p.IsWellFormed) (fits : p.Fits plan)
    (done : ∀ e ∈ plan, e.IsDone p) : (applyPlan plan).run p = (.ok 0, p) := by
  have none : (plan.countP fun e => ¬ e.IsDone p) = 0 := by
    rw [List.countP_eq_zero]
    intro e member
    simp [done e member]
  rw [run_applyPlan wellFormed fits, none, forceEach_eq_self fits.distinct done]

/-- The methods of a plan are methods of its class, in the order in which they are declared. -/
theorem pairwise_planRoles :
    (p.planRoles owner role? tier).Pairwise fun e e' => e.method.index < e'.method.index := by
  have planned : ((p.planRoles owner role? tier).map PlannedEdit.method).Pairwise fun id id' =>
      id.index < id'.index :=
    (pairwise_classMethods owner).sublist map_method_planRoles_sublist
  rwa [List.pairwise_map] at planned

end Program

end Order

/-! ### What a plan leaves -/

section Again

variable {role? : MethodDecl → Option Role} {tier : Int32}

/-- The method made to return what its role calls for, if it has one. -/
def MethodDecl.played (role? : MethodDecl → Option Role) (tier : Int32) (m : MethodDecl) :
    MethodDecl :=
  (role? m).elim m fun role => m.forced (role.forcedValue tier)

theorem MethodDecl.outline_played : (m.played role? tier).outline = m.outline := by
  rw [played]
  cases role? m with
  | none => rfl
  | some role => exact outline_forced

namespace Program

/-- A plan that is carried out makes every method of the class play its role. -/
theorem forceEach_planRoles_eq :
    p.forceEach (p.planRoles owner role? tier) =
      p.mapMethodsIdx fun id m => if id.owner = owner then m.played role? tier else m := by
  refine eq_of_outline_eq ?_ fun id => ?_
  · rw [outline_forceEach, outline_mapMethodsIdx]
    intro id m
    by_cases inside : id.owner = owner
    · rw [if_pos inside, MethodDecl.outline_played]
    · rw [if_neg inside]
  · rw [method?_mapMethodsIdx]
    by_cases named : id ∈ (p.planRoles owner role? tier).map PlannedEdit.method
    · obtain ⟨e, member, rfl⟩ := List.mem_map.mp named
      obtain ⟨m, role, inside, found, known, same⟩ := mem_planRoles.mp member
      have value : e.value = role.forcedValue tier := congrArg PlannedEdit.value same
      rw [method?_forceEach_of_mem distinct_planRoles member, found, Option.map_some,
        Option.map_some, if_pos inside, MethodDecl.played, known, value]
      rfl
    · rw [method?_forceEach_of_notMem named]
      cases found : p.method? id with
      | none => rfl
      | some m =>
        by_cases inside : id.owner = owner
        · -- A method with a role would have been named.
          have none : role? m = none := by
            by_contra has
            obtain ⟨role, known⟩ := Option.ne_none_iff_exists'.mp has
            have member : PlannedEdit.ofRole id role tier ∈ p.planRoles owner role? tier :=
              mem_planRoles.mpr ⟨m, role, inside, found, known, rfl⟩
            exact named (List.mem_map_of_mem member)
          rw [Option.map_some, if_pos inside, MethodDecl.played, none]
          rfl
        · rw [Option.map_some, if_neg inside]

/-- If the forced methods keep their roles, the plan is found again, and if they lose them,
nothing is. -/
theorem planRoles_forceEach_planRoles {again : Bool}
    (forced : ∀ m role, role? m = some role →
      role? (m.forced (role.forcedValue tier)) = if again then some role else none) :
    (p.forceEach (p.planRoles owner role? tier)).planRoles owner role? tier =
      if again then p.planRoles owner role? tier else [] := by
  rw [forceEach_planRoles_eq, planRoles_mapMethodsIdx fun _ => again]
  · cases again <;> simp
  · intro id m inside _
    rw [if_pos inside, MethodDecl.played]
    cases known : role? m with
    | none => simp [known]
    | some role =>
      rw [Option.elim_some, forced m role known]
      cases again <;> rfl

end Program

end Again

/-! ### The three planners -/

/-- One of the three ways to plan forced returns for a class, with what it is told. -/
inductive Planner
  | tier (field : FieldRef) (elevatedTier : Int32)
  | delay (literals : List Int)
  | disable

namespace Planner

variable {planner : Planner}

/-- The plan for a class. -/
def plan (planner : Planner) (p : Program) (owner : ClassId) : List PlannedEdit :=
  match planner with
  | tier field elevatedTier => p.planTier owner field elevatedTier
  | delay literals => p.planDelay owner literals
  | disable => p.planDisable owner

/-- The planner finds its own work again once it is done. -/
def recurs : Planner → Bool
  | tier _ _ => false
  | delay literals => 0 ∈ literals
  | disable => true

/-- The role that the planner gives to a method. -/
def role? : Planner → MethodDecl → Option Role
  | tier field _ => MethodDecl.tierEdit? field
  | delay literals => MethodDecl.delayEdit? literals
  | disable => MethodDecl.disableRole?

/-- The tier that the planner has accessors return. -/
def elevatedTier : Planner → Int32
  | tier _ elevatedTier => elevatedTier
  | delay _ | disable => 0

theorem plan_eq : planner.plan p owner = p.planRoles owner planner.role? planner.elevatedTier := by
  cases planner with
  | tier field elevatedTier => exact planTier_eq
  | delay literals => exact planDelay_eq
  | disable => exact planDisable_eq

theorem fits_plan : p.Fits (planner.plan p owner) := by
  cases planner with
  | tier field elevatedTier => exact fits_planTier
  | delay literals => exact fits_planDelay
  | disable => exact fits_planDisable

/-- A method that has been forced keeps its role if the planner finds its work again. -/
theorem role?_forced (known : planner.role? m = some role) :
    planner.role? (m.forced (role.forcedValue planner.elevatedTier)) =
      if planner.recurs then some role else none := by
  cases planner with
  | tier field elevatedTier => exact MethodDecl.tierEdit?_forced
  | disable =>
    exact (MethodDecl.disableRole?_eq_of_outline_eq MethodDecl.outline_forced).trans known
  | delay literals =>
    obtain ⟨⟨ret, carries⟩, rfl⟩ := MethodDecl.delayEdit?_eq_some_iff.mp known
    -- The forced body carries the literal zero and no other one.
    by_cases zero : 0 ∈ literals
    · simp only [recurs, zero, decide_true, if_true]
      exact MethodDecl.delayEdit?_forced_of_mem zero ret
        (MethodDecl.isSome_body_of_carriesLiteral carries)
    · simp only [recurs, zero, decide_false, Bool.false_eq_true, if_false]
      exact MethodDecl.delayEdit?_forced zero

/-- The planner finds its own work again, or nothing. -/
theorem plan_again :
    planner.plan (p.forceEach (planner.plan p owner)) owner =
      if planner.recurs then planner.plan p owner else [] := by
  simp only [plan_eq]
  exact planRoles_forceEach_planRoles fun m role known => role?_forced known

/-- What is planned again is already done. -/
theorem isDone_of_mem_again {e : PlannedEdit}
    (member : e ∈ planner.plan (p.forceEach (planner.plan p owner)) owner) :
    e.IsDone (p.forceEach (planner.plan p owner)) := by
  rw [plan_again] at member
  split at member
  · exact PlannedEdit.isDone_forceEach fits_plan.distinct member
  · contradiction

/-- A plan names methods of the class in the order of their declaration. Its edits may be carried
out in any order: all of them succeed, and they lead to the same program. There the same planner
finds its own work again or nothing at all, and every edit that it then plans is already made. -/
theorem plan_contract {package : Option String} {classes : List ClassDecl}
    (accepted : Program.ofClasses package classes = .ok p) (planner : Planner) (owner : ClassId) :
    (∀ e ∈ planner.plan p owner, e.method.owner = owner ∧ (p.method? e.method).isSome) ∧
      (planner.plan p owner).Pairwise (fun e e' => e.method.index < e'.method.index) ∧
      ∃ n p',
        (∀ order, order.Perm (planner.plan p owner) → (applyPlan order).run p = (.ok n, p')) ∧
        planner.plan p' owner = (if planner.recurs then planner.plan p owner else []) ∧
        (∀ e ∈ planner.plan p' owner,
          (forceReturn e.method e.value).run p' = (.ok .unchanged, p')) ∧
        (applyPlan (planner.plan p' owner)).run p' = (.ok 0, p') := by
  have wellFormed := (Program.ofClasses_eq_ok_iff.mp accepted).2
  have fits : p.Fits (planner.plan p owner) := fits_plan
  have after : (p.forceEach (planner.plan p owner)).IsWellFormed := by
    have kept := (usesMutators_applyPlan (planner.plan p owner) p).isWellFormed wellFormed
    rwa [run_applyPlan wellFormed fits] at kept
  refine ⟨?_, ?_, (planner.plan p owner).countP fun e => ¬ e.IsDone p,
    p.forceEach (planner.plan p owner), ?_, plan_again, ?_, ?_⟩
  · intro e member
    rw [plan_eq, mem_planRoles] at member
    obtain ⟨m, _, inside, found, _⟩ := member
    exact ⟨inside, found ▸ rfl⟩
  · rw [plan_eq]
    exact pairwise_planRoles
  · exact fun order perm => run_applyPlan_perm wellFormed fits perm
  · intro e member
    exact run_forceReturn_of_isDone after fits_plan member (isDone_of_mem_again member)
  · exact run_applyPlan_of_isDone after fits_plan fun e member => isDone_of_mem_again member

/-- With zero among the delays, both methods are found again, and both return zero already. The
plan was carried out back to front. -/
theorem plan_contract_delay_zero :
    let wait : MethodDecl := ⟨"wait", [], .int, 0, some ⟨1, 0, [.constInt ⟨0⟩ 30, .ret ⟨0⟩]⟩⟩
    let pause : MethodDecl := ⟨"pause", [], .int, 0, some ⟨1, 0, [.nop, .constZero ⟨0⟩, .ret ⟨0⟩]⟩⟩
    let p : Program := ⟨none, [⟨⟨"LA;"⟩, none, 0, [], [wait, pause]⟩]⟩
    let zero (index : Nat) : PlannedEdit := ⟨⟨⟨0⟩, index⟩, .serverDelay, .integer 0⟩
    let planner : Planner := .delay [0, 30]
    Program.ofClasses p.package p.classes = .ok p ∧ planner.plan p ⟨0⟩ = [zero 0, zero 1] ∧
      ∃ p', (applyPlan [zero 1, zero 0]).run p = (.ok 2, p') ∧
        planner.plan p' ⟨0⟩ = [zero 0, zero 1] ∧
        (forceReturn ⟨⟨0⟩, 1⟩ (.integer 0)).run p' = (.ok .unchanged, p') ∧
        (applyPlan [zero 0, zero 1]).run p' = (.ok 0, p') := by
  intro wait pause p zero planner
  have accepted : Program.ofClasses p.package p.classes = .ok p := rfl
  have first : planner.plan p ⟨0⟩ = [zero 0, zero 1] := by decide +zetaReduce
  obtain ⟨_, _, n, p', any, again, each, none⟩ := plan_contract accepted planner ⟨0⟩
  rw [first] at any again
  have backwards := any [zero 1, zero 0] (.swap _ _ _)
  obtain rfl : n = 2 := by
    have answer : ((applyPlan [zero 1, zero 0]).run p).1 = .ok 2 := by decide +zetaReduce
    rw [backwards] at answer
    exact Except.ok.inj answer
  have found : planner.recurs := rfl
  rw [if_pos found] at again
  rw [again] at each none
  exact ⟨accepted, first, p', backwards, again, each (zero 1) (by simp), none⟩

end Planner

end DexPatch
