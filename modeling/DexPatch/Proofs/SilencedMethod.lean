import DexPatch.Proofs.MethodLists
import DexPatch.Proofs.SecondRun

/-!
# What a forced return takes away

A method that returns a fixed value drops out of every search. Its code may carry one of the
diagnostic literals, if that is the value to return, so it may show evidence all the same. But
evidence counts only where a field is read, and such code reads none and loads no string. What
was found in other methods is found again, in the old order.

## Main definitions

* `ClassDecl.withoutBody` — a class with one method that has no body
* `Program.AgreesWithout` — everything that is found is found without one method

## Main results

* `filter_of_silent` — a list that is made of the methods loses what one method was good for
* `FieldTally.addMethod_of_silent`, `ClassDecl.readNearString?_of_silent` — a method that reads
  no field adds nothing to a tally, and no string in it is near a read
* `forceReturn_agreesWithout` — a forced return takes one method away
-/

namespace DexPatch

open Program

variable {p q : Program} {m : MethodDecl} {id other : MethodId} {value : ReturnValue}
  {f : MethodDecl → MethodDecl} {g : FieldRef}

/-- What is made of a method bears its position. If nothing is made of the changed method, then
what was made of it before is gone, and all else stays. -/
theorem filter_of_silent {β : Type} (make : MethodDecl → Option β) (key : β → MethodId)
    (named : ∀ b ∈ make m, key b = other) (silent : make (f m) = none) :
    make (if other = id then f m else m) = (make m).filter (key · ≠ id) := by
  by_cases here : other = id
  · subst here
    rw [if_pos rfl, silent, eq_comm, Option.filter_eq_none_iff]
    intro b made
    simp [named b made]
  · rw [if_neg here, filter_eq_self]
    intro b made
    simpa [named b made] using here

/-! ### The forced method -/

theorem loadedString?_of_mem_returnCode {i : Instruction} (hi : i ∈ returnCode value) :
    i.loadedString? = none := by
  rcases returnCode_cases value with ⟨_, code⟩ | ⟨_, loaded, final, code, returns⟩
  · rw [code, List.mem_singleton] at hi
    subst hi
    rfl
  · simp only [code, List.mem_cons, List.not_mem_nil, or_false] at hi
    rcases hi with rfl | rfl
    · exact Instruction.loadedString?_constInt
    · rcases returns with rfl | rfl <;> rfl

/-- No fingerprint with a string fits a forced method. -/
theorem Fingerprint.not_matches_forced {fp : Fingerprint} (some : fp.strings ≠ []) :
    ¬ fp.Matches (m.forced value) := by
  rintro ⟨_, all⟩
  -- One required string is enough, since the forced code loads none.
  obtain ⟨s, hs⟩ := List.exists_mem_of_ne_nil _ some
  have loaded := all s hs
  rw [ConstantPool.ofMethod, ConstantPool.mem_ofStrings, List.mem_filterMap] at loaded
  obtain ⟨i, hi, load⟩ := loaded
  rw [loadedString?_of_mem_returnCode (MethodDecl.mem_returnCode_of_mem_code_forced hi)] at load
  contradiction

theorem MethodDecl.readSites_forced : (m.forced value).readSites g = [] := by
  rw [readSites, List.filterMap_eq_nil_iff]
  rintro ⟨i, k⟩ member
  have inside := List.fst_mem_of_mem_zipIdx member
  exact if_neg (not_reads_of_mem_returnCode (mem_returnCode_of_mem_code_forced inside))

/-! ### Methods that read no field -/

/-- The method with its body taken away. -/
def MethodDecl.withoutBody (m : MethodDecl) : MethodDecl := { m with body := none }

theorem MethodDecl.not_readsField_withoutBody : ¬ m.withoutBody.ReadsField g := by
  rintro ⟨i, hi, _⟩
  contradiction

/-- A method that reads no field adds nothing to a tally, whatever evidence it shows. -/
theorem FieldTally.addMethod_of_silent (silent : ∀ g, ¬ m.ReadsField g) (owner : TypeDesc)
    (t : FieldTally) : addMethod owner t m = t := by
  have none : m.code.filterMap Instruction.fieldRead? = [] := by
    rw [List.filterMap_eq_nil_iff]
    intro i hi
    cases read : i.fieldRead? with
    | none => rfl
    | some g => exact absurd ⟨i, hi, read⟩ (silent g)
  rw [addMethod, candidateReads, none]
  exact ite_self t

/-- In a method that reads no field no string is near a read. -/
theorem ClassDecl.readNearString?_of_silent (silent : ∀ g, ¬ m.ReadsField g) (marker : String)
    (window : Nat) : readNearString? marker window m.code = none := by
  cases near : readNearString? marker window m.code with
  | none => rfl
  | some g => exact absurd (Builtin.exists_reads_of_readNearString? near) (silent g)

/-! ### Classes -/

/-- The class with the body of one method taken away. -/
def ClassDecl.withoutBody (c : ClassDecl) (index : Nat) : ClassDecl :=
  { c with methods := c.methods.modify index MethodDecl.withoutBody }

/-- Two changes of one element are the same to a fold that cannot tell them apart. -/
theorem foldl_modify_congr {α β : Type} {step : β → α → β} {change change' : α → α}
    (same : ∀ a t, step t (change a) = step t (change' a)) (list : List α) (n : Nat) (t : β) :
    (list.modify n change).foldl step t = (list.modify n change').foldl step t := by
  induction list generalizing n t with
  | nil => simp
  | cons a rest ih =>
    cases n with
    | zero => simp [same]
    | succ n => simpa using ih n (step t a)

theorem findSome?_modify_congr {α β : Type} {select : α → Option β} {change change' : α → α}
    (same : ∀ a, select (change a) = select (change' a)) (list : List α) (n : Nat) :
    (list.modify n change).findSome? select = (list.modify n change').findSome? select := by
  induction list generalizing n with
  | nil => simp
  | cons a rest ih =>
    cases n with
    | zero => simp [List.findSome?_cons, same]
    | succ n => simp [List.findSome?_cons, ih n]

namespace Program

theorem class?_modifyMethod_self :
    (p.modifyMethod id f).class? id.owner =
      (p.class? id.owner).map fun c => { c with methods := c.methods.modify id.index f } := by
  simp [class?, modifyMethod]

theorem class?_modifyMethod_of_ne {c : ClassId} (different : c ≠ id.owner) :
    (p.modifyMethod id f).class? c = p.class? c := by
  have index : id.owner.index ≠ c.index := by
    intro same
    exact different (congrArg ClassId.mk same.symm)
  simp [class?, modifyMethod, index]

/-! ### Whole programs -/

/-- What is found in the second program is what is found in the first one without the method at
`id`. Other classes are searched with the same result. -/
structure AgreesWithout (id : MethodId) (p q : Program) : Prop where
  findAll : ∀ fp : Fingerprint, fp.strings ≠ [] →
    fp.findAll q = (fp.findAll p).filter (·.method ≠ id)
  collect : ∀ g, SubstitutionPlan.collect q g =
    ⟨g, (SubstitutionPlan.collect p g).entries.filter (·.1 ≠ id)⟩
  planTier : ∀ c g tier, q.planTier c g tier = (p.planTier c g tier).filter (·.method ≠ id)
  ownTally : (q.class? id.owner).map FieldTally.ofClass =
    (p.class? id.owner).map fun c => FieldTally.ofClass (c.withoutBody id.index)
  ownNear : ∀ marker window, (q.class? id.owner).map (·.fieldNearString marker window) =
    (p.class? id.owner).map fun c => (c.withoutBody id.index).fieldNearString marker window
  otherTally : ∀ c, c ≠ id.owner →
    (q.class? c).map FieldTally.ofClass = (p.class? c).map FieldTally.ofClass
  otherNear : ∀ c marker window, c ≠ id.owner →
    (q.class? c).map (·.fieldNearString marker window) =
      (p.class? c).map (·.fieldNearString marker window)

theorem findAll_modifyMethod_forced {fp : Fingerprint} (some : fp.strings ≠ []) :
    fp.findAll (p.modifyMethod id (·.forced value)) = (fp.findAll p).filter (·.method ≠ id) := by
  rw [modifyMethod_eq_mapMethodsIdx, findAll_mapMethodsIdx]
  intro other m _
  apply filter_of_silent (fun m => fp.found? p (other, m)) FingerprintMatch.method
  · intro b made
    -- A match bears the position of the method that it was made of.
    simp only [Fingerprint.found?, Option.mem_ite_none_right] at made
    obtain ⟨c, _, rfl⟩ := Option.map_eq_some_iff.mp made.2
    rfl
  · exact if_neg (Fingerprint.not_matches_forced some)

theorem collect_modifyMethod_forced :
    SubstitutionPlan.collect (p.modifyMethod id (·.forced value)) g =
      ⟨g, (SubstitutionPlan.collect p g).entries.filter (·.1 ≠ id)⟩ := by
  rw [SubstitutionPlan.mk.injEq]
  refine ⟨rfl, ?_⟩
  rw [modifyMethod_eq_mapMethodsIdx, collect_mapMethodsIdx]
  intro other m _
  apply filter_of_silent (fun m => SubstitutionPlan.entry? g (other, m)) Prod.fst
  · intro b made
    simp only [SubstitutionPlan.entry?] at made
    split at made
    · contradiction
    · obtain rfl := Option.some.inj made
      rfl
  · simp only [SubstitutionPlan.entry?, MethodDecl.readSites_forced]

theorem planTier_modifyMethod_forced {c : ClassId} {tier : Int32} :
    (p.modifyMethod id (·.forced value)).planTier c g tier =
      (p.planTier c g tier).filter (·.method ≠ id) := by
  rw [planTier_eq, planTier_eq, modifyMethod_eq_mapMethodsIdx, planRoles_mapMethodsIdx]
  intro other m _ _
  apply filter_of_silent (fun m => (m.tierEdit? g).map (PlannedEdit.ofRole other · tier))
    PlannedEdit.method
  · intro b made
    obtain ⟨role, _, rfl⟩ := Option.map_eq_some_iff.mp made
    rfl
  · rw [MethodDecl.tierEdit?_forced, Option.map_none]

theorem agreesWithout_modifyMethod_forced :
    p.AgreesWithout id (p.modifyMethod id (·.forced value)) where
  findAll _ some := findAll_modifyMethod_forced some
  collect _ := collect_modifyMethod_forced
  planTier _ _ _ := planTier_modifyMethod_forced
  ownTally := by
    rw [class?_modifyMethod_self, Option.map_map]
    congr 1
    funext c
    -- Both classes differ from the old one in this method alone, and it adds to neither tally.
    apply foldl_modify_congr
    intro m t
    rw [FieldTally.addMethod_of_silent fun _ => MethodDecl.not_readsField_forced,
      FieldTally.addMethod_of_silent fun _ => MethodDecl.not_readsField_withoutBody]
  ownNear marker window := by
    rw [class?_modifyMethod_self, Option.map_map]
    congr 1
    funext c
    have near : (c.methods.modify id.index (·.forced value)).findSome?
        (fun m => ClassDecl.readNearString? marker window m.code) =
        (c.withoutBody id.index).methods.findSome?
          fun m => ClassDecl.readNearString? marker window m.code := by
      apply findSome?_modify_congr
      intro m
      rw [ClassDecl.readNearString?_of_silent fun _ => MethodDecl.not_readsField_forced,
        ClassDecl.readNearString?_of_silent fun _ => MethodDecl.not_readsField_withoutBody]
    simp only [Function.comp_apply, ClassDecl.fieldNearString, near]
  otherTally _ different := by rw [class?_modifyMethod_of_ne different]
  otherNear _ _ _ different := by rw [class?_modifyMethod_of_ne different]

end Program

/-- After a forced return everything is found that was found before, but in the one method. It may
show the evidence of a diagnostic literal, and still the tally of its class is the one that it
would have without its body. -/
theorem forceReturn_agreesWithout {package : Option String} {classes : List ClassDecl}
    {outcome : ForceOutcome} (accepted : Program.ofClasses package classes = .ok p)
    (answer : (forceReturn id value).run p = (.ok outcome, q)) : p.AgreesWithout id q := by
  have wellFormed := (Program.ofClasses_eq_ok_iff.mp accepted).2
  obtain ⟨_, _, _, _, rfl⟩ := (exists_run_forceReturn_iff wellFormed).mp ⟨outcome, answer⟩
  exact agreesWithout_modifyMethod_forced

/-- Of two methods that load the same string and read the same field, the first one is made to
return a diagnostic literal. The second one is found as before. -/
theorem forceReturn_agreesWithout_literal_three :
    let field : FieldRef := ⟨⟨"LA;"⟩, "tier", .int⟩
    let level (name : String) : MethodDecl := ⟨name, [], .int, 0, some ⟨2, 0,
      [.constString ⟨1⟩ "level", .constInt ⟨0⟩ 2, .staticField (.sget .word) ⟨0⟩ field, .ret ⟨0⟩]⟩⟩
    let p : Program := ⟨none, [⟨⟨"LA;"⟩, none, 0, [], [level "first", level "second"]⟩]⟩
    let fp : Fingerprint := ⟨"level", ["level"], none⟩
    Program.ofClasses p.package p.classes = .ok p ∧
      ∃ q, (forceReturn ⟨⟨0⟩, 0⟩ (.integer 3)).run p = (.ok .changed, q) ∧
        fp.findAll p = [⟨⟨⟨0⟩, 0⟩, ⟨0⟩, ⟨"LA;"⟩⟩, ⟨⟨⟨0⟩, 1⟩, ⟨0⟩, ⟨"LA;"⟩⟩] ∧
        fp.findAll q = [⟨⟨⟨0⟩, 1⟩, ⟨0⟩, ⟨"LA;"⟩⟩] ∧
        (p.class? ⟨0⟩).map FieldTally.ofClass = some ⟨[(field, 2)]⟩ ∧
        (q.class? ⟨0⟩).map FieldTally.ofClass = some ⟨[(field, 1)]⟩ := by
  intro field level p fp
  have accepted : Program.ofClasses p.package p.classes = .ok p := rfl
  obtain ⟨q, answer⟩ : ∃ q, (forceReturn ⟨⟨0⟩, 0⟩ (.integer 3)).run p = (.ok .changed, q) :=
    ⟨_, rfl⟩
  have agrees := forceReturn_agreesWithout accepted answer
  refine ⟨accepted, q, answer, rfl, ?_, by decide +zetaReduce, ?_⟩
  · rw [agrees.findAll fp (by decide)]
    rfl
  · rw [agrees.ownTally]
    decide +zetaReduce

end DexPatch
