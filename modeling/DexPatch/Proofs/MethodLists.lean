import DexPatch.Proofs.EditPlans
import DexPatch.Proofs.ZeroedReads

/-!
# Lists made of the methods

Fingerprints, plans of forced returns and plans of substitutions all go through the methods in
declaration order and make at most one thing of each. So it is enough to know what a change of the
program does to the thing that is made of one method: if that is the same as before, so is the
list, and if some of the things are gone, the list is as before without these, in the old order.

## Main definitions

* `Program.mapMethodsIdx` — every method replaced, in a way that depends on its position
* `Fingerprint.found?` — what a fingerprint makes of one method

## Main results

* `Program.methods_mapMethodsIdx`, `Program.classMethods_mapMethodsIdx` — the methods afterwards
* `Program.mapMethods_eq_mapMethodsIdx`, `Program.modifyMethod_eq_mapMethodsIdx` — one change to
  all methods, and a change to one of them
* `Program.findAll_mapMethodsIdx`, `Program.collect_mapMethodsIdx`,
  `Program.planRoles_mapMethodsIdx` — the three lists, from what becomes of one method
* `Program.planRoles_mapMethods` — a plan in a program whose methods keep their roles
-/

namespace DexPatch

/-- What is made of the changed elements of a list is what was made of them before, as far as it
is kept, in the same order. -/
theorem filterMap_map_eq_filter {α β : Type} {select select' : α → Option β} {change : α → α}
    {keep : β → Bool} {list : List α}
    (each : ∀ a ∈ list, select' (change a) = (select a).filter keep) :
    (list.map change).filterMap select' = (list.filterMap select).filter keep := by
  rw [List.filterMap_map, List.filter_filterMap]
  exact List.filterMap_congr each

/-- A thing stays if it passes the filter. -/
theorem filter_eq_self {α : Type} {thing : Option α} {keep : α → Bool}
    (kept : ∀ a ∈ thing, keep a) : thing.filter keep = thing := by
  cases thing with
  | none => rfl
  | some a => rw [Option.filter_some, if_pos (kept a rfl)]

theorem modify_eq_mapIdx {α : Type} {list : List α} {n : Nat} {f : α → α} :
    list.modify n f = list.mapIdx fun k a => if k = n then f a else a := by
  apply List.ext_getElem?
  intro k
  rw [List.getElem?_modify, List.getElem?_mapIdx]
  cases list[k]? with
  | none => rfl
  | some a => simp [eq_comm]

/-- What a fingerprint makes of one method. -/
def Fingerprint.found? (f : Fingerprint) (p : Program) :
    MethodId × MethodDecl → Option FingerprintMatch
  | (id, m) => if f.Matches m then (p.class? id.owner).map fun c => ⟨id, id.owner, c.type⟩ else none

/-- What a substitution plan makes of one method. -/
def SubstitutionPlan.entry? (target : FieldRef) :
    MethodId × MethodDecl → Option (MethodId × List Site)
  | (id, m) =>
    match m.readSites target with
    | [] => none
    | sites => some (id, sites)

namespace Program

variable {p : Program} {h : MethodId → MethodDecl → MethodDecl} {f : MethodDecl → MethodDecl}
  {id : MethodId} {m : MethodDecl} {c : ClassId}

/-- The program with every method replaced by what `h` makes of it at its position. -/
def mapMethodsIdx (h : MethodId → MethodDecl → MethodDecl) (p : Program) : Program :=
  { p with
    classes := p.classes.mapIdx fun k d =>
      { d with methods := d.methods.mapIdx fun n => h ⟨⟨k⟩, n⟩ } }

theorem class?_mapMethodsIdx (c : ClassId) :
    (p.mapMethodsIdx h).class? c =
      (p.class? c).map fun d => { d with methods := d.methods.mapIdx fun n => h ⟨c, n⟩ } := by
  simp [class?, mapMethodsIdx]

theorem classMethods_mapMethodsIdx (c : ClassId) :
    (p.mapMethodsIdx h).classMethods c =
      (p.classMethods c).map fun e => (e.1, h e.1 e.2) := by
  rw [classMethods, classMethods, class?_mapMethodsIdx]
  cases p.class? c with
  | none => rfl
  | some d =>
    apply List.ext_getElem?
    intro n
    simp [Function.comp_def]

/-- The methods keep their order, and each is replaced. -/
theorem methods_mapMethodsIdx :
    (p.mapMethodsIdx h).methods = p.methods.map fun e => (e.1, h e.1 e.2) := by
  have sameIds : (p.mapMethodsIdx h).classIds = p.classIds := by
    simp [classIds, mapMethodsIdx]
  rw [methods, methods, sameIds, List.map_flatMap]
  apply List.flatMap_congr
  intro c _
  exact classMethods_mapMethodsIdx c

theorem method?_mapMethodsIdx (id : MethodId) :
    (p.mapMethodsIdx h).method? id = (p.method? id).map (h id) := by
  rw [method?_eq, method?_eq, class?_mapMethodsIdx]
  cases p.class? id.owner with
  | none => rfl
  | some d => simp

theorem outline_mapMethodsIdx (keeps : ∀ id m, (h id m).outline = m.outline) :
    (p.mapMethodsIdx h).outline = p.outline := by
  simp only [outline, mapMethods, mapMethodsIdx, Program.mk.injEq, true_and]
  ext1 k
  rw [List.getElem?_map, List.getElem?_mapIdx, List.getElem?_map, Option.map_map]
  congr 1
  funext d
  have inside : (d.methods.mapIdx fun n => h ⟨⟨k⟩, n⟩).map MethodDecl.outline =
      d.methods.map MethodDecl.outline := by
    ext1 n
    rw [List.getElem?_map, List.getElem?_mapIdx, List.getElem?_map, Option.map_map]
    congr 1
    funext m
    exact keeps _ m
  simp only [Function.comp_apply, inside]

/-! ### Two ways to change methods -/

theorem mapMethods_eq_mapMethodsIdx : p.mapMethods f = p.mapMethodsIdx fun _ => f := by
  have inEach (d : ClassDecl) : d.methods.map f = d.methods.mapIdx fun _ => f := by
    apply List.ext_getElem?
    intro n
    simp
  simp only [mapMethods, mapMethodsIdx, inEach, Program.mk.injEq, true_and]
  apply List.ext_getElem?
  intro k
  simp

/-- A change to one method changes each method that is this one. -/
theorem modifyMethod_eq_mapMethodsIdx :
    p.modifyMethod id f = p.mapMethodsIdx fun other m => if other = id then f m else m := by
  obtain ⟨⟨k⟩, n⟩ := id
  rw [modifyMethod, mapMethodsIdx, modify_eq_mapIdx]
  congr 2
  funext k' d
  by_cases here : k' = k
  · subst here
    simp [modify_eq_mapIdx]
  · have same : d.methods.mapIdx (fun _ m => m) = d.methods := by
      apply List.ext_getElem?
      intro n'
      simp
    simp [here, same]

/-! ### Three lists -/

theorem findAll_eq (f : Fingerprint) : f.findAll p = p.methods.filterMap (f.found? p) := by
  rw [Fingerprint.findAll, List.filterMap_filter]
  apply List.filterMap_congr
  rintro ⟨id, m⟩ _
  by_cases fits : f.Matches m <;> simp [Fingerprint.found?, fits]

/-- The matches afterwards, from what the fingerprint makes of each method. -/
theorem findAll_mapMethodsIdx {f : Fingerprint} (keep : FingerprintMatch → Bool)
    (each : ∀ id m, p.method? id = some m →
      f.found? p (id, h id m) = (f.found? p (id, m)).filter keep) :
    f.findAll (p.mapMethodsIdx h) = (f.findAll p).filter keep := by
  rw [findAll_eq, findAll_eq, methods_mapMethodsIdx]
  apply filterMap_map_eq_filter
  rintro ⟨id, m⟩ member
  -- A match names the type of the class, which stays what it was.
  have sameType : f.found? (p.mapMethodsIdx h) (id, h id m) = f.found? p (id, h id m) := by
    simp [Fingerprint.found?, class?_mapMethodsIdx, Function.comp_def]
  rw [sameType]
  exact each id m (mem_methods.mp member)

/-- The collected reads afterwards, from those of each method. -/
theorem collect_mapMethodsIdx {g : FieldRef} (keep : MethodId × List Site → Bool)
    (each : ∀ id m, p.method? id = some m → SubstitutionPlan.entry? g (id, h id m) =
      (SubstitutionPlan.entry? g (id, m)).filter keep) :
    (SubstitutionPlan.collect (p.mapMethodsIdx h) g).entries =
      (SubstitutionPlan.collect p g).entries.filter keep := by
  change (p.mapMethodsIdx h).methods.filterMap (SubstitutionPlan.entry? g) =
    (p.methods.filterMap (SubstitutionPlan.entry? g)).filter keep
  rw [methods_mapMethodsIdx]
  apply filterMap_map_eq_filter
  rintro ⟨id, m⟩ member
  exact each id m (mem_methods.mp member)

/-- The planned edits afterwards, from the role of each method. -/
theorem planRoles_mapMethodsIdx {role? : MethodDecl → Option Role} {tier : Int32}
    (keep : PlannedEdit → Bool)
    (each : ∀ id m, id.owner = c → p.method? id = some m →
      (role? (h id m)).map (PlannedEdit.ofRole id · tier) =
        ((role? m).map (PlannedEdit.ofRole id · tier)).filter keep) :
    (p.mapMethodsIdx h).planRoles c role? tier = (p.planRoles c role? tier).filter keep := by
  rw [planRoles, planRoles, classMethods_mapMethodsIdx]
  apply filterMap_map_eq_filter
  rintro ⟨id, m⟩ member
  obtain ⟨inside, found⟩ := mem_classMethods.mp member
  exact each id m inside found

/-- A plan stays the same if a change to all methods leaves them their roles. -/
theorem planRoles_mapMethods {role? : MethodDecl → Option Role} {tier : Int32}
    (kept : ∀ m, role? (f m) = role? m) :
    (p.mapMethods f).planRoles c role? tier = p.planRoles c role? tier := by
  rw [mapMethods_eq_mapMethodsIdx, planRoles_mapMethodsIdx fun _ => true]
  · exact List.filter_true _
  · intro id m _ _
    rw [kept, filter_eq_self fun _ _ => rfl]

end Program

end DexPatch
