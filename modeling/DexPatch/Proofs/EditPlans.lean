import DexPatch.Proofs.ForcedReturn

/-!
# Plans for a class

The three plans differ only in the roles that they give to methods. Each role is given to
methods alone that have code and return a value of the kind that the role calls for, so
every plan fits the program that it was made for.

## Main definitions

* `Program.planRoles` — the plan for the methods of a class that have some role
* `MethodDecl.tierEdit?`, `MethodDecl.delayEdit?` — the roles of two of the plans

## Main results

* `Program.mem_planRoles` — what a plan holds
* `Program.fits_planTier`, `Program.fits_planDelay`, `Program.fits_planDisable` — every plan fits
-/

namespace DexPatch

variable {p : Program} {owner : ClassId} {m : MethodDecl} {e : PlannedEdit} {role : Role}
  {role? : MethodDecl → Option Role} {tier : Int32} {f : FieldRef} {literals : List Int}

namespace MethodDecl

/-- The role of a method in the plan for the tier field. -/
def tierEdit? (f : FieldRef) (m : MethodDecl) : Option Role :=
  if m.ReadsField f then m.tierRole? else none

/-- The role of a method in the plan for the delays. -/
def delayEdit? (literals : List Int) (m : MethodDecl) : Option Role :=
  if m.ret = .int ∧ m.CarriesLiteral literals then some .serverDelay else none

theorem tierEdit?_eq_some_iff :
    m.tierEdit? f = some role ↔ m.ReadsField f ∧ m.tierRole? = some role := by
  simp [tierEdit?]

theorem delayEdit?_eq_some_iff :
    m.delayEdit? literals = some role ↔
      (m.ret = .int ∧ m.CarriesLiteral literals) ∧ role = .serverDelay := by
  simp [delayEdit?, eq_comm]

theorem isSome_body_of_readsField (reads : m.ReadsField f) : m.body.isSome := by
  obtain ⟨i, hi, _⟩ := reads
  exact isSome_body_of_mem_code hi

theorem isSome_body_of_carriesLiteral (carries : m.CarriesLiteral literals) : m.body.isSome := by
  obtain ⟨i, hi, _⟩ := carries
  exact isSome_body_of_mem_code hi

end MethodDecl

/-! ### Roles and kinds of values -/

/-- Evidence points to checks only, which return a boolean. -/
theorem Role.kind_forcedValue_of_ofEvidence? {evidence : Evidence}
    (shown : Role.ofEvidence? evidence = some role) :
    (role.forcedValue tier).kind = .boolean := by
  unfold ofEvidence? at shown
  split_ifs at shown <;> obtain rfl := Option.some.inj shown <;> rfl

theorem MethodDecl.kind_of_tierRole? (known : m.tierRole? = some role) :
    (role.forcedValue tier).kind = m.returnKind := by
  unfold tierRole? at known
  split at known
  · rename_i kind
    rw [kind]
    exact Role.kind_forcedValue_of_ofEvidence? known
  · rename_i kind
    split_ifs at known
    obtain rfl := Option.some.inj known
    exact kind.symm
  · contradiction

theorem MethodDecl.kind_of_disableRole? (known : m.disableRole? = some role) :
    (role.forcedValue tier).kind = m.returnKind := by
  unfold disableRole? at known
  split_ifs at known
  split at known
  · rename_i kind
    obtain rfl := Option.some.inj known
    exact kind.symm
  · rename_i kind
    obtain rfl := Option.some.inj known
    exact kind.symm
  · contradiction

theorem MethodDecl.isSome_body_of_disableRole? (known : m.disableRole? = some role) :
    m.body.isSome := by
  unfold disableRole? at known
  split_ifs at known with conditions
  exact conditions.1

namespace Program

/-! ### One definition for the three plans -/

/-- The edits for the methods of a class that have a role. -/
def planRoles (p : Program) (owner : ClassId) (role? : MethodDecl → Option Role) (tier : Int32) :
    List PlannedEdit :=
  (p.classMethods owner).filterMap fun (id, m) => (role? m).map fun role => .ofRole id role tier

theorem planTier_eq :
    p.planTier owner f tier = p.planRoles owner (MethodDecl.tierEdit? f) tier := by
  rw [planTier, planRoles]
  congr
  funext ⟨id, m⟩
  by_cases reads : m.ReadsField f <;> simp [MethodDecl.tierEdit?, reads]

theorem planDelay_eq :
    p.planDelay owner literals = p.planRoles owner (MethodDecl.delayEdit? literals) 0 := by
  rw [planDelay, planRoles]
  congr
  funext ⟨id, m⟩
  by_cases meant : m.ret = .int ∧ m.CarriesLiteral literals <;>
    simp [MethodDecl.delayEdit?, meant]

theorem planDisable_eq : p.planDisable owner = p.planRoles owner MethodDecl.disableRole? 0 := rfl

/-- A plan holds the edits of those methods of the class that have a role. -/
theorem mem_planRoles :
    e ∈ p.planRoles owner role? tier ↔
      ∃ m role, e.method.owner = owner ∧ p.method? e.method = some m ∧ role? m = some role ∧
        e = .ofRole e.method role tier := by
  simp only [planRoles, List.mem_filterMap, Option.map_eq_some_iff, Prod.exists, mem_classMethods]
  constructor
  · rintro ⟨id, m, ⟨here, found⟩, role, known, rfl⟩
    exact ⟨m, role, here, found, known, rfl⟩
  · rintro ⟨m, role, here, found, known, same⟩
    exact ⟨e.method, m, ⟨here, found⟩, role, known, same.symm⟩

/-- A plan goes through the methods of the class in order. -/
theorem map_method_planRoles_sublist :
    ((p.planRoles owner role? tier).map PlannedEdit.method).Sublist
      ((p.classMethods owner).map Prod.fst) := by
  refine map_filterMap_sublist ?_ (p.classMethods owner)
  rintro ⟨id, m⟩ e planned
  obtain ⟨role, _, rfl⟩ := Option.map_eq_some_iff.mp planned
  rfl

theorem distinct_planRoles : ((p.planRoles owner role? tier).map PlannedEdit.method).Nodup :=
  map_method_planRoles_sublist.nodup (nodup_classMethods owner)

theorem fits_planRoles
    (suits : ∀ m role, role? m = some role →
      (role.forcedValue tier).kind = m.returnKind ∧ m.body.isSome) :
    p.Fits (p.planRoles owner role? tier) := by
  refine ⟨distinct_planRoles, fun e member => ?_⟩
  obtain ⟨m, role, _, found, known, same⟩ := mem_planRoles.mp member
  obtain ⟨kind, body⟩ := suits m role known
  refine ⟨m, found, ?_, body⟩
  rw [same]
  exact kind

/-! ### Every plan fits -/

theorem fits_planTier : p.Fits (p.planTier owner f tier) := by
  rw [planTier_eq]
  refine fits_planRoles fun m role known => ?_
  obtain ⟨reads, known⟩ := MethodDecl.tierEdit?_eq_some_iff.mp known
  exact ⟨MethodDecl.kind_of_tierRole? known, MethodDecl.isSome_body_of_readsField reads⟩

theorem fits_planDelay : p.Fits (p.planDelay owner literals) := by
  rw [planDelay_eq]
  refine fits_planRoles fun m role known => ?_
  obtain ⟨⟨ret, carries⟩, rfl⟩ := MethodDecl.delayEdit?_eq_some_iff.mp known
  refine ⟨?_, MethodDecl.isSome_body_of_carriesLiteral carries⟩
  rw [MethodDecl.returnKind, ret]
  rfl

theorem fits_planDisable : p.Fits (p.planDisable owner) := by
  rw [planDisable_eq]
  exact fits_planRoles fun m role known =>
    ⟨MethodDecl.kind_of_disableRole? known, MethodDecl.isSome_body_of_disableRole? known⟩

end Program

end DexPatch
