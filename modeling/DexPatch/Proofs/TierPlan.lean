import DexPatch.Proofs.EditPlans
import DexPatch.Proofs.Signals
import DexPatch.Proofs.ZeroedReads

/-!
# The plan for the tier

A method of the user class is given a role if it reads the tier and tells what it is for. An `int`
says so by its type. A boolean has to show a signal, and of several the strongest decides: literal
three, then literal two, then a zero test, then literal one. What becomes of a method can therefore
be said by what occurs in its code, and shuffling the code or repeating parts of it changes nothing.

## Main definitions

* `MethodDecl.tierAnswer` — the answer that a boolean check of the tier is made to give

## Main results

* `MethodDecl.isSome_tierRole?_iff` — which methods have a role
* `MethodDecl.forcedValue_of_tierRole?` — which value they return because of it
* `MethodDecl.tierEdit?_congr` — the role goes by the return type and the set of instructions
* `Program.planTier_by_signals` — all of it for the plan of a class
-/

namespace DexPatch

variable {p : Program} {m n : MethodDecl} {f : FieldRef} {role : Role} {tier : Int32}
  {evidence : Evidence}

/-! ### Roles by evidence -/

namespace Role

/-- Any signal makes a check of a boolean method. -/
theorem isSome_ofEvidence?_iff : (ofEvidence? evidence).isSome ↔ ∃ s, evidence.shows s := by
  constructor
  · intro known
    unfold ofEvidence? at known
    split_ifs at known with three two zero one
    · exact ⟨.literal3, three⟩
    · exact ⟨.literal2, two⟩
    · exact ⟨.zeroTest, zero⟩
    · exact ⟨.literal1, one⟩
    · contradiction
  · rintro ⟨s, shown⟩
    unfold ofEvidence?
    -- A stronger signal gives another role, but never none.
    split_ifs with three two zero one <;> try rfl
    cases s <;> contradiction

/-- The answer of a check, by its strongest signal. -/
theorem forcedValue_of_ofEvidence? (known : ofEvidence? evidence = some role) :
    role.forcedValue tier = .boolean
      (if evidence.shows .literal3 then false
      else if evidence.shows .literal2 then true
      else if evidence.shows .zeroTest then false
      else true) := by
  unfold ofEvidence? at known
  split_ifs at known with three two zero one <;> obtain rfl := Option.some.inj known
  · simp [Evidence.shows, forcedValue, three]
  · simp [Evidence.shows, forcedValue, three, two]
  · simp [Evidence.shows, forcedValue, three, two, zero]
  · simp [Evidence.shows, forcedValue, three, two, zero]

end Role

/-! ### Roles by signals -/

theorem ReturnKind.ofType_eq_boolean_iff {t : TypeDesc} : ofType t = .boolean ↔ t = .boolean := by
  constructor
  · intro kind
    unfold ofType at kind
    split_ifs at kind with isVoid isBoolean
    exact isBoolean
  · rintro rfl
    rfl

namespace MethodDecl

/-- What a check of the tier is made to answer: that this is not the highest tier, but one that
includes the others, and not the free one. -/
def tierAnswer (m : MethodDecl) : Bool :=
  if m.Shows .literal3 then false
  else if m.Shows .literal2 then true
  else if m.Shows .zeroTest then false
  else true

theorem tierRole?_of_int (ret : m.ret = .int) : m.tierRole? = some .tierAccessor := by
  have kind : m.returnKind = .integer := by rw [returnKind, ret]; rfl
  simp only [tierRole?, kind, ret, if_true]

theorem tierRole?_of_boolean (ret : m.ret = .boolean) :
    m.tierRole? = Role.ofEvidence? (.ofCode m.code) := by
  have kind : m.returnKind = .boolean := by rw [returnKind, ret]; rfl
  simp only [tierRole?, kind]

/-- No other type gives a method a role, not even a narrower integer. -/
theorem ret_of_tierRole? (known : m.tierRole? = some role) : m.ret = .int ∨ m.ret = .boolean := by
  unfold tierRole? at known
  split at known
  · rename_i kind
    exact .inr (ReturnKind.ofType_eq_boolean_iff.mp kind)
  · split_ifs at known with int
    exact .inl int
  · contradiction

/-- A method has a role if it returns an `int`, or a boolean and shows some signal. -/
theorem isSome_tierRole?_iff (wellFormed : ∀ i ∈ m.code, i.IsWellFormed) :
    m.tierRole?.isSome ↔ m.ret = .int ∨ m.ret = .boolean ∧ ∃ s, m.Shows s := by
  have check (ret : m.ret = .boolean) : m.tierRole?.isSome ↔ ∃ s, m.Shows s := by
    rw [tierRole?_of_boolean ret, Role.isSome_ofEvidence?_iff]
    exact exists_congr fun s => shows_ofCode_iff wellFormed
  constructor
  · intro known
    obtain ⟨role, known'⟩ := Option.isSome_iff_exists.mp known
    rcases ret_of_tierRole? known' with int | boolean
    · exact .inl int
    · exact .inr ⟨boolean, (check boolean).mp known⟩
  · rintro (int | ⟨boolean, shown⟩)
    · rw [tierRole?_of_int int]
      rfl
    · exact (check boolean).mpr shown

/-- The value that goes with the role of a method, by what the method shows. -/
theorem forcedValue_of_tierRole? (wellFormed : ∀ i ∈ m.code, i.IsWellFormed)
    (known : m.tierRole? = some role) :
    (m.ret = .int → role.forcedValue tier = .integer tier) ∧
      (m.ret = .boolean → role.forcedValue tier = .boolean m.tierAnswer) := by
  constructor
  · intro int
    rw [tierRole?_of_int int] at known
    obtain rfl := Option.some.inj known
    rfl
  · intro boolean
    rw [tierRole?_of_boolean boolean] at known
    rw [Role.forcedValue_of_ofEvidence? known, tierAnswer]
    simp only [shows_ofCode_iff wellFormed]

/-- Methods that return the same and are made of the same instructions have the same role. -/
theorem tierEdit?_congr (ret : n.ret = m.ret) (same : ∀ i, i ∈ n.code ↔ i ∈ m.code) :
    n.tierEdit? f = m.tierEdit? f := by
  have reads : n.ReadsField f ↔ m.ReadsField f := by
    simp only [ReadsField, same]
  have role : n.tierRole? = m.tierRole? := by
    simp only [tierRole?, returnKind, ret, Evidence.ofCode_congr same]
  simp only [tierEdit?, reads, role]

end MethodDecl

/-! ### The plan -/

namespace Program

/-- An edit is planned for the methods of the class that read the tier and either return an `int`,
or return a boolean and show a signal. The first return the elevated tier afterwards, and the others
answer by their strongest signal. Each method is planned for once, and methods that return the same
and are made of the same instructions are planned for alike, wherever they stand. -/
theorem planTier_by_signals {package : Option String} {classes : List ClassDecl}
    (accepted : Program.ofClasses package classes = .ok p) (owner : ClassId) (f : FieldRef)
    (tier : Int32) :
    (∀ id, id ∈ (p.planTier owner f tier).map PlannedEdit.method ↔
      id.owner = owner ∧ ∃ m, p.method? id = some m ∧ m.ReadsField f ∧
        (m.ret = .int ∨ m.ret = .boolean ∧ ∃ s, m.Shows s)) ∧
      (∀ e ∈ p.planTier owner f tier, ∀ m, p.method? e.method = some m →
        (m.ret = .int → e.value = .integer tier) ∧
          (m.ret = .boolean → e.value = .boolean m.tierAnswer)) ∧
      ((p.planTier owner f tier).map PlannedEdit.method).Nodup ∧
      ∀ (q : Program) (id other : MethodId) (m n : MethodDecl), p.method? id = some m →
        q.method? other = some n → n.ret = m.ret → (∀ i, i ∈ n.code ↔ i ∈ m.code) →
        ∀ role value, ⟨other, role, value⟩ ∈ q.planTier other.owner f tier ↔
          ⟨id, role, value⟩ ∈ p.planTier id.owner f tier := by
  have wellFormed := (Program.ofClasses_eq_ok_iff.mp accepted).2
  simp only [planTier_eq]
  refine ⟨fun id => ?_, fun e member m found => ?_, distinct_planRoles, ?_⟩
  · constructor
    · intro planned
      obtain ⟨e, member, rfl⟩ := List.mem_map.mp planned
      obtain ⟨m, role, inside, found, known, _⟩ := mem_planRoles.mp member
      obtain ⟨reads, known⟩ := MethodDecl.tierEdit?_eq_some_iff.mp known
      have has : m.tierRole?.isSome := known ▸ rfl
      exact ⟨inside, m, found, reads,
        (MethodDecl.isSome_tierRole?_iff fun i => wellFormed.instruction found).mp has⟩
    · rintro ⟨inside, m, found, reads, meant⟩
      obtain ⟨role, known⟩ := Option.isSome_iff_exists.mp
        ((MethodDecl.isSome_tierRole?_iff fun i => wellFormed.instruction found).mpr meant)
      have edit := MethodDecl.tierEdit?_eq_some_iff.mpr ⟨reads, known⟩
      exact List.mem_map_of_mem (a := .ofRole id role tier)
        (mem_planRoles.mpr ⟨m, role, inside, found, edit, rfl⟩)
  · obtain ⟨m', role, _, found', known, same⟩ := mem_planRoles.mp member
    obtain rfl := Option.some.inj (found'.symm.trans found)
    rw [same]
    exact MethodDecl.forcedValue_of_tierRole? (fun i => wellFormed.instruction found)
      (MethodDecl.tierEdit?_eq_some_iff.mp known).2
  · intro q id other m n found found' ret same role value
    simp only [mem_planRoles, found, found', Option.some.injEq, exists_and_left, exists_eq_left',
      MethodDecl.tierEdit?_congr ret same, PlannedEdit.ofRole, PlannedEdit.mk.injEq, true_and]

/-- A check that compares the tier with two and with zero. The same instructions in another order,
one of them twice, are planned for alike. -/
theorem planTier_by_signals_shuffled :
    let tier : FieldRef := ⟨⟨"LUser;"⟩, "tier", .int⟩
    let read : Instruction := .staticField (.sget .word) ⟨0⟩ tier
    let zero : Instruction := .branchZero .ifEqz ⟨0⟩ ⟨0⟩
    let check (code : List Instruction) : MethodDecl :=
      ⟨"isPaid", [], .boolean, 0, some ⟨2, 0, code⟩⟩
    let program (code : List Instruction) : Program :=
      ⟨none, [⟨⟨"LUser;"⟩, none, 0, [], [check code]⟩]⟩
    let p := program [read, zero, .constInt ⟨1⟩ 2, .ret ⟨0⟩]
    let q := program [.constInt ⟨1⟩ 2, read, .ret ⟨0⟩, read, zero]
    let edit : PlannedEdit := ⟨⟨⟨0⟩, 0⟩, .elevatedInclusion, .boolean true⟩
    Program.ofClasses p.package p.classes = .ok p ∧
      ⟨⟨0⟩, 0⟩ ∈ (p.planTier ⟨0⟩ tier 2).map PlannedEdit.method ∧
      edit ∈ p.planTier ⟨0⟩ tier 2 ∧ edit ∈ q.planTier ⟨0⟩ tier 2 := by
  intro tier read zero check program p q edit
  have accepted : Program.ofClasses p.package p.classes = .ok p := rfl
  have same (i : Instruction) : i ∈ [.constInt ⟨1⟩ 2, read, .ret ⟨0⟩, read, zero] ↔
      i ∈ [read, zero, .constInt ⟨1⟩ 2, .ret ⟨0⟩] := by
    simp only [List.mem_cons, List.not_mem_nil, or_false]
    tauto
  obtain ⟨planned, _, _, alike⟩ := planTier_by_signals accepted ⟨0⟩ tier 2
  have member : edit ∈ p.planTier ⟨0⟩ tier 2 := by decide +zetaReduce
  refine ⟨accepted, ?_, member, ?_⟩
  · exact (planned _).mpr ⟨rfl, _, rfl, by decide +zetaReduce, .inr ⟨rfl, .zeroTest,
      by decide +zetaReduce⟩⟩
  · exact (alike q ⟨⟨0⟩, 0⟩ ⟨⟨0⟩, 0⟩ _ _ rfl rfl rfl same _ _).mpr member

end Program

end DexPatch
