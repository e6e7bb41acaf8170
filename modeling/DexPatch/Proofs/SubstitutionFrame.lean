import DexPatch.Proofs.MethodLists
import DexPatch.Proofs.Settling
import DexPatch.Proofs.Substitution

/-!
# What a substitution leaves alone

The loads of zero that take the place of reads carry a literal, and several searches go by
literals. Still none of them sees a difference: zero is no diagnostic literal, a load of zero is
no zero test, and a read never carried a literal or a string that could be missed now. What is
gone are the reads of one field, and with them its entry in the tally of its class. The order in
which the other fields first came stays the same, and so do their totals.

## Main definitions

* `FieldTally.erase` — a tally without the entry of a field
* `MethodDecl.AgreesExcept`, `Program.AgreesExcept` — everything that does not look for one field
  finds the same

## Main results

* `MethodDecl.agreesExcept_zeroReads` — a method with its reads zeroed
* `FieldTally.ofClass_zeroReads` — the tally afterwards has lost one entry
* `SubstitutionPlan.apply_collect_agreesExcept` — a substitution shows in nothing but its target
-/

namespace DexPatch

open Program

variable {p q : Program} {m : MethodDecl} {f g : FieldRef} {tier : Int32} {literals : List Int}

/-! ### One instruction -/

namespace Instruction

variable {i : Instruction}

/-- Reads of other fields stay. -/
theorem reads_zeroRead_iff (other : g ≠ f) : (i.zeroRead f).Reads g ↔ i.Reads g := by
  constructor
  · exact reads_of_zeroRead
  · intro reads
    have apart : ¬ i.Reads f := by
      intro again
      exact other (Option.some.inj (reads.symm.trans again))
    rwa [zeroRead_of_not_reads apart]

/-- The field read is the one from before, unless that was `f`. -/
theorem fieldRead?_zeroRead (wellFormed : i.IsWellFormed) :
    (i.zeroRead f).fieldRead? = i.fieldRead?.filter (· ≠ f) := by
  by_cases reads : i.Reads f
  · obtain ⟨d, dest, _⟩ := reads.exists_dest wellFormed
    have field : i.fieldRead? = some f := reads
    rw [zeroRead_of_reads reads dest, constZero, fieldRead?_constInt, field]
    simp [Option.filter]
  · rw [zeroRead_of_not_reads reads]
    cases field : i.fieldRead? with
    | none => rfl
    | some g =>
      have other : g ≠ f := by
        rintro rfl
        exact reads field
      simp [Option.filter, other]

/-- Neither a read nor a load of zero loads a string. -/
theorem loadedString?_zeroRead : (i.zeroRead f).loadedString? = i.loadedString? := by
  rcases zeroRead_cases f i with same | ⟨d, reads, _, load⟩
  · rw [same]
  · rw [load, reads.loadedString?_eq_none, constZero, loadedString?_constInt]

/-- The only literal that can be new is zero. -/
theorem literal?_zeroRead_of_ne_zero {value : Int} (other : value ≠ 0) :
    (i.zeroRead f).literal? = some value ↔ i.literal? = some value := by
  rcases zeroRead_cases f i with same | ⟨d, reads, _, load⟩
  · rw [same]
  · -- A read carries a field and so no literal.
    have before : i.literal? = none := by rw [literal?, (reads_iff.mp reads).2]
    have after : (constZero d).literal? = some 0 := rfl
    rw [load, before, after]
    simp [other.symm]

theorem readSite?_zeroRead (other : g ≠ f) (k : Nat) :
    readSite? g (i.zeroRead f, k) = readSite? g (i, k) := by
  by_cases reads : i.Reads f
  · -- Neither `i` nor the load in its place reads `g`, whatever they write.
    have before : ¬ i.Reads g := by
      intro again
      exact other (Option.some.inj (again.symm.trans reads))
    have after : ¬ (i.zeroRead f).Reads g := mt (reads_zeroRead_iff other).mp before
    rw [readSite?, readSite?, if_neg before, if_neg after]
  · rw [zeroRead_of_not_reads reads]

end Instruction

/-! ### One method -/

/-- Everything that does not look for the field `f` finds the same in both methods. -/
structure MethodDecl.AgreesExcept (f : FieldRef) (m m' : MethodDecl) : Prop where
  evidence : Evidence.ofCode m'.code = Evidence.ofCode m.code
  pool : ConstantPool.ofMethod m' = ConstantPool.ofMethod m
  reads : ∀ g, g ≠ f → (m'.ReadsField g ↔ m.ReadsField g)

namespace MethodDecl

theorem ofMethod_zeroReads : ConstantPool.ofMethod (m.zeroReads f) = ConstantPool.ofMethod m := by
  have same : Instruction.loadedString? ∘ Instruction.zeroRead f = Instruction.loadedString? := by
    funext i
    exact Instruction.loadedString?_zeroRead
  rw [ConstantPool.ofMethod, ConstantPool.ofMethod, code_zeroReads, List.filterMap_map, same]

theorem readsField_zeroReads_iff (other : g ≠ f) :
    (m.zeroReads f).ReadsField g ↔ m.ReadsField g := by
  rw [ReadsField, ReadsField, code_zeroReads]
  simp [Instruction.reads_zeroRead_iff other]

theorem agreesExcept_zeroReads : m.AgreesExcept f (m.zeroReads f) where
  evidence := ofCode_zeroReads
  pool := ofMethod_zeroReads
  reads _ other := readsField_zeroReads_iff other

theorem matches_zeroReads {fp : Fingerprint} : fp.Matches (m.zeroReads f) ↔ fp.Matches m := by
  rw [Fingerprint.Matches, Fingerprint.Matches, ofMethod_zeroReads]
  exact Iff.rfl

theorem readSites_zeroReads (other : g ≠ f) : (m.zeroReads f).readSites g = m.readSites g := by
  rw [readSites_eq, readSites_eq, code_zeroReads, List.zipIdx_map, List.filterMap_map]
  apply List.filterMap_congr
  rintro ⟨i, k⟩ _
  exact Instruction.readSite?_zeroRead other k

theorem tierEdit?_zeroReads_of_ne (other : g ≠ f) :
    (m.zeroReads f).tierEdit? g = m.tierEdit? g := by
  simp only [tierEdit?, readsField_zeroReads_iff other, tierRole?_zeroReads]

/-- Only the literal zero could make a delay of a method. -/
theorem delayEdit?_zeroReads_eq (zero : 0 ∉ literals) :
    (m.zeroReads f).delayEdit? literals = m.delayEdit? literals := by
  have carries : (m.zeroReads f).CarriesLiteral literals ↔ m.CarriesLiteral literals := by
    have each (i : Instruction) : (∃ v ∈ (i.zeroRead f).literal?, v ∈ literals) ↔
        ∃ v ∈ i.literal?, v ∈ literals := by
      apply exists_congr
      intro v
      apply and_congr_left
      intro listed
      exact Instruction.literal?_zeroRead_of_ne_zero fun same => zero (same ▸ listed)
    rw [CarriesLiteral, CarriesLiteral, code_zeroReads]
    simp only [List.mem_map, exists_exists_and_eq_and, each]
  simp only [delayEdit?, carries]
  rfl

/-- The candidate fields that are read, without `f`. -/
theorem candidateReads_zeroReads (owner : TypeDesc)
    (wellFormed : ∀ i ∈ m.code, i.IsWellFormed) :
    FieldTally.candidateReads owner (m.zeroReads f) =
      (FieldTally.candidateReads owner m).filter (· ≠ f) := by
  have reads : (m.zeroReads f).code.filterMap Instruction.fieldRead? =
      (m.code.filterMap Instruction.fieldRead?).filter (· ≠ f) := by
    rw [code_zeroReads]
    apply filterMap_map_eq_filter
    intro i hi
    exact Instruction.fieldRead?_zeroRead (wellFormed i hi)
  -- Whether a field is a candidate and whether it is `f` are asked in the other order.
  rw [FieldTally.candidateReads, FieldTally.candidateReads, reads, List.filter_comm]

end MethodDecl

/-! ### Tallies -/

namespace FieldTally

variable {t : FieldTally} {score : Nat} {owner : TypeDesc}

/-- The tally without the entry of `f`. -/
def erase (t : FieldTally) (f : FieldRef) : FieldTally := ⟨t.entries.filter (·.1 ≠ f)⟩

/-- What is added to `f` goes with its entry; the entries of other fields keep their places. -/
theorem filter_addEntry (entries : List (FieldRef × Nat)) :
    (addEntry g score entries).filter (·.1 ≠ f) =
      if g = f then entries.filter (·.1 ≠ f)
      else addEntry g score (entries.filter (·.1 ≠ f)) := by
  induction entries with
  | nil => by_cases same : g = f <;> simp [addEntry, same]
  | cons entry rest ih =>
    obtain ⟨k, total⟩ := entry
    rw [addEntry]
    by_cases here : k = g
    · subst here
      by_cases same : k = f <;> simp [addEntry, same]
    · -- The score goes further down, past an entry that stays or one that goes.
      rw [if_neg here]
      by_cases erased : k = f
      · rw [List.filter_cons_of_neg (by simpa using erased), ih,
          List.filter_cons_of_neg (by simpa using erased)]
      · rw [List.filter_cons_of_pos (by simpa using erased), ih,
          List.filter_cons_of_pos (by simpa using erased), addEntry, if_neg here]
        split <;> rfl

theorem erase_add : (t.add g score).erase f =
    if g = f then t.erase f else (t.erase f).add g score := by
  rw [erase, add, filter_addEntry]
  split <;> rfl

/-- Adding up without `f` is adding up and erasing `f` afterwards. -/
theorem foldl_add_erase (list : List FieldRef) :
    (list.filter (· ≠ f)).foldl (fun t g => t.add g score) (t.erase f) =
      (list.foldl (fun t g => t.add g score) t).erase f := by
  induction list generalizing t with
  | nil => rfl
  | cons g rest ih =>
    rw [List.foldl_cons, ← ih, erase_add]
    by_cases same : g = f
    · rw [if_pos same, List.filter_cons_of_neg (by simpa using same)]
    · rw [if_neg same, List.filter_cons_of_pos (by simpa using same), List.foldl_cons]

theorem addMethod_zeroReads (wellFormed : ∀ i ∈ m.code, i.IsWellFormed) :
    addMethod owner (t.erase f) (m.zeroReads f) = (addMethod owner t m).erase f := by
  simp only [addMethod, MethodDecl.ofCode_zeroReads,
    MethodDecl.candidateReads_zeroReads owner wellFormed, foldl_add_erase]
  split <;> rfl

/-- The tally of a class whose reads of `f` are zeroed has lost the entry of `f`. -/
theorem ofClass_zeroReads {c : ClassDecl}
    (wellFormed : ∀ m ∈ c.methods, ∀ i ∈ m.code, i.IsWellFormed) :
    ofClass { c with methods := c.methods.map (MethodDecl.zeroReads f) } =
      (ofClass c).erase f := by
  -- The induction carries along what was tallied before, with and without the entry of `f`.
  have fold : ∀ (methods : List MethodDecl) (t : FieldTally),
      (∀ m ∈ methods, ∀ i ∈ m.code, i.IsWellFormed) →
      (methods.map (MethodDecl.zeroReads f)).foldl (addMethod c.type) (t.erase f) =
        (methods.foldl (addMethod c.type) t).erase f := by
    intro methods
    induction methods with
    | nil =>
      intro t _
      rfl
    | cons m rest ih =>
      intro t wellFormed
      obtain ⟨first, others⟩ := List.forall_mem_cons.mp wellFormed
      rw [List.map_cons, List.foldl_cons, List.foldl_cons, addMethod_zeroReads first, ih _ others]
  exact fold c.methods empty wellFormed

end FieldTally

/-! ### Whole programs -/

/-- Everything that does not look for the field `f` finds the same in both programs. In a tally
the entry of `f` is missing afterwards. -/
structure Program.AgreesExcept (f : FieldRef) (p q : Program) : Prop where
  outline : q.outline = p.outline
  methods : ∀ id m, p.method? id = some m → ∃ m', q.method? id = some m' ∧ m.AgreesExcept f m'
  findAll : ∀ fp : Fingerprint, fp.findAll q = fp.findAll p
  tally : ∀ c, (q.class? c).map FieldTally.ofClass =
    (p.class? c).map fun d => (FieldTally.ofClass d).erase f
  collect : ∀ g, g ≠ f → SubstitutionPlan.collect q g = SubstitutionPlan.collect p g
  planTier : ∀ c g tier, g ≠ f → q.planTier c g tier = p.planTier c g tier
  planDisable : ∀ c, q.planDisable c = p.planDisable c
  planDelay : ∀ c literals, 0 ∉ literals → q.planDelay c literals = p.planDelay c literals

namespace Program

variable {c : ClassId}

theorem zeroReads_eq_mapMethodsIdx :
    p.zeroReads f = p.mapMethodsIdx fun _ => MethodDecl.zeroReads f :=
  mapMethods_eq_mapMethodsIdx

theorem findAll_zeroReads (fp : Fingerprint) : fp.findAll (p.zeroReads f) = fp.findAll p := by
  rw [zeroReads_eq_mapMethodsIdx, findAll_mapMethodsIdx fun _ => true]
  · exact List.filter_true _
  · intro id m _
    rw [filter_eq_self fun _ _ => rfl]
    simp only [Fingerprint.found?, MethodDecl.matches_zeroReads]

theorem collect_zeroReads (other : g ≠ f) :
    SubstitutionPlan.collect (p.zeroReads f) g = SubstitutionPlan.collect p g := by
  rw [SubstitutionPlan.mk.injEq]
  refine ⟨rfl, ?_⟩
  rw [zeroReads_eq_mapMethodsIdx, collect_mapMethodsIdx fun _ => true]
  · exact List.filter_true _
  · intro id m _
    rw [filter_eq_self fun _ _ => rfl]
    simp only [SubstitutionPlan.entry?, MethodDecl.readSites_zeroReads other]

/-- The tally of each class has lost the entry of the field. -/
theorem IsWellFormed.tally_zeroReads (wellFormed : p.IsWellFormed) (c : ClassId) :
    ((p.zeroReads f).class? c).map FieldTally.ofClass =
      (p.class? c).map fun d => (FieldTally.ofClass d).erase f := by
  rw [zeroReads, class?_mapMethods]
  cases found : p.class? c with
  | none => rfl
  | some d =>
    have inClass := wellFormed.instruction_of_mem (List.mem_of_getElem? found)
    rw [Option.map_some, Option.map_some, Option.map_some, FieldTally.ofClass_zeroReads inClass]

theorem IsWellFormed.agreesExcept_zeroReads (wellFormed : p.IsWellFormed) :
    p.AgreesExcept f (p.zeroReads f) where
  outline := outline_zeroReads
  methods id m found := by
    refine ⟨m.zeroReads f, ?_, MethodDecl.agreesExcept_zeroReads⟩
    rw [method?_zeroReads, found, Option.map_some]
  findAll := findAll_zeroReads
  tally := wellFormed.tally_zeroReads
  collect _ other := collect_zeroReads other
  planTier c g tier other := by
    rw [planTier_eq, planTier_eq]
    exact planRoles_mapMethods fun _ => MethodDecl.tierEdit?_zeroReads_of_ne other
  planDisable c := planRoles_mapMethods fun _ =>
    MethodDecl.disableRole?_eq_of_outline_eq MethodDecl.outline_zeroReads
  planDelay c literals zero := by
    rw [planDelay_eq, planDelay_eq]
    exact planRoles_mapMethods fun _ => MethodDecl.delayEdit?_zeroReads_eq zero

end Program

namespace SubstitutionPlan

/-- After a substitution everything that does not look for its field finds what it found before:
the signals and strings of each method, the matches of each fingerprint, the tallies but for one
entry, the reads of other fields, and the plans that do not go by the field or by the literal
zero. -/
theorem apply_collect_agreesExcept {package : Option String} {classes : List ClassDecl}
    (accepted : Program.ofClasses package classes = .ok p) (f : FieldRef) :
    ∃ n q, (collect p f).apply.run p = (.ok n, q) ∧ p.AgreesExcept f q := by
  have wellFormed := (Program.ofClasses_eq_ok_iff.mp accepted).2
  exact ⟨_, _, run_apply_collect wellFormed, wellFormed.agreesExcept_zeroReads⟩

/-- A method that compares two fields. One of them is substituted, the other keeps its total. -/
theorem apply_collect_agreesExcept_two_fields :
    let field (name : String) : FieldRef := ⟨⟨"LA;"⟩, name, .int⟩
    let check : MethodDecl := ⟨"check", [], .boolean, 0, some ⟨2, 0,
      [.constInt ⟨0⟩ 2, .staticField (.sget .word) ⟨0⟩ (field "a"),
        .staticField (.sget .word) ⟨1⟩ (field "b"), .branchZero .ifEqz ⟨1⟩ ⟨4⟩, .ret ⟨0⟩]⟩⟩
    let p : Program := ⟨none, [⟨⟨"LA;"⟩, none, 0, [], [check]⟩]⟩
    Program.ofClasses p.package p.classes = .ok p ∧
      (p.class? ⟨0⟩).map FieldTally.ofClass = some ⟨[(field "a", 2), (field "b", 2)]⟩ ∧
      ∃ q, (collect p (field "a")).apply.run p = (.ok 1, q) ∧
        (q.class? ⟨0⟩).map FieldTally.ofClass = some ⟨[(field "b", 2)]⟩ ∧
        q.planTier ⟨0⟩ (field "b") 2 = p.planTier ⟨0⟩ (field "b") 2 := by
  intro field check p
  have accepted : Program.ofClasses p.package p.classes = .ok p := rfl
  obtain ⟨n, q, answer, agrees⟩ := apply_collect_agreesExcept accepted (field "a")
  have count : n = 1 := by
    have counted : ((collect p (field "a")).apply.run p).1 = .ok 1 := rfl
    rw [answer] at counted
    exact Except.ok.inj counted
  subst count
  refine ⟨accepted, by decide +zetaReduce, q, answer, ?_, ?_⟩
  · rw [agrees.tally]
    decide +zetaReduce
  · exact agrees.planTier ⟨0⟩ (field "b") 2 (by decide)

end SubstitutionPlan

end DexPatch
