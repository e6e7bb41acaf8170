import DexPatch.Proofs.Mutation
import DexPatch.Proofs.ZeroedReads

/-!
# Substitution

A plan works through recorded places, last place first within a method, and stops at a place
that is no longer a read of its field. While all places are current it cannot stop, and what
it does to a method can be said without any order of places. A plan collected from a
well-formed program is current, and it has a place for each read.

## Main definitions

* `Site.IsCurrent`, `SubstitutionPlan.IsCurrent` — the recorded places are reads of the field
* `Site.zero`, `zeroSites` — the loads of zero that a plan puts in place

## Main results

* `MethodDecl.mem_readSites` — the collected places are exactly the current ones
* `SubstitutionPlan.run_apply` — a current plan is carried out in full
* `zeroSites_readSites` — zeroing the collected places zeroes all reads
* `SubstitutionPlan.apply_collect_exact` — collecting and applying zeroes every read of a field
  and touches nothing else
-/

namespace DexPatch

open Program SubstitutionPlan

variable {p : Program} {id : MethodId} {m : MethodDecl} {f : FieldRef} {s : Site}
  {code : List Instruction} {sites : List Site}

/-! ### Places -/

/-- The place holds a read of `f` that writes the recorded register. -/
def Site.IsCurrent (f : FieldRef) (code : List Instruction) (s : Site) : Prop :=
  ∃ i, code[s.position]? = some i ∧ i.Reads f ∧ i.dest? = some s.dest

/-- The code with a load of zero at the place. -/
def Site.zero (s : Site) (code : List Instruction) : List Instruction :=
  code.set s.position (.constZero s.dest)

/-- The code with a load of zero at each of the places, the last of them first. -/
def zeroSites (sites : List Site) (code : List Instruction) : List Instruction :=
  sites.foldr Site.zero code

theorem Site.IsCurrent.zero {t : Site} (current : t.IsCurrent f code)
    (apart : s.position ≠ t.position) : t.IsCurrent f (s.zero code) := by
  obtain ⟨i, there, reads, dest⟩ := current
  exact ⟨i, by rwa [Site.zero, List.getElem?_set_ne apart], reads, dest⟩

/-- The load takes over a register of the read, so the frame has it and the load can name it. -/
theorem Body.Admits.constZero {b : Body} {i : Instruction} {d : Reg} (admits : b.Admits i)
    (reads : i.Reads f) (dest : i.dest? = some d) : b.Admits (.constZero d) := by
  obtain ⟨d', dest', member, narrow⟩ := reads.exists_dest admits.operands
  obtain rfl := Option.some.inj (dest.symm.trans dest')
  exact .constInt (admits.registers d member) narrow 0

/-- A load of zero that is put in place changes the code of its method there. -/
theorem setBody_zero {b : Body} (found : p.method? id = some m) (has : m.body = some b) :
    p.setBody id (b.set s.position (.constZero s.dest)) = p.modifyMethod id (·.mapCode s.zero) :=
  modifyMethod_congr fun n hn => by
    obtain rfl := Option.some.inj (found.symm.trans hn)
    simp [MethodDecl.mapCode, has, Body.set, Site.zero]

/-- The place that a read at `position` is recorded as. -/
def readSite? (f : FieldRef) : Instruction × Nat → Option Site
  | (i, position) => if i.Reads f then i.dest?.map (Site.mk position) else none

theorem readSite?_eq_some_iff {i : Instruction} {position : Nat} :
    readSite? f (i, position) = some s ↔
      i.Reads f ∧ i.dest? = some s.dest ∧ s.position = position := by
  obtain ⟨at', d⟩ := s
  by_cases reads : i.Reads f
  · simp [readSite?, reads, eq_comm, and_comm]
  · simp [readSite?, reads]

theorem MethodDecl.readSites_eq : m.readSites f = m.code.zipIdx.filterMap (readSite? f) := rfl

/-- The collected places are exactly the current ones. -/
theorem MethodDecl.mem_readSites : s ∈ m.readSites f ↔ s.IsCurrent f m.code := by
  rw [readSites_eq, List.mem_filterMap]
  constructor
  · rintro ⟨⟨i, position⟩, there, read⟩
    obtain ⟨reads, dest, rfl⟩ := readSite?_eq_some_iff.mp read
    exact ⟨i, List.mk_mem_zipIdx_iff_getElem?.mp there, reads, dest⟩
  · rintro ⟨i, there, reads, dest⟩
    exact ⟨(i, s.position), List.mk_mem_zipIdx_iff_getElem?.mpr there,
      readSite?_eq_some_iff.mpr ⟨reads, dest, rfl⟩⟩

/-- No place is collected twice. -/
theorem MethodDecl.nodup_readSites : ((m.readSites f).map Site.position).Nodup := by
  have positions : (m.code.zipIdx.map Prod.snd).Nodup := by
    rw [List.zipIdx_map_snd]
    exact List.nodup_range'
  refine (map_filterMap_sublist ?_ m.code.zipIdx).nodup positions
  rintro ⟨i, position⟩ s read
  exact (readSite?_eq_some_iff.mp read).2.2

/-- Every read of code that fits its opcodes is collected. -/
theorem MethodDecl.length_readSites (wellFormed : ∀ i ∈ m.code, i.IsWellFormed) :
    (m.readSites f).length = m.code.countP (·.Reads f) := by
  have collected : ∀ place ∈ m.code.zipIdx,
      (readSite? f place).isSome ↔ place.1.Reads f := by
    rintro ⟨i, position⟩ member
    have hi := List.mem_of_getElem? (List.mk_mem_zipIdx_iff_getElem?.mp member)
    constructor
    · intro h
      obtain ⟨s, hs⟩ := Option.isSome_iff_exists.mp h
      exact (readSite?_eq_some_iff.mp hs).1
    · intro reads
      obtain ⟨d, dest, _⟩ := reads.exists_dest (wellFormed i hi)
      simp [readSite?, reads, dest]
  calc
    (m.readSites f).length = m.code.zipIdx.countP fun place => (readSite? f place).isSome :=
      List.length_filterMap_eq_countP
    _ = m.code.zipIdx.countP fun place => place.1.Reads f :=
      List.countP_congr fun place member => by simpa using collected place member
    _ = (m.code.zipIdx.map Prod.fst).countP (·.Reads f) := by
      rw [List.countP_map]
      rfl
    _ = m.code.countP (·.Reads f) := by rw [List.zipIdx_map_fst]

theorem MethodDecl.readSites_eq_nil_iff (wellFormed : ∀ i ∈ m.code, i.IsWellFormed) :
    m.readSites f = [] ↔ ¬ m.ReadsField f := by
  rw [← List.length_eq_zero_iff, length_readSites wellFormed, List.countP_eq_zero, ReadsField]
  simp

/-- Zeroing the collected places of some code that follows other code zeroes its reads. -/
theorem zeroSites_filterMap_readSite? (before code : List Instruction) :
    zeroSites ((code.zipIdx before.length).filterMap (readSite? f)) (before ++ code) =
      before ++ code.map (Instruction.zeroRead f) := by
  -- Places count from the start of the whole code, so the code in front is carried along. The
  -- last place comes first: everything after `i` is done when it is the turn of `i`.
  induction code generalizing before with
  | nil => rfl
  | cons i rest ih =>
    have later := ih (before ++ [i])
    simp only [List.length_append, List.length_singleton, List.append_assoc,
      List.singleton_append] at later
    rw [List.zipIdx_cons, List.filterMap_cons, List.map_cons]
    cases read : readSite? f (i, before.length) with
    | none =>
      have same : i.zeroRead f = i := by
        rcases i.zeroRead_cases f with same | ⟨d, reads, dest, _⟩
        · exact same
        · simp [readSite?, reads, dest] at read
      rw [same]
      exact later
    | some s =>
      obtain ⟨reads, dest, position⟩ := readSite?_eq_some_iff.mp read
      change s.zero (zeroSites _ (before ++ i :: rest)) = _
      rw [later, Site.zero, position, Instruction.zeroRead_of_reads reads dest]
      simp

/-- Zeroing the collected places zeroes all reads. -/
theorem zeroSites_readSites : m.mapCode (zeroSites (m.readSites f)) = m.zeroReads f :=
  MethodDecl.mapCode_congr (zeroSites_filterMap_readSite? [] m.code)

namespace SubstitutionPlan

/-! ### Carrying out a plan -/

/-- The plan names every method once and every place of it once, and each place is a read
of the target that writes the recorded register. -/
structure IsCurrent (plan : SubstitutionPlan) (p : Program) : Prop where
  methods : plan.methods.Nodup
  positions : ∀ entry ∈ plan.entries, (entry.2.map Site.position).Nodup
  sites : ∀ entry ∈ plan.entries, ∃ m, p.method? entry.1 = some m ∧
    ∀ s ∈ entry.2, s.IsCurrent plan.target m.code

theorem run_applySite (wellFormed : p.IsWellFormed) (found : p.method? id = some m)
    (current : s.IsCurrent f m.code) :
    (applySite f id s).run p = (.ok 1, p.modifyMethod id (·.mapCode s.zero)) := by
  obtain ⟨owner, located⟩ := exists_locate?_of_method? found
  obtain ⟨i, there, reads, dest⟩ := current
  obtain ⟨b, has⟩ := Option.isSome_iff_exists.mp
    (MethodDecl.isSome_body_of_mem_code (List.mem_of_getElem? there))
  have stillReads : ∃ i ∈ m.code[s.position]?, i.Reads f := ⟨i, there, reads⟩
  rw [MethodDecl.code_eq has] at there
  have admits : b.Admits i := (wellFormed.body found has).admits i (List.mem_of_getElem? there)
  rw [applySite, Edit.run_bind, Edit.run_program]
  simp only [located, stillReads, if_true]
  rw [Edit.run_bind, Edit.run_mapError,
    run_replaceInstruction found has there (admits.constZero reads dest), setBody_zero found has]
  rfl

theorem run_applySites (wellFormed : p.IsWellFormed) (found : p.method? id = some m)
    (distinct : (sites.map Site.position).Nodup) (current : ∀ s ∈ sites, s.IsCurrent f m.code) :
    (Edit.total (applySite f id) sites).run p = (.ok sites.length,
      p.modifyMethod id (·.mapCode fun code => sites.foldl (fun code s => s.zero code) code)) := by
  induction sites generalizing p m with
  | nil =>
    rw [modifyMethod_eq_self fun n _ => MethodDecl.mapCode_eq_self rfl]
    rfl
  | cons s rest ih =>
    rw [List.map_cons, List.nodup_cons] at distinct
    obtain ⟨first, others⟩ := List.forall_mem_cons.mp current
    have step := run_applySite wellFormed found first
    have good : (p.modifyMethod id (·.mapCode s.zero)).IsWellFormed := by
      have kept := (usesMutators_applySite f id s p).isWellFormed wellFormed
      rwa [step] at kept
    have found' : (p.modifyMethod id (·.mapCode s.zero)).method? id = some (m.mapCode s.zero) := by
      rw [method?_modifyMethod_self, found]
      rfl
    -- The places still to come are other places, so each of them is a read as before.
    have still : ∀ t ∈ rest, t.IsCurrent f (m.mapCode s.zero).code := by
      intro t ht
      obtain ⟨i, there, _⟩ := first
      rw [MethodDecl.code_mapCode (MethodDecl.isSome_body_of_mem_code (List.mem_of_getElem? there))]
      refine (others t ht).zero fun same => distinct.1 ?_
      rw [same]
      exact List.mem_map_of_mem ht
    rw [Edit.run_total_cons, step]
    simp only [ih good found' distinct.2 still, modifyMethod_modifyMethod]
    refine Prod.ext ?_ (modifyMethod_congr fun n _ => ?_)
    · simp [Except.map, Nat.add_comm]
    · simp only [Function.comp_apply, MethodDecl.mapCode_mapCode]
      rfl

theorem run_applyEntry (wellFormed : p.IsWellFormed) (found : p.method? id = some m)
    (distinct : (sites.map Site.position).Nodup) (current : ∀ s ∈ sites, s.IsCurrent f m.code) :
    (applyEntry f (id, sites)).run p =
      (.ok sites.length, p.modifyMethod id (·.mapCode (zeroSites sites))) := by
  have distinct' : (sites.reverse.map Site.position).Nodup := by
    rwa [List.map_reverse, List.nodup_reverse]
  have run := run_applySites wellFormed found distinct' fun s hs =>
    current s (List.mem_reverse.mp hs)
  simp only [List.length_reverse, List.foldl_reverse] at run
  exact run

/-- A current plan is carried out in full. -/
theorem run_apply {plan : SubstitutionPlan} (wellFormed : p.IsWellFormed)
    (current : plan.IsCurrent p) :
    plan.apply.run p = (.ok plan.size,
      p.modifyEach (plan.entries.map fun entry => (entry.1, (·.mapCode (zeroSites entry.2))))) := by
  have run := Edit.run_total_modifyEach (fun entry _ => entry.2.length)
    (usesMutators_applyEntry plan.target) wellFormed current.methods
    (f := fun entry m => m.mapCode (zeroSites entry.2)) fun entry member => by
      obtain ⟨m, found, sites⟩ := current.sites entry member
      exact ⟨m, found, fun q good there =>
        run_applyEntry good there (current.positions entry member) sites⟩
  rw [apply, run, size]
  have counts : (plan.entries.map fun entry => (p.method? entry.1).elim 0 fun _ => entry.2.length) =
      plan.entries.map fun entry => entry.2.length :=
    List.map_congr_left fun entry member => by
      obtain ⟨m, found, _⟩ := current.sites entry member
      rw [found, Option.elim_some]
  rw [counts, ← List.sum_eq_foldr, List.length_flatMap]

/-! ### Collecting and applying -/

/-- The methods with reads are collected, in declaration order. -/
theorem entries_collect (wellFormed : p.IsWellFormed) :
    (collect p f).entries =
      (p.methods.filter fun e => e.2.ReadsField f).map fun e => (e.1, e.2.readSites f) := by
  rw [← List.filterMap_eq_map', List.filterMap_filter]
  refine List.filterMap_congr fun ⟨id, m⟩ member => ?_
  have empty := MethodDecl.readSites_eq_nil_iff (f := f) fun i hi =>
    wellFormed.instruction (mem_methods.mp member) hi
  by_cases reads : m.ReadsField f
  · have nonempty := mt empty.mp (not_not_intro reads)
    simp only [reads, decide_true, if_true]
  · simp [reads, empty.mpr reads]

theorem mem_entries_collect (wellFormed : p.IsWellFormed) {entry : MethodId × List Site} :
    entry ∈ (collect p f).entries ↔
      ∃ m, p.method? entry.1 = some m ∧ m.ReadsField f ∧ entry.2 = m.readSites f := by
  rw [entries_collect wellFormed, List.mem_map]
  constructor
  · rintro ⟨⟨id, m⟩, member, rfl⟩
    obtain ⟨declared, reads⟩ := List.mem_filter.mp member
    exact ⟨m, mem_methods.mp declared, of_decide_eq_true reads, rfl⟩
  · rintro ⟨m, found, reads, same⟩
    exact ⟨(entry.1, m), List.mem_filter.mpr ⟨mem_methods.mpr found, decide_eq_true reads⟩,
      Prod.ext rfl same.symm⟩

theorem methods_collect (wellFormed : p.IsWellFormed) :
    (collect p f).methods = (p.methods.filter fun e => e.2.ReadsField f).map Prod.fst := by
  rw [methods, entries_collect wellFormed, List.map_map]
  rfl

theorem size_collect (wellFormed : p.IsWellFormed) : (collect p f).size = p.readCount f := by
  have counted (list : List (MethodId × MethodDecl))
      (fits : ∀ e ∈ list, ∀ i ∈ e.2.code, i.IsWellFormed) :
      ((list.filter fun e => e.2.ReadsField f).flatMap fun e => e.2.readSites f).length =
        (list.flatMap fun e => e.2.code).countP (·.Reads f) := by
    -- A method without reads is left out of the plan, and has nothing to count.
    induction list with
    | nil => rfl
    | cons e rest ih =>
      obtain ⟨first, others⟩ := List.forall_mem_cons.mp fits
      by_cases reads : e.2.ReadsField f
      · simp [reads, ih others, MethodDecl.length_readSites first]
      · have none := (MethodDecl.readSites_eq_nil_iff first).mpr reads
        have zero := MethodDecl.length_readSites (f := f) first
        rw [none] at zero
        simp [reads, ih others, ← zero]
  rw [size, entries_collect wellFormed, List.flatMap_map]
  exact counted p.methods fun e member i hi => wellFormed.instruction (mem_methods.mp member) hi

theorem isCurrent_collect (wellFormed : p.IsWellFormed) : (collect p f).IsCurrent p := by
  refine ⟨?_, ?_, ?_⟩
  · rw [methods_collect wellFormed]
    exact (List.filter_sublist.map Prod.fst).nodup nodup_methods
  · intro entry member
    obtain ⟨m, _, _, same⟩ := (mem_entries_collect wellFormed).mp member
    rw [same]
    exact MethodDecl.nodup_readSites
  · intro entry member
    obtain ⟨m, found, _, same⟩ := (mem_entries_collect wellFormed).mp member
    refine ⟨m, found, fun s hs => ?_⟩
    rw [same] at hs
    exact MethodDecl.mem_readSites.mp hs

/-- Zeroing all collected places is zeroing all reads. -/
theorem modifyEach_collect (wellFormed : p.IsWellFormed) :
    p.modifyEach ((collect p f).entries.map fun entry =>
      (entry.1, (·.mapCode (zeroSites entry.2)))) = p.zeroReads f := by
  have distinct := (isCurrent_collect (f := f) wellFormed).methods
  refine eq_of_outline_eq ?_ fun id => ?_
  · rw [outline_zeroReads]
    refine outline_modifyEach fun change member m => ?_
    obtain ⟨entry, _, rfl⟩ := List.mem_map.mp member
    exact MethodDecl.outline_mapCode
  · rw [method?_zeroReads]
    -- A method that the plan names is zeroed at its places, and any other has no read.
    by_cases named : id ∈ (collect p f).methods
    · obtain ⟨entry, member, rfl⟩ := List.mem_map.mp named
      obtain ⟨m, found, _, same⟩ := (mem_entries_collect wellFormed).mp member
      have change := List.mem_map_of_mem member
        (f := fun e => (e.1, fun m : MethodDecl => m.mapCode (zeroSites e.2)))
      rw [method?_modifyEach_of_mem (by rwa [List.map_map]) change, found, Option.map_some,
        Option.map_some, same, zeroSites_readSites]
    · rw [method?_modifyEach_of_notMem (by rwa [List.map_map])]
      cases found : p.method? id with
      | none => rfl
      | some m =>
        have none : ¬ m.ReadsField f := by
          intro reads
          have member : (id, m.readSites f) ∈ (collect p f).entries :=
            (mem_entries_collect wellFormed).mpr ⟨m, found, reads, rfl⟩
          exact named (List.mem_map_of_mem member)
        rw [Option.map_some, MethodDecl.zeroReads_eq_self none]

/-- Collecting and applying zeroes every read of the field. -/
theorem run_apply_collect (wellFormed : p.IsWellFormed) :
    (collect p f).apply.run p = (.ok (p.readCount f), p.zeroReads f) := by
  rw [run_apply wellFormed (isCurrent_collect wellFormed), size_collect wellFormed,
    modifyEach_collect wellFormed]

/-- Nothing is left to collect. -/
theorem isEmpty_collect_zeroReads (wellFormed : p.IsWellFormed) :
    (collect (p.zeroReads f) f).isEmpty := by
  have zeroed : (p.zeroReads f).IsWellFormed := by
    have kept := (usesMutators_apply (collect p f) p).isWellFormed wellFormed
    rwa [run_apply_collect wellFormed] at kept
  rw [isEmpty, List.isEmpty_iff, List.eq_nil_iff_forall_not_mem]
  intro entry member
  obtain ⟨m, found, reads, _⟩ := (mem_entries_collect zeroed).mp member
  exact wellFormed.not_readsField_zeroReads found reads

/-- Substitution answers the number of reads of the field and zeroes each of them in place.
Its plan names the methods with reads in declaration order, and nothing is left to collect. -/
theorem apply_collect_exact {package : Option String} {classes : List ClassDecl}
    (accepted : Program.ofClasses package classes = .ok p) (f : FieldRef) :
    (collect p f).apply.run p = (.ok (p.readCount f), p.zeroReads f) ∧
      (collect p f).size = p.readCount f ∧
      (collect p f).methods = (p.methods.filter fun e => e.2.ReadsField f).map Prod.fst ∧
      (collect (p.zeroReads f) f).isEmpty ∧
      (p.zeroReads f).outline = p.outline ∧
      ∀ (id : MethodId) (m : MethodDecl) (b : Body), p.method? id = some m → m.body = some b →
        ∃ code : List Instruction, (p.zeroReads f).method? id =
            some { m with body := some { b with instructions := code } } ∧
          code.length = b.instructions.length ∧
          ∀ (k : Nat) (i : Instruction), b.instructions[k]? = some i →
            (¬ i.Reads f → code[k]? = some i) ∧
            (i.Reads f → ∃ d, i.dest? = some d ∧ code[k]? = some (.constZero d)) := by
  have wellFormed := (Program.ofClasses_eq_ok_iff.mp accepted).2
  refine ⟨run_apply_collect wellFormed, size_collect wellFormed, methods_collect wellFormed,
    isEmpty_collect_zeroReads wellFormed, outline_zeroReads, ?_⟩
  intro id m b found has
  refine ⟨b.instructions.map (Instruction.zeroRead f), ?_, by rw [List.length_map], ?_⟩
  · rw [method?_zeroReads, found, Option.map_some, MethodDecl.zeroReads, MethodDecl.mapCode, has,
      Option.map_some]
  · intro k i there
    rw [← MethodDecl.code_eq has] at there ⊢
    exact wellFormed.getElem?_map_zeroRead found there

/-- Two reads of different width, one of them after a write of the same field. -/
theorem apply_collect_exact_two_reads :
    let f : FieldRef := ⟨⟨"LA;"⟩, "f", .boolean⟩
    let first : MethodDecl := ⟨"first", [], .boolean, 0, some ⟨2, 1,
      [.instanceField (.iget .boolean) ⟨0⟩ ⟨1⟩ f, .ret ⟨0⟩]⟩⟩
    let second : MethodDecl := ⟨"second", [], .boolean, 0, some ⟨40, 0,
      [.staticField (.sput .boolean) ⟨39⟩ f, .staticField (.sget .boolean) ⟨39⟩ f, .ret ⟨39⟩]⟩⟩
    let p : Program := ⟨none, [⟨⟨"LA;"⟩, none, 0, [], [first, second]⟩]⟩
    Program.ofClasses p.package p.classes = .ok p ∧
      (collect p f).apply.run p = (.ok 2, p.zeroReads f) := by
  intro f first second p
  have accepted : Program.ofClasses p.package p.classes = .ok p := rfl
  exact ⟨accepted, (apply_collect_exact accepted f).1⟩

end SubstitutionPlan

end DexPatch
