import DexPatch.Proofs.LateSubstitution
import DexPatch.Proofs.SubstitutionFrame

/-!
# Substitutions in any order

Two fields may be read by turns in the same method, so that the places of two plans lie between
each other. Still no place belongs to both, since an instruction reads one field at most, and a
load of zero changes neither the frame nor the length of a body. So a plan that was collected
before the other was carried out still finds all of its reads. More than that: the loads could be
put in place one at a time, in any order whatsoever.

## Main definitions

* `Program.zeroPlace` — the program with a load of zero at one place
* `Program.Takes` — a place where the recorded load fits
* `zeroPlaces` — loads of zero put in place one after the other

## Main results

* `run_zeroPlaces` — loads that fit are all put in place
* `foldl_zeroPlace_perm` — the order of different places does not matter
* `Program.zeroReads_comm` — reads of two fields may be zeroed in either order
* `SubstitutionPlan.apply_collect_comm` — substitutions of two fields commute
-/

namespace DexPatch

open Program SubstitutionPlan

variable {p q : Program} {f g : FieldRef} {place other : MethodId × Site}
  {list order : List (MethodId × Site)}

/-! ### One place -/

/-- The method and the position of a place, without its register. -/
def spotOf (place : MethodId × Site) : MethodId × Nat := (place.1, place.2.position)

namespace Program

/-- The program with a load of zero at a place. -/
def zeroPlace (p : Program) (place : MethodId × Site) : Program :=
  p.modifyMethod place.1 (·.mapCode place.2.zero)

/-- Different places do not see each other. -/
theorem zeroPlace_comm (apart : spotOf place ≠ spotOf other) :
    (p.zeroPlace place).zeroPlace other = (p.zeroPlace other).zeroPlace place := by
  obtain ⟨id, s⟩ := place
  obtain ⟨id', t⟩ := other
  -- Two methods, or two positions in the code of one.
  by_cases same : id' = id
  · subst same
    have positions : s.position ≠ t.position := fun h => apart (by rw [spotOf, spotOf, h])
    simp only [zeroPlace, modifyMethod_modifyMethod]
    congr 1
    funext m
    simp only [Function.comp_apply, MethodDecl.mapCode_mapCode]
    congr 1
    funext code
    exact List.set_comm _ _ positions
  · exact modifyMethod_comm same

/-- The place is one of the code of its method, and the load that is recorded for it fits. -/
def Takes (p : Program) (place : MethodId × Site) : Prop :=
  ∃ m b, p.method? place.1 = some m ∧ m.body = some b ∧
    place.2.position < b.instructions.length ∧ b.Admits (.constZero place.2.dest)

/-- Loads that are put elsewhere, or in the same place, leave room for another one. -/
theorem Takes.zeroPlace (takes : p.Takes place) (other : MethodId × Site) :
    (p.zeroPlace other).Takes place := by
  obtain ⟨m, b, found, has, inside, admits⟩ := takes
  by_cases same : place.1 = other.1
  · have after : (p.zeroPlace other).method? place.1 = some (m.mapCode other.2.zero) := by
      rw [Program.zeroPlace, same, method?_modifyMethod_self, ← same, found, Option.map_some]
    -- The frame and the number of instructions are all that counts.
    have length : (other.2.zero b.instructions).length = b.instructions.length := List.length_set
    refine ⟨_, { b with instructions := other.2.zero b.instructions }, after, ?_, ?_, ?_⟩
    · rw [MethodDecl.mapCode, has, Option.map_some]
    · rwa [length]
    · exact admits.congr rfl length
  · exact ⟨m, b, by rwa [Program.zeroPlace, method?_modifyMethod_of_ne same], has, inside, admits⟩

/-- A load that fits is put in place. -/
theorem Takes.run_replaceInstruction (takes : p.Takes place) :
    ∃ i, (replaceInstruction place.1 place.2.position (.constZero place.2.dest)).run p =
      (.ok i, p.zeroPlace place) := by
  obtain ⟨m, b, found, has, inside, admits⟩ := takes
  refine ⟨b.instructions[place.2.position], ?_⟩
  rw [DexPatch.run_replaceInstruction found has (List.getElem?_eq_getElem inside) admits,
    setBody_zero found has]
  rfl

/-- What zeroing a read leaves is known from its place. -/
theorem ZeroesRead.eq_zeroPlace (step : ZeroesRead f place p q) : q = p.zeroPlace place := by
  obtain ⟨i, _, answer⟩ := step
  rcases replaceInstruction_cases place.1 place.2.position (.constZero place.2.dest) p with
    ⟨e, refused⟩ | ⟨m, b, j, found, has, _, _, done⟩
  · rw [refused] at answer
    simp at answer
  · rw [done, setBody_zero found has] at answer
    exact (Prod.mk.inj answer).2.symm

/-- The places of a trace may be zeroed without looking at what is there. -/
theorem Trace.eq_foldl_zeroPlace (trace : Trace (ZeroesRead f) list p q) :
    q = list.foldl zeroPlace p := by
  induction trace with
  | nil => rfl
  | cons step _ ih => rw [List.foldl_cons, ← step.eq_zeroPlace, ih]

end Program

/-! ### One place after the other -/

/-- Puts loads of zero in place one after the other, and counts them. -/
def zeroPlaces (list : List (MethodId × Site)) : Edit ProgramError Nat :=
  Edit.total (fun place => do
    let _ ← replaceInstruction place.1 place.2.position (.constZero place.2.dest)
    return 1) list

/-- Loads that fit are all put in place, whatever their order. -/
theorem run_zeroPlaces (takes : ∀ place ∈ list, p.Takes place) :
    (zeroPlaces list).run p = (.ok list.length, list.foldl zeroPlace p) := by
  induction list generalizing p with
  | nil => rfl
  | cons place rest ih =>
    obtain ⟨first, others⟩ := List.forall_mem_cons.mp takes
    -- The places that are left still take their loads in the program after the first one.
    obtain ⟨i, put⟩ := first.run_replaceInstruction
    have later := ih fun other member => (others other member).zeroPlace place
    rw [zeroPlaces] at later
    rw [zeroPlaces, Edit.run_total_cons, Edit.run_bind, put]
    simp only [Edit.run_pure, later, Except.map, List.length_cons, List.foldl_cons, Nat.add_comm]

/-- The order of places that are all different does not matter. -/
theorem foldl_zeroPlace_perm (perm : order.Perm list) (distinct : (list.map spotOf).Nodup) :
    order.foldl zeroPlace p = list.foldl zeroPlace p := by
  -- An order is reached from another one by swapping neighbours.
  refine (perm.symm.foldl_eq' ?_ p).symm
  intro place member other member' q
  by_cases same : spotOf place = spotOf other
  · rw [List.inj_on_of_nodup_map distinct member member' same]
  · exact zeroPlace_comm same

/-! ### Two fields -/

namespace Instruction

variable {i : Instruction}

/-- An instruction reads one of the two fields at most. -/
theorem zeroRead_comm (different : f ≠ g) :
    (i.zeroRead f).zeroRead g = (i.zeroRead g).zeroRead f := by
  by_cases reads : i.Reads f
  · have apart : ¬ i.Reads g := fun again => different (Option.some.inj (reads.symm.trans again))
    have after : ¬ (i.zeroRead f).Reads g := mt (reads_zeroRead_iff different.symm).mp apart
    rw [zeroRead_of_not_reads after, zeroRead_of_not_reads apart]
  · have after : ¬ (i.zeroRead g).Reads f := mt (reads_zeroRead_iff different).mp reads
    rw [zeroRead_of_not_reads after, zeroRead_of_not_reads reads]

end Instruction

/-- Reads of two fields may be zeroed in either order. -/
theorem Program.zeroReads_comm (different : f ≠ g) :
    (p.zeroReads f).zeroReads g = (p.zeroReads g).zeroReads f := by
  rw [zeroReads, zeroReads, zeroReads, zeroReads, mapMethods_mapMethods, mapMethods_mapMethods]
  congr 1
  funext m
  simp only [Function.comp_apply, MethodDecl.zeroReads, MethodDecl.mapCode_mapCode]
  congr 1
  funext code
  simp only [Function.comp_apply, List.map_map]
  congr 1
  funext i
  exact Instruction.zeroRead_comm different

namespace SubstitutionPlan

/-- A plan is still what would be collected after the reads of another field are zeroed. -/
theorem run_apply_collect_zeroReads (wellFormed : p.IsWellFormed) (different : f ≠ g) :
    (collect p g).apply.run (p.zeroReads f) =
      (.ok (p.readCount g), (p.zeroReads f).zeroReads g) := by
  have zeroed : (p.zeroReads f).IsWellFormed := by
    have kept := (usesMutators_apply (collect p f) p).isWellFormed wellFormed
    rwa [run_apply_collect wellFormed] at kept
  have same : collect (p.zeroReads f) g = collect p g := collect_zeroReads different.symm
  have count : (p.zeroReads f).readCount g = p.readCount g := by
    rw [← size_collect zeroed, same, size_collect wellFormed]
  rw [← same, run_apply_collect zeroed, count]

theorem takes_of_mem_places (wellFormed : p.IsWellFormed)
    (member : place ∈ (collect p f).places) : p.Takes place := by
  obtain ⟨i, there, reads, dest⟩ := (mem_places_collect wellFormed).mp member
  obtain ⟨m, found, inCode⟩ := Option.bind_eq_some_iff.mp there
  obtain ⟨b, has⟩ := Option.isSome_iff_exists.mp
    (MethodDecl.isSome_body_of_mem_code (List.mem_of_getElem? inCode))
  rw [MethodDecl.code_eq has] at inCode
  have admits := (wellFormed.body found has).admits i (List.mem_of_getElem? inCode)
  exact ⟨m, b, found, has, (List.getElem?_eq_some_iff.mp inCode).1, admits.constZero reads dest⟩

/-- No place belongs to the plans of two fields, and none comes twice in either. -/
theorem nodup_places (wellFormed : p.IsWellFormed) (different : f ≠ g) :
    (((collect p f).places ++ (collect p g).places).map spotOf).Nodup := by
  have alone (h : FieldRef) : ((collect p h).places.map spotOf).Nodup :=
    (trace_of_run_apply (run_apply_collect wellFormed)).2.nodup_of_zeroesRead
  rw [List.map_append, List.nodup_append]
  refine ⟨alone f, alone g, ?_⟩
  intro a inFirst b inSecond same
  subst same
  obtain ⟨⟨id, s⟩, ofFirst, rfl⟩ := List.mem_map.mp inFirst
  obtain ⟨⟨id', t⟩, ofSecond, same⟩ := List.mem_map.mp inSecond
  obtain ⟨rfl, positions⟩ := Prod.mk.inj same
  obtain ⟨i, there, reads, _⟩ := (mem_places_collect wellFormed).mp ofFirst
  obtain ⟨j, there', reads', _⟩ := (mem_places_collect wellFormed).mp ofSecond
  -- Both plans name the instruction that is there.
  rw [show t.position = s.position from positions, there] at there'
  obtain rfl := Option.some.inj there'
  exact different (Option.some.inj (reads.symm.trans reads'))

/-- Two plans for different fields that are collected from the same program may be carried out in
either order. Both count the same reads each time and leave the same program in the end. Their
places are all different, and replacing the instructions there one at a time leads to the same
program in any order. -/
theorem apply_collect_comm {package : Option String} {classes : List ClassDecl}
    (accepted : Program.ofClasses package classes = .ok p) (different : f ≠ g) :
    ∃ afterFirst afterSecond both,
      (collect p f).apply.run p = (.ok (p.readCount f), afterFirst) ∧
      (collect p g).apply.run afterFirst = (.ok (p.readCount g), both) ∧
      (collect p g).apply.run p = (.ok (p.readCount g), afterSecond) ∧
      (collect p f).apply.run afterSecond = (.ok (p.readCount f), both) ∧
      (((collect p f).places ++ (collect p g).places).map spotOf).Nodup ∧
      ∀ order, order.Perm ((collect p f).places ++ (collect p g).places) →
        (zeroPlaces order).run p = (.ok (p.readCount f + p.readCount g), both) := by
  have wellFormed := (Program.ofClasses_eq_ok_iff.mp accepted).2
  have distinct := nodup_places wellFormed different
  have first := run_apply_collect (f := f) wellFormed
  have second := run_apply_collect_zeroReads wellFormed different
  refine ⟨_, _, _, first, second, run_apply_collect wellFormed, ?_, distinct, ?_⟩
  · rw [run_apply_collect_zeroReads wellFormed different.symm, zeroReads_comm different]
  · intro order perm
    obtain ⟨count, trace⟩ := trace_of_run_apply first
    obtain ⟨count', trace'⟩ := trace_of_run_apply second
    have takes : ∀ place ∈ order, p.Takes place := by
      intro place member
      rcases List.mem_append.mp (perm.subset member) with ofFirst | ofSecond
      · exact takes_of_mem_places wellFormed ofFirst
      · exact takes_of_mem_places wellFormed ofSecond
    have length : order.length = p.readCount f + p.readCount g := by
      rw [perm.length_eq, List.length_append, count, count']
    -- In the order of the plans the loads lead where the plans lead.
    rw [run_zeroPlaces takes, length, foldl_zeroPlace_perm perm distinct, List.foldl_append,
      ← trace.eq_foldl_zeroPlace, ← trace'.eq_foldl_zeroPlace]

/-- A field that is read before and after another one in the same method, and the three places in
an order that belongs to neither plan. -/
theorem apply_collect_comm_read_by_turns :
    let field (name : String) : FieldRef := ⟨⟨"LA;"⟩, name, .boolean⟩
    let read (register : Reg) (name : String) : Instruction :=
      .staticField (.sget .boolean) register (field name)
    let both : MethodDecl := ⟨"both", [], .boolean, 0, some ⟨3, 0,
      [read ⟨0⟩ "a", read ⟨1⟩ "b", read ⟨2⟩ "a", .ret ⟨0⟩]⟩⟩
    let p : Program := ⟨none, [⟨⟨"LA;"⟩, none, 0, [], [both]⟩]⟩
    let place (position : Nat) (register : Reg) : MethodId × Site :=
      (⟨⟨0⟩, 0⟩, ⟨position, register⟩)
    Program.ofClasses p.package p.classes = .ok p ∧ field "a" ≠ field "b" ∧
      ∃ afterA afterB final,
        (collect p (field "a")).apply.run p = (.ok 2, afterA) ∧
        (collect p (field "b")).apply.run afterA = (.ok 1, final) ∧
        (collect p (field "b")).apply.run p = (.ok 1, afterB) ∧
        (collect p (field "a")).apply.run afterB = (.ok 2, final) ∧
        (zeroPlaces [place 0 ⟨0⟩, place 1 ⟨1⟩, place 2 ⟨2⟩]).run p = (.ok 3, final) := by
  intro field read both p place
  have accepted : Program.ofClasses p.package p.classes = .ok p := rfl
  have different : field "a" ≠ field "b" := by decide
  obtain ⟨afterA, afterB, final, first, second, second', first', _, any⟩ :=
    apply_collect_comm accepted different
  have order : [place 0 ⟨0⟩, place 1 ⟨1⟩, place 2 ⟨2⟩].Perm
      ((collect p (field "a")).places ++ (collect p (field "b")).places) := by
    decide +zetaReduce
  exact ⟨accepted, different, afterA, afterB, final, first, second, second', first', any _ order⟩

end SubstitutionPlan

end DexPatch
