import DexPatch.Proofs.Substitution
import DexPatch.Proofs.Trace

/-!
# Substitution in a changed program

A plan may be carried out in another program than the one it was collected from. It stops at a
place that is no read of its field any more, so whatever it changes was such a read. The
registers, however, come from the plan: where a read has moved to another register in the
meantime, the zero is loaded into the register that it had.

## Main definitions

* `SubstitutionPlan.places` — the places of a plan in the order in which it visits them
* `Program.ZeroesRead` — a read becomes a load of zero into a recorded register

## Main results

* `SubstitutionPlan.trace_of_run_apply` — a plan that is carried out visits all of its places
* `SubstitutionPlan.zeroed_of_collected`, `SubstitutionPlan.collected_of_differs` — what a plan
  does where it collected a read, and where it did not
* `SubstitutionPlan.apply_collect_late` — what a plan does to a program that has changed since,
  and when its loads go into the right registers
* `SubstitutionPlan.apply_collect_late_wrong_register` — a read that has changed its register
-/

namespace DexPatch

open Program

variable {p q p₀ : Program} {id : MethodId} {f : FieldRef} {s : Site} {k n : Nat}
  {i : Instruction} {visited : List (MethodId × Site)}

/-- Loads into different registers differ. -/
theorem Instruction.constZero_inj {a b : Reg} : constZero a = constZero b ↔ a = b := by
  constructor
  · intro same
    exact List.singleton_inj.mp (congrArg Instruction.regs same)
  · rintro rfl
    rfl

namespace Program

/-- A read of `f` is replaced by a load of zero into the register that is recorded for its
place. -/
def ZeroesRead (f : FieldRef) (place : MethodId × Site) (p q : Program) : Prop :=
  ∃ i, i.Reads f ∧
    (replaceInstruction place.1 place.2.position (.constZero place.2.dest)).run p = (.ok i, q)

theorem ZeroesRead.replaces {place : MethodId × Site} (step : ZeroesRead f place p q) :
    ReplacesInstruction (place.1, place.2.position) p q := by
  obtain ⟨i, reads, answer⟩ := step
  exact ⟨_, i, answer, fun same => Instruction.not_reads_constInt f (same ▸ reads)⟩

/-- What is found where a read has been zeroed is no read. -/
theorem ZeroesRead.not_reads {place : MethodId × Site} (step : ZeroesRead f place p q)
    (there : q.instruction? place.1 place.2.position = some i) : ¬ i.Reads f := by
  obtain ⟨_, _, answer⟩ := step
  obtain ⟨_, after, _⟩ := replaceInstruction_eq_ok answer
  obtain rfl := Option.some.inj (after.symm.trans there)
  exact Instruction.not_reads_constInt f

/-- The places visited were reads of the field and are loads now. Nothing else has changed. -/
theorem Trace.zeroed (trace : Trace (ZeroesRead f) visited p q) :
    (∀ id s, (id, s) ∈ visited → ∃ i, p.instruction? id s.position = some i ∧ i.Reads f ∧
      q.instruction? id s.position = some (.constZero s.dest)) ∧
    ∀ id k, (∀ s, (id, s) ∈ visited → s.position ≠ k) →
      q.instruction? id k = p.instruction? id k := by
  induction trace with
  | nil => exact ⟨nofun, fun _ _ _ => rfl⟩
  | @cons place rest p q r step _ ih =>
    obtain ⟨owner, first⟩ := place
    obtain ⟨zeroed, untouched⟩ := ih
    -- What has become a load is no read, so the rest of the trace does not come back to it.
    have left : ∀ id s, (id, s) ∈ rest → (id, s.position) ≠ (owner, first.position) := by
      intro id s member same
      obtain ⟨rfl, position⟩ := Prod.mk.inj same
      obtain ⟨j, there, again, _⟩ := zeroed id s member
      exact step.not_reads (position ▸ there) again
    obtain ⟨i, reads, answer⟩ := step
    obtain ⟨before, after, others⟩ := replaceInstruction_eq_ok answer
    constructor
    · intro id s member
      rcases List.mem_cons.mp member with same | later
      · obtain ⟨rfl, rfl⟩ := Prod.mk.inj same
        refine ⟨i, before, reads, ?_⟩
        rw [untouched id s.position fun t ht position => left id t ht (by rw [position]), after]
      · obtain ⟨j, there, again, zero⟩ := zeroed id s later
        exact ⟨j, by rwa [← others id s.position (left id s later)], again, zero⟩
    · intro id k free
      rw [untouched id k fun s member => free s (List.mem_cons_of_mem _ member)]
      refine others id k fun same => ?_
      obtain ⟨rfl, rfl⟩ := Prod.mk.inj same
      exact free first List.mem_cons_self rfl

/-- What has been zeroed is no read any more, so no place is visited twice. -/
theorem Trace.nodup_of_zeroesRead {visited : List (MethodId × Site)}
    (trace : Trace (ZeroesRead f) visited p q) :
    (visited.map fun place => (place.1, place.2.position)).Nodup := by
  induction trace with
  | nil => exact .nil
  | @cons place rest p q r step trace ih =>
    rw [List.map_cons, List.nodup_cons]
    refine ⟨fun again => ?_, ih⟩
    obtain ⟨⟨id, s⟩, member, same⟩ := List.mem_map.mp again
    obtain ⟨i, there, reads, _⟩ := trace.zeroed.1 id s member
    obtain ⟨rfl, position⟩ := Prod.mk.inj same
    exact step.not_reads (position ▸ there) reads

end Program

namespace SubstitutionPlan

variable {plan : SubstitutionPlan}

/-! ### The trace of a plan -/

/-- The places of a plan in the order in which it visits them. -/
def places (plan : SubstitutionPlan) : List (MethodId × Site) :=
  plan.entries.flatMap fun entry => entry.2.reverse.map (entry.1, ·)

theorem mem_places :
    (id, s) ∈ plan.places ↔ ∃ sites, (id, sites) ∈ plan.entries ∧ s ∈ sites := by
  simp only [places, List.mem_flatMap, List.mem_map, List.mem_reverse, Prod.exists]
  constructor
  · rintro ⟨owner, sites, entry, t, member, same⟩
    obtain ⟨rfl, rfl⟩ := Prod.mk.inj same
    exact ⟨sites, entry, member⟩
  · rintro ⟨sites, entry, member⟩
    exact ⟨id, sites, entry, s, member, rfl⟩

theorem applySite_eq_ok (answer : (applySite f id s).run p = (.ok n, q)) :
    n = 1 ∧ ZeroesRead f (id, s) p q := by
  rw [applySite, Edit.run_bind, Edit.run_program] at answer
  cases located : p.locate? id with
  | none => simp [located] at answer
  | some found =>
    obtain ⟨owner, m⟩ := found
    by_cases still : ∃ i ∈ m.code[s.position]?, i.Reads f
    · simp only [located, still, if_true] at answer
      obtain ⟨previous, r, replaced, answer⟩ := Edit.run_bind_eq_ok answer
      obtain ⟨rfl, rfl⟩ := Edit.run_pure_eq_ok answer
      rw [Edit.run_mapError_eq_ok] at replaced
      obtain ⟨i, there, reads⟩ := still
      have before := (replaceInstruction_eq_ok replaced).1
      rw [instruction?_eq (method?_of_locate? located), there] at before
      obtain rfl := Option.some.inj before
      exact ⟨rfl, i, reads, replaced⟩
    · simp only [located, still, if_false] at answer
      simp at answer

/-- A plan that is carried out visits all of its places and counts them. -/
theorem trace_of_run_apply (answer : plan.apply.run p = (.ok n, q)) :
    plan.places.length = n ∧ Trace (ZeroesRead plan.target) plan.places p q := by
  refine Edit.trace_of_run_total _ (fun entry _ p n q answer => ?_) answer
  have inside := Edit.trace_of_run_total (fun s => [(entry.1, s)])
    (fun s _ p n q answer => by
      obtain ⟨rfl, step⟩ := applySite_eq_ok answer
      exact ⟨rfl, .cons step .nil⟩) answer
  rwa [← List.map_eq_flatMap] at inside

/-- The places of a plan are those of the reads that it was collected from. -/
theorem mem_places_collect (wellFormed : p.IsWellFormed) :
    (id, s) ∈ (collect p f).places ↔
      ∃ i, p.instruction? id s.position = some i ∧ i.Reads f ∧ i.dest? = some s.dest := by
  rw [mem_places]
  constructor
  · rintro ⟨sites, entry, member⟩
    obtain ⟨m, found, _, same⟩ := (mem_entries_collect wellFormed).mp entry
    rw [show sites = m.readSites f from same, MethodDecl.mem_readSites] at member
    rwa [instruction?_eq found]
  · rintro ⟨i, there, reads, dest⟩
    obtain ⟨m, found, inCode⟩ := Option.bind_eq_some_iff.mp there
    refine ⟨m.readSites f, (mem_entries_collect wellFormed).mpr ⟨m, found, ?_, rfl⟩, ?_⟩
    · exact ⟨i, List.mem_of_getElem? inCode, reads⟩
    · exact MethodDecl.mem_readSites.mpr ⟨i, inCode, reads, dest⟩

/-! ### Late application -/

/-- Wherever a plan collected a read, it finds one and loads zero into the register that was
recorded. -/
theorem zeroed_of_collected {i₀ : Instruction} (wellFormed : p₀.IsWellFormed)
    (answer : (collect p₀ f).apply.run p = (.ok n, q))
    (collected : p₀.instruction? id k = some i₀) (reads₀ : i₀.Reads f) :
    ∃ i d, i₀.dest? = some d ∧ p.instruction? id k = some i ∧ i.Reads f ∧
      q.instruction? id k = some (.constZero d) := by
  obtain ⟨m, found, inCode⟩ := Option.bind_eq_some_iff.mp collected
  obtain ⟨d, dest, _⟩ :=
    reads₀.exists_dest (wellFormed.instruction found (List.mem_of_getElem? inCode))
  have member : (id, ⟨k, d⟩) ∈ (collect p₀ f).places :=
    (mem_places_collect wellFormed).mpr ⟨i₀, collected, reads₀, dest⟩
  obtain ⟨i, there, reads, zero⟩ := (trace_of_run_apply answer).2.zeroed.1 id ⟨k, d⟩ member
  exact ⟨i, d, dest, there, reads, zero⟩

/-- A plan changes nothing where it collected no read. -/
theorem collected_of_differs (wellFormed : p₀.IsWellFormed)
    (answer : (collect p₀ f).apply.run p = (.ok n, q))
    (different : q.instruction? id k ≠ p.instruction? id k) :
    ∃ i₀, p₀.instruction? id k = some i₀ ∧ i₀.Reads f := by
  obtain ⟨s, member, rfl⟩ : ∃ s, (id, s) ∈ (collect p₀ f).places ∧ s.position = k := by
    by_contra none
    exact different ((trace_of_run_apply answer).2.zeroed.2 id k fun s member here =>
      none ⟨s, member, here⟩)
  obtain ⟨i₀, collected, reads₀, _⟩ := (mem_places_collect wellFormed).mp member
  exact ⟨i₀, collected, reads₀⟩

/-- Whatever a plan changes in a program was a read of its field there, and is now a load of
zero into the register that the read at the same place wrote when the plan was collected. Each
load goes into the register of the read that it replaces if and only if no read that was
collected writes another register now. -/
theorem apply_collect_late {package : Option String} {classes : List ClassDecl}
    (accepted : Program.ofClasses package classes = .ok p₀)
    (answer : (collect p₀ f).apply.run p = (.ok n, q)) :
    (∀ id k, q.instruction? id k ≠ p.instruction? id k →
      ∃ i₀ i d, p₀.instruction? id k = some i₀ ∧ i₀.Reads f ∧ i₀.dest? = some d ∧
        p.instruction? id k = some i ∧ i.Reads f ∧
        q.instruction? id k = some (.constZero d)) ∧
    ((∀ id k i, p.instruction? id k = some i → q.instruction? id k ≠ some i →
      ∃ d, i.dest? = some d ∧ q.instruction? id k = some (.constZero d)) ↔
      ∀ id k i₀ i, p₀.instruction? id k = some i₀ → i₀.Reads f →
        p.instruction? id k = some i → i.dest? = i₀.dest?) := by
  have wellFormed := (Program.ofClasses_eq_ok_iff.mp accepted).2
  have changed : ∀ id k, q.instruction? id k ≠ p.instruction? id k →
      ∃ i₀ i d, p₀.instruction? id k = some i₀ ∧ i₀.Reads f ∧ i₀.dest? = some d ∧
        p.instruction? id k = some i ∧ i.Reads f ∧
        q.instruction? id k = some (.constZero d) := by
    intro id k different
    obtain ⟨i₀, collected, reads₀⟩ := collected_of_differs wellFormed answer different
    obtain ⟨i, d, late⟩ := zeroed_of_collected wellFormed answer collected reads₀
    exact ⟨i₀, i, d, collected, reads₀, late⟩
  refine ⟨changed, ?_, ?_⟩
  · intro correct id k i₀ i collected reads₀ there
    obtain ⟨j, d, dest, there', reads, zero⟩ :=
      zeroed_of_collected wellFormed answer collected reads₀
    obtain rfl := Option.some.inj (there'.symm.trans there)
    -- The load in its place is no read, so this place has changed.
    have different : q.instruction? id k ≠ some j := by
      rw [zero]
      exact fun same => Instruction.not_reads_constInt f (Option.some.inj same ▸ reads)
    obtain ⟨own, ownDest, load⟩ := correct id k j there different
    obtain rfl := Instruction.constZero_inj.mp (Option.some.inj (load.symm.trans zero))
    rw [ownDest, dest]
  · intro kept id k i there different
    obtain ⟨i₀, j, d, collected, reads₀, dest, there', _, zero⟩ := changed id k (there ▸ different)
    obtain rfl := Option.some.inj (there.symm.trans there')
    exact ⟨d, by rw [kept id k i₀ i collected reads₀ there, dest], zero⟩

/-- A plan that is carried out after another instruction of the method has been replaced. -/
theorem apply_collect_late_beside_the_read :
    let f : FieldRef := ⟨⟨"LA;"⟩, "f", .boolean⟩
    let read : Instruction := .staticField (.sget .boolean) ⟨1⟩ f
    let program (last : Instruction) : Program := ⟨none, [⟨⟨"LA;"⟩, none, 0, [],
      [⟨"get", [], .boolean, 0, some ⟨2, 0, [.nop, read, last]⟩⟩]⟩]⟩
    let get : MethodId := ⟨⟨0⟩, 0⟩
    let p₀ := program (.ret ⟨0⟩)
    let p := program (.ret ⟨1⟩)
    Program.ofClasses p₀.package p₀.classes = .ok p₀ ∧ p₀.EditsTo p ∧
      ∃ q, (collect p₀ f).apply.run p = (.ok 1, q) ∧
        q.instruction? get 1 ≠ p.instruction? get 1 ∧
        ∃ i₀ i d, p₀.instruction? get 1 = some i₀ ∧ i₀.Reads f ∧ i₀.dest? = some d ∧
          p.instruction? get 1 = some i ∧ i.Reads f ∧
          q.instruction? get 1 = some (.constZero d) := by
  intro f read program get p₀ p
  have accepted : Program.ofClasses p₀.package p₀.classes = .ok p₀ := rfl
  have answer : (collect p₀ f).apply.run p = (.ok 1, p.zeroReads f) := rfl
  have different : (p.zeroReads f).instruction? get 1 ≠ p.instruction? get 1 := by
    decide +zetaReduce
  exact ⟨accepted, .single (.instruction get 2 (.ret ⟨1⟩)), _, answer, different,
    (apply_collect_late accepted answer).1 get 1 different⟩

/-- A read that has moved to another register since it was collected is replaced by a load into
the register that it had. -/
theorem apply_collect_late_wrong_register :
    let f : FieldRef := ⟨⟨"LA;"⟩, "f", .boolean⟩
    let read (register : Reg) : Instruction := .staticField (.sget .boolean) register f
    let program (i : Instruction) : Program := ⟨none, [⟨⟨"LA;"⟩, none, 0, [],
      [⟨"get", [], .boolean, 0, some ⟨2, 0, [i, .ret ⟨1⟩]⟩⟩]⟩]⟩
    let get : MethodId := ⟨⟨0⟩, 0⟩
    let p₀ := program (read ⟨0⟩)
    let p := program (read ⟨1⟩)
    Program.ofClasses p₀.package p₀.classes = .ok p₀ ∧ p₀.EditsTo p ∧
      ∃ q, (collect p₀ f).apply.run p = (.ok 1, q) ∧
        p.instruction? get 0 = some (read ⟨1⟩) ∧
        q.instruction? get 0 = some (.constZero ⟨0⟩) ∧
        ¬ (∀ id k i, p.instruction? id k = some i → q.instruction? id k ≠ some i →
          ∃ d, i.dest? = some d ∧ q.instruction? id k = some (.constZero d)) := by
  intro f read program get p₀ p
  refine ⟨rfl, .single (.instruction get 0 (read ⟨1⟩)), program (.constZero ⟨0⟩), rfl, rfl, rfl,
    fun correct => ?_⟩
  obtain ⟨d, dest, load⟩ := correct get 0 (read ⟨1⟩) rfl (by decide)
  obtain rfl : ⟨1⟩ = d := Option.some.inj dest
  exact absurd load (by decide)

end SubstitutionPlan

end DexPatch
