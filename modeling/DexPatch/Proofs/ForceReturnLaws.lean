import DexPatch.Proofs.ForcedReturn

/-!
# The laws of forced returns

A forced return looks at one method and touches no other. What stops it is found out before
anything is changed, and nothing stops it after that: the minimal body is a valid one for every
value, in every frame that was valid before. A frame without registers grows to hold the value,
and then the next call finds a larger frame than the first one did. It leaves the same body
nevertheless, since values of the same kind need the same frame.

## Main definitions

* `ReturnValue.IsReturnedBy` — code that returns a value and does nothing else
* `Body.MinimalFor` — what the minimal body keeps of the body that it replaces
* `Edit.IsAbout` — an edit of one method, which depends on that method alone
* `Program.ForceAnswer` — all that a forced return can answer, and what it then leaves

## Main results

* `minimalFor_minimalBody` — the minimal body keeps the place of each argument
* `Edit.IsAbout.comm` — edits of two methods commute
* `forceAnswer_of_run` — a forced return answers nothing else
* `forceReturn_contract` — what one call does, and three laws for two calls
-/

namespace DexPatch

open Program

variable {p q : Program} {id other : MethodId} {m : MethodDecl} {b : Body}
  {value w : ReturnValue}

/-! ### The code and the frame -/

/-- The integer that stands for the value in a register. -/
def ReturnValue.literal? : ReturnValue → Option Int
  | .void => none
  | .boolean b => some (if b then 1 else 0)
  | .integer v => some v.toInt
  | .null => some 0

/-- The instruction that returns the value from the first register. -/
def ReturnValue.final : ReturnValue → Instruction
  | .void => .retVoid
  | .null => .retObject ⟨0⟩
  | .boolean _ | .integer _ => .ret ⟨0⟩

/-- Code that does nothing but return the value, once it is in the first register. -/
inductive ReturnValue.IsReturnedBy (value : ReturnValue) : List Instruction → Prop
  | void (nothing : value = .void) : IsReturnedBy value [.retVoid]
  | loaded {op : Opcode} {n : Int} (stands : value.literal? = some n)
      (loads : op.category = .literalLoad) :
      IsReturnedBy value [⟨op, [⟨0⟩], .literal n⟩, value.final]

theorem isReturnedBy_returnCode : value.IsReturnedBy (returnCode value) := by
  have loads (n : Int) : (Instruction.constOpcode ⟨0⟩ n).category = .literalLoad := by
    rcases Instruction.constOpcode_cases ⟨0⟩ n with ⟨op, _⟩ | ⟨op, _⟩ | op <;> rw [op] <;> rfl
  cases value with
  | void => exact .void rfl
  | boolean b => exact .loaded (by cases b <;> rfl) (loads _)
  | integer v => exact .loaded rfl (loads _)
  | null => exact .loaded rfl (loads _)

/-- The registers that hold the arguments on entry: the last ones of the frame. -/
def Body.arguments (b : Body) : List Nat :=
  (List.range b.ins.toNat).map (b.registers.toNat - b.ins.toNat + ·)

theorem arguments_minimalBody (ins_le : b.ins ≤ b.registers) :
    (minimalBody value b.registers b.ins).arguments = b.arguments := by
  by_cases void : value = .void
  · rw [Body.arguments, minimalBody, if_pos void, Body.arguments]
  · rw [Body.arguments, registers_minimalBody void]
    rcases max_one_cases b.registers with ⟨grown, small⟩ | ⟨same, _⟩
    · rw [grown]
      change (List.range b.ins.toNat).map _ = (List.range b.ins.toNat).map _
      -- A frame that grows had no registers, and so no arguments.
      rw [UInt16.le_iff_toNat_le] at ins_le small
      rcases Nat.le_one_iff_eq_zero_or_eq_one.mp small with none | one
      · have empty : b.ins.toNat = 0 := by omega
        simp [empty]
      · rw [one]
        rfl
    · rw [same]
      rfl

/-- The body `b'` returns the value as simply as possible, in the frame of `b`. -/
structure Body.MinimalFor (value : ReturnValue) (b b' : Body) : Prop where
  eq : b' = minimalBody value b.registers b.ins
  accepted : b'.check = .ok ()
  code : value.IsReturnedBy b'.instructions
  ins : b'.ins = b.ins
  arguments : b'.arguments = b.arguments

theorem minimalFor_minimalBody (wellFormed : b.IsWellFormed) :
    b.MinimalFor value (minimalBody value b.registers b.ins) where
  eq := rfl
  accepted := Body.check_eq_ok_iff.mpr (isWellFormed_minimalBody wellFormed.ins_le)
  code := isReturnedBy_returnCode
  ins := rfl
  arguments := arguments_minimalBody wellFormed.ins_le

/-! ### Edits of one method -/

/-- The edit depends on the method at `id` and on the type of its class, and changes no other
method. -/
def Edit.IsAbout {ε α : Type} (id : MethodId) (x : Edit ε α) : Prop :=
  ∀ p : Program, ∃ answer change,
    ∀ q : Program, q.locate? id = p.locate? id → x.run q = (answer, q.modifyMethod id change)

/-- Edits of two methods do not see each other. -/
theorem Edit.IsAbout.comm {ε ε' α β : Type} {x : Edit ε α} {y : Edit ε' β}
    (first : x.IsAbout id) (second : y.IsAbout other) (different : other ≠ id) (p : Program) :
    ∃ both, y.run (x.run p).2 = ((y.run p).1, both) ∧ x.run (y.run p).2 = ((x.run p).1, both) := by
  obtain ⟨answer, f, ofFirst⟩ := first p
  obtain ⟨answer', g, ofSecond⟩ := second p
  refine ⟨(p.modifyMethod id f).modifyMethod other g, ?_, ?_⟩
  · rw [ofFirst p rfl, ofSecond p rfl, ofSecond _ (locate?_modifyMethod_of_ne different)]
  · rw [ofFirst p rfl, ofSecond p rfl, ofFirst _ (locate?_modifyMethod_of_ne different.symm),
      modifyMethod_comm different]

namespace Edit.IsAbout

variable {ε ε' α β : Type} {x : Edit ε α}

/-- An edit that leaves the program alone is about any method. -/
theorem of_unchanged {answer : Except ε α} (unchanged : ∀ q, x.run q = (answer, q)) :
    x.IsAbout id := fun _ => ⟨answer, fun m => m, fun q _ => by
  rw [unchanged, modifyMethod_eq_self fun _ _ => rfl]⟩

/-- It is enough to know what the edit does once it has found the method. -/
theorem of_locate (found : ∀ located, ∃ y : Edit ε α, y.IsAbout id ∧
    ∀ q : Program, q.locate? id = located → x.run q = y.run q) : x.IsAbout id := by
  intro p
  obtain ⟨y, about, agree⟩ := found (p.locate? id)
  obtain ⟨answer, change, run⟩ := about p
  exact ⟨answer, change, fun q same => by rw [agree q same, run q same]⟩

theorem mapError (about : x.IsAbout id) (f : ε → ε') : (x.mapError f).IsAbout id := by
  intro p
  obtain ⟨answer, change, run⟩ := about p
  exact ⟨answer.mapError f, change, fun q same => by rw [run_mapError, run q same]⟩

/-- Two edits of one method, one after the other. -/
theorem bind {next : α → Edit ε β} (about : x.IsAbout id) (later : ∀ a, (next a).IsAbout id) :
    (x >>= next).IsAbout id := by
  intro p
  obtain ⟨answer, f, run⟩ := about p
  cases answer with
  | error e => exact ⟨.error e, f, fun q same => by rw [run_bind, run q same]⟩
  | ok a =>
    obtain ⟨answer, g, run'⟩ := later a (p.modifyMethod id f)
    refine ⟨answer, g ∘ f, fun q same => ?_⟩
    -- Programs that agree on the method before the first edit agree on it afterwards.
    have found : (q.modifyMethod id f).locate? id = (p.modifyMethod id f).locate? id := by
      rw [locate?_modifyMethod_self, locate?_modifyMethod_self, same]
    simp only [run_bind, run q same, run' _ found, modifyMethod_modifyMethod]

end Edit.IsAbout

theorem isAbout_replaceBody (id : MethodId) (body : Body) : (replaceBody id body).IsAbout id := by
  refine .of_locate fun located => ?_
  have refused (e : ProgramError) : (Edit.fail e : Edit ProgramError Body).IsAbout id :=
    .of_unchanged fun _ => rfl
  cases located with
  | none => exact ⟨_, refused (.unknownMethod id), fun q there => by simp [replaceBody, there]⟩
  | some found =>
    obtain ⟨owner, m⟩ := found
    cases has : m.body with
    | none =>
      exact ⟨_, refused (.missingBody (m.ref owner)), fun q there => by
        simp [replaceBody, there, has]⟩
    | some b =>
      cases checked : body.check with
      | error cause =>
        exact ⟨_, refused (.invalidBody (m.ref owner) cause), fun q there => by
          simp [replaceBody, there, has, checked]⟩
      | ok =>
        exact ⟨⟨fun q => (.ok b, q.setBody id body)⟩, fun _ => ⟨_, _, fun _ _ => rfl⟩,
          fun q there => by simp [replaceBody, there, has, checked]⟩

theorem isAbout_forceReturn (id : MethodId) (value : ReturnValue) :
    (forceReturn id value).IsAbout id := by
  refine .of_locate fun located => ?_
  obtain ⟨rest, step, run⟩ := exists_forceStep id value located
  refine ⟨rest, ?_, run⟩
  -- All but the last case leave the program alone.
  cases step with
  | unknownMethod => exact .of_unchanged fun _ => rfl
  | returnKindMismatch _ => exact .of_unchanged fun _ => rfl
  | missingBody _ _ => exact .of_unchanged fun _ => rfl
  | unchanged _ _ _ => exact .of_unchanged fun _ => rfl
  | changed _ _ _ =>
    exact ((isAbout_replaceBody id _).mapError _).bind fun _ => .of_unchanged fun _ => rfl

/-! ### What a call answers -/

/-- All that a forced return can answer, and the program that it then leaves. Each answer tells
why the earlier ones do not apply. -/
inductive Program.ForceAnswer (p : Program) (id : MethodId) (value : ReturnValue) :
    Except EditError ForceOutcome → Program → Prop
  | unknownMethod (missing : p.locate? id = none) :
      p.ForceAnswer id value (.error (.program (.unknownMethod id))) p
  | returnKindMismatch {owner : TypeDesc} {m : MethodDecl}
      (located : p.locate? id = some (owner, m)) (kind : value.kind ≠ m.returnKind) :
      p.ForceAnswer id value (.error (.returnKindMismatch (m.ref owner) m.returnKind value)) p
  | missingBody {owner : TypeDesc} {m : MethodDecl} (located : p.locate? id = some (owner, m))
      (kind : value.kind = m.returnKind) (none : m.body = none) :
      p.ForceAnswer id value (.error (.missingBody (m.ref owner))) p
  | forced {owner : TypeDesc} {m : MethodDecl} {b b' : Body} {q : Program}
      (located : p.locate? id = some (owner, m)) (kind : value.kind = m.returnKind)
      (has : m.body = some b) (minimal : b.MinimalFor value b')
      (there : q.method? id = some { m with body := some b' })
      (others : ∀ other, other ≠ id → q.method? other = p.method? other)
      (outline : q.outline = p.outline) :
      p.ForceAnswer id value (.ok (if q = p then .unchanged else .changed)) q

/-- A forced return of a well-formed program answers nothing else. -/
theorem forceAnswer_of_run {answer : Except EditError ForceOutcome} (wellFormed : p.IsWellFormed)
    (answered : (forceReturn id value).run p = (answer, q)) : p.ForceAnswer id value answer q := by
  obtain ⟨rest, step, run⟩ := exists_forceStep id value (p.locate? id)
  have same := answered
  rw [run p rfl] at same
  generalize located : p.locate? id = found at step
  -- Both outcomes without an error are the same to this statement.
  have forced {owner : TypeDesc} {m : MethodDecl} {b : Body}
      (located : p.locate? id = some (owner, m)) (kind : value.kind = m.returnKind)
      (has : m.body = some b) : p.ForceAnswer id value answer q := by
    have found := method?_of_locate? located
    rw [run_forceReturn wellFormed found kind (has ▸ rfl)] at answered
    obtain ⟨rfl, rfl⟩ := Prod.mk.inj answered
    simp only [← modifyMethod_eq_self_iff (f := (·.forced value)) found]
    refine .forced located kind has (minimalFor_minimalBody (wellFormed.body found has)) ?_ ?_ ?_
    · rw [method?_modifyMethod_self, found, Option.map_some, MethodDecl.forced, has,
        Option.map_some]
    · exact fun other different => method?_modifyMethod_of_ne different
    · exact outline_modifyMethod fun _ _ => MethodDecl.outline_forced
  cases step with
  | unknownMethod =>
    obtain ⟨rfl, rfl⟩ := Prod.mk.inj same
    exact .unknownMethod located
  | returnKindMismatch kind =>
    obtain ⟨rfl, rfl⟩ := Prod.mk.inj same
    exact .returnKindMismatch located kind
  | missingBody kind none =>
    obtain ⟨rfl, rfl⟩ := Prod.mk.inj same
    exact .missingBody located kind none
  | unchanged kind has _ => exact forced located kind has
  | changed kind has _ => exact forced located kind has

/-! ### Two calls -/

section TwoCalls

variable {outcome : ForceOutcome} (wellFormed : p.IsWellFormed)
  (run : (forceReturn id value).run p = (.ok outcome, q))
include wellFormed run

theorem isWellFormed_of_run_forceReturn : q.IsWellFormed := by
  have kept := (usesMutators_forceReturn id value p).isWellFormed wellFormed
  rwa [run] at kept

/-- The same call again finds nothing to do. -/
theorem run_forceReturn_again : (forceReturn id value).run q = (.ok .unchanged, q) := by
  have good := isWellFormed_of_run_forceReturn wellFormed run
  obtain ⟨m, found, kind, has, rfl⟩ := (exists_run_forceReturn_iff wellFormed).mp ⟨outcome, run⟩
  have after : (p.modifyMethod id (·.forced value)).method? id = some (m.forced value) := by
    rw [method?_modifyMethod_self, found, Option.map_some]
  have done : (m.forced value).forced value = m.forced value := MethodDecl.forced_forced
  have again := run_forceReturn good after kind (by simpa [MethodDecl.forced] using has)
  rwa [if_pos done, (modifyMethod_eq_self_iff after).mpr done] at again

/-- A later call has its way as if there had been no earlier one. -/
theorem exists_run_forceReturn_later (r : Program) :
    (∃ later, (forceReturn id w).run q = (.ok later, r)) ↔
      ∃ later, (forceReturn id w).run p = (.ok later, r) := by
  rw [exists_run_forceReturn_iff wellFormed,
    exists_run_forceReturn_iff (isWellFormed_of_run_forceReturn wellFormed run)]
  obtain ⟨m, found, kind, has, rfl⟩ := (exists_run_forceReturn_iff wellFormed).mp ⟨outcome, run⟩
  have after : (p.modifyMethod id (·.forced value)).method? id = some (m.forced value) := by
    rw [method?_modifyMethod_self, found, Option.map_some]
  have has' : (m.forced value).body.isSome := by simpa [MethodDecl.forced] using has
  -- Both values are of the method's kind, so they need the same frame.
  have wins (same : w.kind = m.returnKind) :
      (p.modifyMethod id (·.forced value)).modifyMethod id (·.forced w) =
        p.modifyMethod id (·.forced w) := by
    rw [modifyMethod_modifyMethod]
    refine modifyMethod_congr fun n _ => ?_
    exact MethodDecl.forced_forced_of_kind (kind.trans same.symm)
  constructor
  · rintro ⟨n, there, same, _, rfl⟩
    obtain rfl := Option.some.inj (after.symm.trans there)
    exact ⟨m, found, same, has, wins same⟩
  · rintro ⟨n, there, same, _, rfl⟩
    obtain rfl := Option.some.inj (found.symm.trans there)
    exact ⟨_, after, same, has', (wins same).symm⟩

end TwoCalls

/-- A forced return answers what it should and leaves the program that it should. If it succeeds,
the same call again changes nothing, and a later call for the same method has its way as if there
had been no earlier one. Calls for two methods may be made in either order, whether they succeed
or not. -/
theorem forceReturn_contract {package : Option String} {classes : List ClassDecl}
    (accepted : Program.ofClasses package classes = .ok p) (id : MethodId) (value : ReturnValue) :
    ∃ answer q, (forceReturn id value).run p = (answer, q) ∧ p.ForceAnswer id value answer q ∧
      (∀ outcome, answer = .ok outcome →
        (forceReturn id value).run q = (.ok .unchanged, q) ∧
        ∀ w r, (∃ later, (forceReturn id w).run q = (.ok later, r)) ↔
          ∃ later, (forceReturn id w).run p = (.ok later, r)) ∧
      ∀ other w, other ≠ id → ∃ both,
        (forceReturn other w).run q = (((forceReturn other w).run p).1, both) ∧
        (forceReturn id value).run ((forceReturn other w).run p).2 = (answer, both) := by
  have wellFormed := (Program.ofClasses_eq_ok_iff.mp accepted).2
  rcases run : (forceReturn id value).run p with ⟨answer, q⟩
  refine ⟨answer, q, rfl, forceAnswer_of_run wellFormed run, ?_, ?_⟩
  · rintro outcome rfl
    exact ⟨run_forceReturn_again wellFormed run,
      fun w r => exists_run_forceReturn_later wellFormed run r⟩
  · intro other w different
    have both := (isAbout_forceReturn id value).comm (isAbout_forceReturn other w) different p
    rwa [run] at both

/-- A method without registers, which gets one with the first value and keeps it for the second,
next to a method that is called with an argument. -/
theorem forceReturn_contract_empty_frame :
    let answer : MethodDecl := ⟨"answer", [], .boolean, 0, some ⟨0, 0, [.nop]⟩⟩
    let report : MethodDecl := ⟨"report", [], .void, 0, some ⟨1, 1, [.nop, .retVoid]⟩⟩
    let p : Program := ⟨none, [⟨⟨"LA;"⟩, none, 0, [], [answer, report]⟩]⟩
    let first : MethodId := ⟨⟨0⟩, 0⟩
    let second : MethodId := ⟨⟨0⟩, 1⟩
    Program.ofClasses p.package p.classes = .ok p ∧ second ≠ first ∧
      ∃ q both,
        (forceReturn first (.boolean true)).run p = (.ok .changed, q) ∧
        p.ForceAnswer first (.boolean true) (.ok .changed) q ∧
        (forceReturn first (.boolean true)).run q = (.ok .unchanged, q) ∧
        (∀ r, (∃ later, (forceReturn first (.boolean false)).run q = (.ok later, r)) ↔
          ∃ later, (forceReturn first (.boolean false)).run p = (.ok later, r)) ∧
        (forceReturn second .void).run q = (.ok .changed, both) ∧
        (forceReturn first (.boolean true)).run ((forceReturn second .void).run p).2 =
          (.ok .changed, both) := by
  intro answer report p first second
  have accepted : Program.ofClasses p.package p.classes = .ok p := rfl
  have different : second ≠ first := by decide
  obtain ⟨said, q, run, answers, laws, apart⟩ :=
    forceReturn_contract accepted first (.boolean true)
  obtain rfl : said = .ok .changed := (congrArg Prod.fst run).symm
  obtain ⟨again, later⟩ := laws .changed rfl
  obtain ⟨both, after, before⟩ := apart second .void different
  exact ⟨accepted, different, q, both, run, answers, again, later _, after, before⟩

end DexPatch
