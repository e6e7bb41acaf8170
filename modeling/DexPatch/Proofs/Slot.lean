import DexPatch.Instruction.Make
import DexPatch.Proofs.Outline

/-!
# Slots

The two edits that touch a program differ in what they put in place: a whole body, or the
instruction at one position of it. Either is a slot of the body, and both edits go through the same
steps: the method is looked up, then its body, then what stands in the slot, and only then is the
new content checked and put there. So an edit that fails has changed nothing, and one that succeeds
has changed this slot alone.

It can be undone because the old content is accepted where the new one stands. For a body this is
what the program was checked for before. An instruction is checked against the frame and the length
of its body, and no replacement in place changes either.

## Main definitions

* `Slot` — a part of a body that can be replaced, and what makes a replacement undoable
* `Slot.body`, `Slot.instruction` — the two kinds of slots
* `Slot.replace` — replacing what stands in a slot
* `Slot.Answer` — all that a replacement can answer, and the program that it leaves

## Main results

* `replaceBody_eq`, `replaceInstruction_eq` — the two edits replace what stands in a slot
* `Slot.answer_replace` — a replacement answers nothing else
* `Slot.replace_undo` — the previous content can be put back, and leads back to the program
* `replacements_undoable` — the same for the two edits
-/

namespace DexPatch

open Program

variable {α : Type} {p q : Program} {id : MethodId} {m : MethodDecl} {b : Body}

/-- A part of a body that can be replaced: what stands there, whether something may be put there,
and the body with it. What is put there is found there, putting back what stood there gives the
old body, and a well-formed body admits its own content at any time. -/
structure Slot (α : Type) where
  find : MethodRef → Body → Except ProgramError α
  check : Body → α → Except BodyError Unit
  put : Body → α → Body
  find_put {method : MethodRef} {b : Body} {previous : α} (new : α)
    (found : find method b = .ok previous) : find method (put b new) = .ok new
  put_put {method : MethodRef} {b : Body} {previous : α} (new : α)
    (found : find method b = .ok previous) : put (put b new) previous = b
  check_put {method : MethodRef} {b : Body} {previous : α} (new : α) (wellFormed : b.IsWellFormed)
    (found : find method b = .ok previous) : check (put b new) previous = .ok ()

namespace Slot

/-- The body as a whole. -/
def body : Slot Body where
  find _ b := .ok b
  check _ new := new.check
  put _ new := new
  find_put _ _ := rfl
  put_put _ found := (Except.ok.inj found).symm
  check_put _ wellFormed found := by
    rw [← Except.ok.inj found]
    exact Body.check_eq_ok_iff.mpr wellFormed

/-- What stands at a position of a body. -/
def findInstruction (position : Nat) (method : MethodRef) (b : Body) :
    Except ProgramError Instruction :=
  match b.instructions[position]? with
  | none => .error (.positionOutOfBounds method position b.instructions.length)
  | some i => .ok i

theorem findInstruction_eq_ok_iff {position : Nat} {method : MethodRef} {i : Instruction} :
    findInstruction position method b = .ok i ↔ b.instructions[position]? = some i := by
  rw [findInstruction]
  cases b.instructions[position]? <;> simp

/-- The instruction at a position. -/
def instruction (position : Nat) : Slot Instruction where
  find := findInstruction position
  check b i := b.checkInstruction position i
  put b i := b.set position i
  find_put new found := by
    rw [findInstruction_eq_ok_iff] at *
    exact List.getElem?_set_self (List.getElem?_eq_some_iff.mp found).1
  put_put new found := by
    rw [findInstruction_eq_ok_iff] at found
    obtain ⟨inside, rfl⟩ := List.getElem?_eq_some_iff.mp found
    rw [Body.set, Body.set, List.set_set, List.set_getElem_self]
  check_put new wellFormed found := by
    rw [findInstruction_eq_ok_iff] at found
    -- The frame and the number of instructions are all that the check looks at.
    have admits := wellFormed.admits _ (List.mem_of_getElem? found)
    exact Body.checkInstruction_eq_ok_iff.mpr (admits.congr rfl List.length_set)

/-- Replaces what stands in a slot of the body of a method, and answers what stood there. -/
def replace (s : Slot α) (id : MethodId) (new : α) : Edit ProgramError α :=
  ⟨fun p =>
    match p.locate? id with
    | none => (.error (.unknownMethod id), p)
    | some (owner, m) =>
      match m.body with
      | none => (.error (.missingBody (m.ref owner)), p)
      | some b =>
        match s.find (m.ref owner) b with
        | .error e => (.error e, p)
        | .ok previous =>
          match s.check b new with
          | .error cause => (.error (.invalidBody (m.ref owner) cause), p)
          | .ok () => (.ok previous, p.setBody id (s.put b new))⟩

end Slot

theorem replaceBody_eq (id : MethodId) (new : Body) :
    replaceBody id new = Slot.body.replace id new := rfl

theorem replaceInstruction_eq (id : MethodId) (position : Nat) (new : Instruction) :
    replaceInstruction id position new = (Slot.instruction position).replace id new := by
  rw [replaceInstruction, Slot.replace]
  congr 1
  funext p
  cases p.locate? id with
  | none => rfl
  | some located =>
    obtain ⟨owner, m⟩ := located
    cases has : m.body with
    | none => simp [has]
    | some b =>
      cases there : b.instructions[position]? with
      | none => simp [has, there, Slot.instruction, Slot.findInstruction]
      | some i =>
        cases fits : b.checkInstruction position new <;>
          simp [has, there, fits, Slot.instruction, Slot.findInstruction]

/-- The program `q` is `p` but for the body of the method at `id`: this method is `m` in `p` and has
the body `new` in `q`. -/
structure Program.PutsBody (p : Program) (id : MethodId) (m : MethodDecl) (new : Body)
    (q : Program) : Prop where
  there : q.method? id = some { m with body := some new }
  others : ∀ other, other ≠ id → q.method? other = p.method? other
  outline : q.outline = p.outline

namespace Program

variable {r : Program} {new : Body}

theorem outline_setBody {body : Body} (found : p.method? id = some m) (has : m.body.isSome) :
    (p.setBody id body).outline = p.outline :=
  outline_modifyMethod fun n hn => by
    obtain rfl := Option.some.inj (found.symm.trans hn)
    exact MethodDecl.outline_setBody has

theorem putsBody_setBody (found : p.method? id = some m) (has : m.body.isSome) :
    p.PutsBody id m new (p.setBody id new) where
  there := by rw [setBody, method?_modifyMethod_self, found, Option.map_some]
  others _ different := method?_modifyMethod_of_ne different
  outline := outline_setBody found has

theorem setBody_setBody {other : Body} : (p.setBody id other).setBody id new = p.setBody id new :=
  modifyMethod_modifyMethod

theorem setBody_eq_self (found : p.method? id = some m) (has : m.body = some b) :
    p.setBody id b = p := by
  refine modifyMethod_eq_self fun n hn => ?_
  obtain rfl := Option.some.inj (found.symm.trans hn)
  rw [← has]

/-- There is one such program only. -/
theorem PutsBody.unique (first : p.PutsBody id m new q) (second : p.PutsBody id m new r) :
    q = r := by
  refine eq_of_outline_eq (first.outline.trans second.outline.symm) fun other => ?_
  by_cases same : other = id
  · rw [same, first.there, second.there]
  · rw [first.others other same, second.others other same]

end Program

namespace Slot

variable {s : Slot α} {new previous : α} {owner : TypeDesc}

/-- What fits is put in the slot. -/
theorem run_replace (located : p.locate? id = some (owner, m)) (has : m.body = some b)
    (found : s.find (m.ref owner) b = .ok previous) (fits : s.check b new = .ok ()) :
    (s.replace id new).run p = (.ok previous, p.setBody id (s.put b new)) := by
  simp only [replace, located, has, found, fits]

/-- All that a replacement can answer, and the program that it then leaves. Each answer tells why
the earlier ones do not apply. -/
inductive Answer (s : Slot α) (p : Program) (id : MethodId) (new : α) :
    Except ProgramError α → Program → Prop
  | unknownMethod (missing : p.locate? id = none) :
      Answer s p id new (.error (.unknownMethod id)) p
  | missingBody {owner : TypeDesc} {m : MethodDecl} (located : p.locate? id = some (owner, m))
      (bodiless : m.body = none) : Answer s p id new (.error (.missingBody (m.ref owner))) p
  | notThere {owner : TypeDesc} {m : MethodDecl} {b : Body} {e : ProgramError}
      (located : p.locate? id = some (owner, m)) (has : m.body = some b)
      (absent : s.find (m.ref owner) b = .error e) : Answer s p id new (.error e) p
  | invalidBody {owner : TypeDesc} {m : MethodDecl} {b : Body} {previous : α} {cause : BodyError}
      (located : p.locate? id = some (owner, m)) (has : m.body = some b)
      (found : s.find (m.ref owner) b = .ok previous) (refused : s.check b new = .error cause) :
      Answer s p id new (.error (.invalidBody (m.ref owner) cause)) p
  | replaced {owner : TypeDesc} {m : MethodDecl} {b : Body} {previous : α} {q : Program}
      (located : p.locate? id = some (owner, m)) (has : m.body = some b)
      (found : s.find (m.ref owner) b = .ok previous) (fits : s.check b new = .ok ())
      (puts : p.PutsBody id m (s.put b new) q) : Answer s p id new (.ok previous) q

/-- A replacement answers nothing else. -/
theorem answer_replace (s : Slot α) (p : Program) (id : MethodId) (new : α) :
    s.Answer p id new ((s.replace id new).run p).1 ((s.replace id new).run p).2 := by
  cases located : p.locate? id with
  | none =>
    simp only [replace, located]
    exact .unknownMethod located
  | some place =>
    obtain ⟨owner, m⟩ := place
    cases has : m.body with
    | none =>
      simp only [replace, located, has]
      exact .missingBody located has
    | some b =>
      cases found : s.find (m.ref owner) b with
      | error e =>
        simp only [replace, located, has, found]
        exact .notThere located has found
      | ok previous =>
        cases fits : s.check b new with
        | error cause =>
          simp only [replace, located, has, found, fits]
          exact .invalidBody located has found fits
        | ok =>
          simp only [replace, located, has, found, fits]
          exact .replaced located has found fits
            (putsBody_setBody (method?_of_locate? located) (Option.isSome_of_eq_some has))

/-- Something is put in the slot that may stand there, or nothing happens. -/
theorem replace_cases (s : Slot α) (p : Program) (id : MethodId) (new : α) :
    (∃ e, (s.replace id new).run p = (.error e, p)) ∨
      ∃ owner m b previous, p.locate? id = some (owner, m) ∧ m.body = some b ∧
        s.find (m.ref owner) b = .ok previous ∧ s.check b new = .ok () ∧
        (s.replace id new).run p = (.ok previous, p.setBody id (s.put b new)) := by
  have answers := s.answer_replace p id new
  generalize (s.replace id new).run p = outcome at answers ⊢
  obtain ⟨answer, q⟩ := outcome
  cases answers with
  | unknownMethod => exact .inl ⟨_, rfl⟩
  | missingBody => exact .inl ⟨_, rfl⟩
  | notThere => exact .inl ⟨_, rfl⟩
  | invalidBody => exact .inl ⟨_, rfl⟩
  | replaced located has found fits puts =>
    have there := method?_of_locate? located
    obtain rfl := puts.unique (putsBody_setBody there (Option.isSome_of_eq_some has))
    exact .inr ⟨_, _, _, _, located, has, found, fits, rfl⟩

/-- What stood in the slot can be put back, and this leads back to the program. -/
theorem replace_undo (wellFormed : p.IsWellFormed)
    (run : (s.replace id new).run p = (.ok previous, q)) :
    (s.replace id previous).run q = (.ok new, p) := by
  rcases s.replace_cases p id new with
    ⟨e, failed⟩ | ⟨owner, m, b, before, located, has, found, _, done⟩
  · rw [failed] at run
    simp at run
  · rw [done] at run
    obtain ⟨same, rfl⟩ := Prod.mk.inj run
    obtain rfl : before = previous := Except.ok.inj same
    have there := method?_of_locate? located
    -- The second replacement finds the method with `new` in the slot.
    let m' : MethodDecl := { m with body := some (s.put b new) }
    have located' : (p.setBody id (s.put b new)).locate? id = some (owner, m') := by
      rw [setBody, locate?_modifyMethod_self, located, Option.map_some]
    have found' : s.find (m'.ref owner) (s.put b new) = .ok new := s.find_put new found
    have fits' := s.check_put new (wellFormed.body there has) found
    have back : (p.setBody id (s.put b new)).setBody id (s.put (s.put b new) before) = p := by
      rw [setBody_setBody, s.put_put new found, setBody_eq_self there has]
    rw [run_replace located' rfl found' fits', back]

/-- A replacement answers what it should, and can be undone if it succeeds. -/
theorem replace_contract (s : Slot α) (wellFormed : p.IsWellFormed) (id : MethodId) (new : α) :
    ∃ answer q, (s.replace id new).run p = (answer, q) ∧ s.Answer p id new answer q ∧
      ∀ previous, answer = .ok previous → (s.replace id previous).run q = (.ok new, p) := by
  refine ⟨_, _, rfl, s.answer_replace p id new, fun previous done => ?_⟩
  exact replace_undo wellFormed (Prod.ext done rfl)

end Slot

/-- Replacing a body and replacing an instruction answer what they should: they find out first that
there is no such method, then that it has no body, then that the position is out of bounds, and last
that the new content does not fit, and leave the program alone if so. Otherwise they change this
content alone and answer what stood there before, and the same edit with this answer leads back to
the program. -/
theorem replacements_undoable {package : Option String} {classes : List ClassDecl}
    (accepted : Program.ofClasses package classes = .ok p) (id : MethodId) :
    (∀ new, ∃ answer q, (replaceBody id new).run p = (answer, q) ∧
        Slot.body.Answer p id new answer q ∧
        ∀ previous, answer = .ok previous → (replaceBody id previous).run q = (.ok new, p)) ∧
      ∀ position new, ∃ answer q, (replaceInstruction id position new).run p = (answer, q) ∧
        (Slot.instruction position).Answer p id new answer q ∧
        ∀ previous, answer = .ok previous →
          (replaceInstruction id position previous).run q = (.ok new, p) := by
  have wellFormed := (ofClasses_eq_ok_iff.mp accepted).2
  simp only [replaceBody_eq, replaceInstruction_eq]
  exact ⟨Slot.body.replace_contract wellFormed id,
    fun position => (Slot.instruction position).replace_contract wellFormed id⟩

/-- A jump that is replaced and put back, a position behind the end, and a body without code. -/
theorem replacements_undoable_jump :
    let code : List Instruction := [.goto ⟨1⟩, .retVoid]
    let idle : MethodDecl := ⟨"idle", [], .void, 0, some ⟨0, 0, code⟩⟩
    let p : Program := ⟨none, [⟨⟨"LA;"⟩, none, 0, [], [idle]⟩]⟩
    let id : MethodId := ⟨⟨0⟩, 0⟩
    Program.ofClasses p.package p.classes = .ok p ∧
      (∃ q, (replaceInstruction id 0 .nop).run p = (.ok (.goto ⟨1⟩), q) ∧ q ≠ p ∧
        (replaceInstruction id 0 (.goto ⟨1⟩)).run q = (.ok .nop, p)) ∧
      (Slot.instruction 2).Answer p id (.goto ⟨7⟩)
        (.error (.positionOutOfBounds (idle.ref ⟨"LA;"⟩) 2 2)) p ∧
      Slot.body.Answer p id ⟨0, 1, []⟩ (.error (.invalidBody (idle.ref ⟨"LA;"⟩) .empty)) p := by
  intro code idle p id
  have accepted : Program.ofClasses p.package p.classes = .ok p := by decide
  obtain ⟨bodies, instructions⟩ := replacements_undoable accepted id
  refine ⟨accepted, ?_, ?_, ?_⟩
  · obtain ⟨answer, q, run, -, undo⟩ := instructions 0 .nop
    obtain ⟨rfl, rfl⟩ := Prod.mk.inj run
    exact ⟨_, rfl, by decide, undo _ rfl⟩
  · obtain ⟨answer, q, run, answers, -⟩ := instructions 2 (.goto ⟨7⟩)
    obtain ⟨rfl, rfl⟩ := Prod.mk.inj run
    exact answers
  · obtain ⟨answer, q, run, answers, -⟩ := bodies ⟨0, 1, []⟩
    obtain ⟨rfl, rfl⟩ := Prod.mk.inj run
    exact answers

end DexPatch
