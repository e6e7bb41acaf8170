import DexPatch.Program

/-!
# Edits

An edit changes a program and answers something, or stops with an error. Either way it
leaves a program behind: what was changed before the error stays changed.

## Main definitions

* `Edit` — an edit that answers an `α` or stops with an `ε`
* `Edit.total` — a list of edits in order, their answers added up
* `replaceBody`, `replaceInstruction` — the two edits that touch a program; all others
  are made of them

## Main results

* `Edit.run_pure`, `Edit.run_bind`, `Edit.run_total_cons` — how edits compose
-/

namespace DexPatch

/-- A change to a program that answers an `α` or stops with an `ε`. -/
structure Edit (ε α : Type) where
  run : Program → Except ε α × Program

namespace Edit

variable {ε ε' α β : Type}

/-- Stops at once. -/
def fail (e : ε) : Edit ε α := ⟨fun p => (.error e, p)⟩

/-- Answers the program as it stands. -/
def program : Edit ε Program := ⟨fun p => (.ok p, p)⟩

instance : Monad (Edit ε) where
  pure a := ⟨fun p => (.ok a, p)⟩
  bind x f := ⟨fun p =>
    match x.run p with
    | (.ok a, q) => (f a).run q
    | (.error e, q) => (.error e, q)⟩

/-- The same edit with its errors seen as errors of another kind. -/
def mapError (f : ε → ε') (x : Edit ε α) : Edit ε' α :=
  ⟨fun p =>
    match x.run p with
    | (.ok a, q) => (.ok a, q)
    | (.error e, q) => (.error (f e), q)⟩

/-- The edits of a list in order, up to the first that stops; answers the sum. -/
def total (step : α → Edit ε Nat) : List α → Edit ε Nat
  | [] => pure 0
  | a :: rest => do
    let first ← step a
    let others ← total step rest
    return first + others

@[simp]
theorem run_pure (a : α) (p : Program) : (pure a : Edit ε α).run p = (.ok a, p) := rfl

@[simp]
theorem run_fail (e : ε) (p : Program) : (fail e : Edit ε α).run p = (.error e, p) := rfl

@[simp]
theorem run_program (p : Program) : (program : Edit ε Program).run p = (.ok p, p) := rfl

/-- A composed edit goes on from the program that its first part leaves. -/
theorem run_bind (x : Edit ε α) (f : α → Edit ε β) (p : Program) :
    (x >>= f).run p =
      match x.run p with
      | (.ok a, q) => (f a).run q
      | (.error e, q) => (.error e, q) := rfl

/-- Renaming errors leaves the program alone. -/
theorem run_mapError (f : ε → ε') (x : Edit ε α) (p : Program) :
    (x.mapError f).run p = ((x.run p).1.mapError f, (x.run p).2) := by
  simp only [mapError]
  rcases x.run p with ⟨_ | _, q⟩ <;> rfl

@[simp]
theorem total_nil (step : α → Edit ε Nat) : total step [] = pure 0 := rfl

/-- The first edit of a list runs on the program, the others on what it leaves. -/
theorem run_total_cons (step : α → Edit ε Nat) (a : α) (rest : List α) (p : Program) :
    (total step (a :: rest)).run p =
      match (step a).run p with
      | (.error e, q) => (.error e, q)
      | (.ok n, q) => (((total step rest).run q).1.map (n + ·), ((total step rest).run q).2) := by
  rw [total, run_bind]
  rcases (step a).run p with ⟨_ | n, q⟩
  · rfl
  · simp only [run_bind]
    rcases (total step rest).run q with ⟨_ | _, r⟩ <;> rfl

end Edit

namespace Program

/-- The program with the method at `id` replaced by what `f` makes of it. -/
def modifyMethod (p : Program) (id : MethodId) (f : MethodDecl → MethodDecl) : Program :=
  { p with
    classes := p.classes.modify id.owner.index fun c =>
      { c with methods := c.methods.modify id.index f } }

/-- The program with `body` as the body of the method at `id`. -/
def setBody (p : Program) (id : MethodId) (body : Body) : Program :=
  p.modifyMethod id fun m => { m with body := some body }

end Program

/-- Puts a body in place of that of a method and answers the previous one. The method
must have a body already, and the new one must pass its checks. -/
def replaceBody (id : MethodId) (body : Body) : Edit ProgramError Body :=
  ⟨fun p =>
    match p.locate? id with
    | none => (.error (.unknownMethod id), p)
    | some (owner, m) =>
      match m.body with
      | none => (.error (.missingBody (m.ref owner)), p)
      | some previous =>
        match body.check with
        | .error cause => (.error (.invalidBody (m.ref owner) cause), p)
        | .ok () => (.ok previous, p.setBody id body)⟩

/-- Puts an instruction in place of the one at a position and answers the previous one.
Only the new instruction is checked, as one of the body that it enters. -/
def replaceInstruction (id : MethodId) (position : Nat) (i : Instruction) :
    Edit ProgramError Instruction :=
  ⟨fun p =>
    match p.locate? id with
    | none => (.error (.unknownMethod id), p)
    | some (owner, m) =>
      match m.body with
      | none => (.error (.missingBody (m.ref owner)), p)
      | some body =>
        match body.instructions[position]? with
        | none =>
          (.error (.positionOutOfBounds (m.ref owner) position body.instructions.length), p)
        | some previous =>
          match body.checkInstruction position i with
          | .error cause => (.error (.invalidBody (m.ref owner) cause), p)
          | .ok () => (.ok previous, p.setBody id (body.set position i))⟩

end DexPatch
