import DexPatch.Proofs.Mutation

/-!
# Edit histories

Everything that can be done to a program, in any order and with any arguments. An operation
may be refused, and some may fail after a part of their work is done; the program that is
left behind has passed its checks again in each case, and only its code has changed.

## Main definitions

* `Operation` — one thing that can be done to a program
* `replay` — what a list of operations makes of a program

## Main results

* `replay_editsTo` — a history is a sequence of mutations
* `replay_preserves` — the checks and the outline hold after every part of a history
-/

namespace DexPatch

variable {p : Program}

/-- Something done to a program. A substitution either collects its reads in the program
that it edits or carries out a plan from elsewhere, which may name any places at all. -/
inductive Operation
  | replaceBody (id : MethodId) (body : Body)
  | replaceInstruction (id : MethodId) (position : Nat) (i : Instruction)
  | forceReturn (id : MethodId) (value : ReturnValue)
  | substitute (target : FieldRef)
  | applyPlan (plan : SubstitutionPlan)
  | runPatches (patches : List Patch) (usesMutators : ∀ patch ∈ patches, patch.UsesMutators)
    (config : Config) (options : RunOptions)

namespace Operation

/-- The program that the operation leaves behind, whatever its answer. -/
def perform (p : Program) : Operation → Program
  | replaceBody id body => ((DexPatch.replaceBody id body).run p).2
  | replaceInstruction id position i => ((DexPatch.replaceInstruction id position i).run p).2
  | forceReturn id value => ((DexPatch.forceReturn id value).run p).2
  | substitute target => ((SubstitutionPlan.collect p target).apply.run p).2
  | applyPlan plan => (plan.apply.run p).2
  | runPatches patches _ config options => ((DexPatch.runPatches patches config options).run p).2

theorem perform_editsTo (o : Operation) (p : Program) : p.EditsTo (o.perform p) := by
  cases o with
  | replaceBody id body => exact usesMutators_replaceBody id body p
  | replaceInstruction id position i => exact usesMutators_replaceInstruction id position i p
  | forceReturn id value => exact usesMutators_forceReturn id value p
  | substitute target => exact usesMutators_apply (SubstitutionPlan.collect p target) p
  | applyPlan plan => exact usesMutators_apply plan p
  | runPatches patches uses config options => exact usesMutators_runPatches uses config options p

end Operation

/-- The program after the operations, in order. -/
def replay (history : List Operation) (p : Program) : Program :=
  history.foldl Operation.perform p

/-- A history is a sequence of mutations. -/
theorem replay_editsTo (history : List Operation) (p : Program) :
    p.EditsTo (replay history p) := by
  induction history generalizing p with
  | nil => exact .refl
  | cons o rest ih => exact (o.perform_editsTo p).trans (ih (o.perform p))

/-- After every part of a history the program passes its checks, and it is the program of
the start but for the code of bodies that were there already. -/
theorem replay_preserves {package : Option String} {classes : List ClassDecl}
    (accepted : Program.ofClasses package classes = .ok p) (history : List Operation) (n : Nat) :
    (replay (history.take n) p).check = .ok () ∧
      (replay (history.take n) p).outline = p.outline := by
  have wellFormed := (Program.ofClasses_eq_ok_iff.mp accepted).2
  have steps := replay_editsTo (history.take n) p
  exact ⟨Program.check_eq_ok_iff.mpr (steps.isWellFormed wellFormed), steps.outline_eq⟩

/-- A changed literal, a body that is refused, a forced return, a plan for a place that is not
there, and a run. -/
theorem replay_preserves_five_operations :
    let getter : MethodDecl := ⟨"get", [], .boolean, 0, some ⟨1, 0, [.constZero ⟨0⟩, .ret ⟨0⟩]⟩⟩
    let p : Program := ⟨none, [⟨⟨"LA;"⟩, none, 0, [], [getter]⟩]⟩
    let get : MethodId := ⟨⟨0⟩, 0⟩
    let stale : SubstitutionPlan := ⟨⟨⟨"LA;"⟩, "f", .boolean⟩, [(get, [⟨7, ⟨0⟩⟩])]⟩
    let history : List Operation :=
      [.replaceInstruction get 0 (.constInt ⟨0⟩ 1), .replaceBody get ⟨0, 1, []⟩,
        .forceReturn get (.boolean false), .applyPlan stale,
        .runPatches Builtin.patches Builtin.usesMutators {} {}]
    Program.ofClasses p.package p.classes = .ok p ∧
      (replay (history.take 5) p).check = .ok () ∧
      (replay (history.take 5) p).outline = p.outline := by
  intro getter p get stale history
  have accepted : Program.ofClasses p.package p.classes = .ok p := rfl
  exact ⟨accepted, replay_preserves accepted history 5⟩

end DexPatch
