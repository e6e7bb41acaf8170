import DexPatch.Proofs.Mutation

/-!
# Traces

What an edit does can be followed step by step: which bodies it puts in place, and which
instructions. A step changes what is found at one place alone, so if no place is visited twice
the places of a trace are exactly those at which the two programs differ.

## Main definitions

* `Program.instruction?` — the instruction at a place
* `Program.Trace` — steps at some places, one after the other
* `Program.ReplacesBody`, `Program.ReplacesInstruction` — a body or an instruction is replaced by
  another one

## Main results

* `Program.Trace.mem_iff` — the places visited are those that differ
* `Edit.exists_trace` — the trace of a list of edits is made of those of its edits
-/

namespace DexPatch

variable {p q r : Program} {id other : MethodId} {m : MethodDecl} {b : Body} {k position : Nat}
  {i j : Instruction}

namespace Program

/-! ### Instructions by place -/

/-- The instruction at a position of the method at `id`. -/
def instruction? (p : Program) (id : MethodId) (k : Nat) : Option Instruction :=
  (p.method? id).bind fun m => m.code[k]?

theorem instruction?_eq (found : p.method? id = some m) : p.instruction? id k = m.code[k]? := by
  rw [instruction?, found, Option.bind_some]

theorem instruction?_congr (same : q.method? id = p.method? id) :
    q.instruction? id k = p.instruction? id k := by
  rw [instruction?, instruction?, same]

/-! ### Steps -/

/-- The two programs look different at `a` and nowhere else. -/
structure ChangesOnly {α β : Type} (view : Program → α → β) (a : α) (p q : Program) : Prop where
  changed : view q a ≠ view p a
  others : ∀ c, c ≠ a → view q c = view p c

/-- A body that differs from the one before is put in place. -/
def ReplacesBody (id : MethodId) (p q : Program) : Prop :=
  ∃ body previous, (replaceBody id body).run p = (.ok previous, q) ∧ body ≠ previous

/-- An instruction that differs from the one before is put in place. -/
def ReplacesInstruction (place : MethodId × Nat) (p q : Program) : Prop :=
  ∃ i previous, (replaceInstruction place.1 place.2 i).run p = (.ok previous, q) ∧ i ≠ previous

/-- What is found at a place that is named by method and position. -/
def atPlace (p : Program) (place : MethodId × Nat) : Option Instruction :=
  p.instruction? place.1 place.2

end Program

open Program

/-! ### Replacements that succeed -/

/-- A body that is replaced was that of its method. -/
theorem replaceBody_eq_ok {body : Body} (answer : (replaceBody id body).run p = (.ok b, q)) :
    ∃ m, p.method? id = some m ∧ m.body = some b ∧ q = p.setBody id body := by
  rcases replaceBody_cases id body p with ⟨e, refused⟩ | ⟨m, previous, found, has, _, done⟩
  · rw [refused] at answer
    simp at answer
  · rw [done] at answer
    obtain ⟨same, rfl⟩ := Prod.mk.inj answer
    obtain rfl := Except.ok.inj same
    exact ⟨m, found, has, rfl⟩

/-- A replacement that succeeds changes the instruction at its place and nothing else. -/
theorem replaceInstruction_eq_ok
    (answer : (replaceInstruction id position i).run p = (.ok j, q)) :
    p.instruction? id position = some j ∧ q.instruction? id position = some i ∧
      ∀ other k, (other, k) ≠ (id, position) →
        q.instruction? other k = p.instruction? other k := by
  rcases replaceInstruction_cases id position i p with
    ⟨e, refused⟩ | ⟨m, b, previous, found, has, there, _, done⟩
  · rw [refused] at answer
    simp at answer
  · rw [done] at answer
    obtain ⟨same, rfl⟩ := Prod.mk.inj answer
    obtain rfl := Except.ok.inj same
    have after : (p.setBody id (b.set position i)).method? id =
        some { m with body := some (b.set position i) } := by
      rw [setBody, method?_modifyMethod_self, found, Option.map_some]
    have code := MethodDecl.code_eq has
    refine ⟨by rw [instruction?_eq found, code, there], ?_, fun other k apart => ?_⟩
    · obtain ⟨inside, _⟩ := List.getElem?_eq_some_iff.mp there
      rw [instruction?_eq after]
      exact List.getElem?_set_self inside
    · by_cases same : other = id
      · subst same
        have different : position ≠ k := fun h => apart (by rw [h])
        rw [instruction?_eq after, instruction?_eq found, code]
        exact List.getElem?_set_ne different
      · exact instruction?_congr (method?_modifyMethod_of_ne same)

namespace Program

theorem ReplacesBody.changesOnly (step : ReplacesBody id p q) : ChangesOnly method? id p q := by
  obtain ⟨body, previous, answer, new⟩ := step
  obtain ⟨m, found, has, rfl⟩ := replaceBody_eq_ok answer
  refine ⟨?_, fun c apart => method?_modifyMethod_of_ne apart⟩
  rw [setBody, method?_modifyMethod_self, found, Option.map_some]
  intro unchanged
  have bodies := congrArg MethodDecl.body (Option.some.inj unchanged)
  exact new (Option.some.inj (bodies.trans has))

theorem ReplacesInstruction.changesOnly {place : MethodId × Nat}
    (step : ReplacesInstruction place p q) : ChangesOnly atPlace place p q := by
  obtain ⟨i, previous, answer, new⟩ := step
  obtain ⟨before, after, others⟩ := replaceInstruction_eq_ok answer
  refine ⟨?_, fun c apart => others c.1 c.2 apart⟩
  rw [atPlace, atPlace, before, after]
  exact fun same => new (Option.some.inj same)

/-! ### Sequences of steps -/

variable {α β : Type} {R S : α → Program → Program → Prop} {a : α} {places later : List α}
  {view : Program → α → β}

/-- Steps at the listed places, one after the other. -/
inductive Trace (R : α → Program → Program → Prop) : List α → Program → Program → Prop
  | nil {p : Program} : Trace R [] p p
  | cons {a : α} {rest : List α} {p q r : Program} (step : R a p q) (trace : Trace R rest q r) :
    Trace R (a :: rest) p r

theorem Trace.append (first : Trace R places p q) (second : Trace R later q r) :
    Trace R (places ++ later) p r := by
  induction first with
  | nil => exact second
  | cons step _ ih => exact .cons step (ih second)

theorem Trace.map {γ : Type} {T : γ → Program → Program → Prop} {f : α → γ}
    (each : ∀ a p q, R a p q → T (f a) p q) (trace : Trace R places p q) :
    Trace T (places.map f) p q := by
  induction trace with
  | nil => exact .nil
  | cons step _ ih => exact .cons (each _ _ _ step) ih

/-- If no place is visited twice, the places visited are those that differ. -/
theorem Trace.mem_iff (trace : Trace R places p q) (distinct : places.Nodup)
    (each : ∀ a p q, R a p q → ChangesOnly view a p q) :
    a ∈ places ↔ view q a ≠ view p a := by
  induction trace with
  | nil => simp
  | @cons c rest p q r step _ ih =>
    obtain ⟨fresh, distinct⟩ := List.nodup_cons.mp distinct
    have rest := ih distinct
    have local' := each c p q step
    by_cases here : a = c
    · subst here
      have kept : view r a = view q a := not_not.mp (mt rest.mpr fresh)
      rw [kept]
      exact iff_of_true List.mem_cons_self local'.changed
    · rw [List.mem_cons, or_iff_right here, rest, local'.others a here]

/-- Without any place a trace leads nowhere, and with one it leads to another program. -/
theorem Trace.length_eq_zero_iff (trace : Trace R places p q) (distinct : places.Nodup)
    (each : ∀ a p q, R a p q → ChangesOnly view a p q) : places.length = 0 ↔ q = p := by
  rw [List.length_eq_zero_iff]
  constructor
  · rintro rfl
    cases trace
    rfl
  · rintro rfl
    refine List.eq_nil_iff_forall_not_mem.mpr fun a member => ?_
    exact (trace.mem_iff distinct each).mp member rfl

end Program

namespace Edit

variable {ε ε' α β : Type} {step : α → Edit ε Nat} {list : List α} {a : α} {n : Nat}

theorem run_pure_eq_ok {c : α} (answer : (pure a : Edit ε α).run p = (.ok c, q)) :
    a = c ∧ p = q := by
  obtain ⟨same, rfl⟩ := Prod.mk.inj answer
  exact ⟨Except.ok.inj same, rfl⟩

theorem run_bind_eq_ok {x : Edit ε α} {f : α → Edit ε β} {c : β}
    (answer : (x >>= f).run p = (.ok c, r)) :
    ∃ a q, x.run p = (.ok a, q) ∧ (f a).run q = (.ok c, r) := by
  rw [run_bind] at answer
  rcases h : x.run p with ⟨e | a, q⟩
  · simp [h] at answer
  · rw [h] at answer
    exact ⟨a, q, rfl, answer⟩

theorem run_mapError_eq_ok {g : ε → ε'} {x : Edit ε α} :
    (x.mapError g).run p = (.ok a, q) ↔ x.run p = (.ok a, q) := by
  rw [run_mapError]
  rcases x.run p with ⟨e | c, r⟩ <;> simp [Except.mapError]

/-- A list of edits that succeeds is a first edit that succeeds and others that do. -/
theorem run_total_cons_eq_ok (answer : (total step (a :: list)).run p = (.ok n, r)) :
    ∃ k q l, (step a).run p = (.ok k, q) ∧ (total step list).run q = (.ok l, r) ∧
      n = k + l := by
  rw [total] at answer
  obtain ⟨k, q, first, answer⟩ := run_bind_eq_ok answer
  obtain ⟨l, s, others, answer⟩ := run_bind_eq_ok answer
  obtain ⟨rfl, rfl⟩ := run_pure_eq_ok answer
  exact ⟨k, q, l, first, others, rfl⟩

/-- If each edit counts the places that it visits, a list of edits counts those of all. -/
theorem exists_trace {R : β → Program → Program → Prop} (Visits : α → List β → Prop)
    (each : ∀ a ∈ list, ∀ p n q, (step a).run p = (.ok n, q) →
      ∃ visited, Visits a visited ∧ visited.length = n ∧ Trace R visited p q)
    (answer : (total step list).run p = (.ok n, q)) :
    ∃ visits, List.Forall₂ Visits list visits ∧ visits.flatten.length = n ∧
      Trace R visits.flatten p q := by
  induction list generalizing p n with
  | nil =>
    obtain ⟨rfl, rfl⟩ := run_pure_eq_ok answer
    exact ⟨[], .nil, rfl, .nil⟩
  | cons a rest ih =>
    obtain ⟨first, others⟩ := List.forall_mem_cons.mp each
    obtain ⟨k, s, l, run, remaining, rfl⟩ := run_total_cons_eq_ok answer
    obtain ⟨visited, visit, count, trace⟩ := first p k s run
    obtain ⟨visits, visitOthers, counts, traces⟩ := ih others remaining
    refine ⟨visited :: visits, .cons visit visitOthers, ?_, ?_⟩
    · rw [List.flatten_cons, List.length_append, count, counts]
    · rw [List.flatten_cons]
      exact trace.append traces

/-- If each edit visits places that are known beforehand, so does a list of edits. -/
theorem trace_of_run_total {R : β → Program → Program → Prop} (places : α → List β)
    (each : ∀ a ∈ list, ∀ p n q, (step a).run p = (.ok n, q) →
      (places a).length = n ∧ Trace R (places a) p q)
    (answer : (total step list).run p = (.ok n, q)) :
    (list.flatMap places).length = n ∧ Trace R (list.flatMap places) p q := by
  obtain ⟨visits, known, count, trace⟩ := exists_trace (fun a visited => places a = visited)
    (fun a member p n q answer => ⟨places a, rfl, each a member p n q answer⟩) answer
  have same : list.map places = visits := by
    have pairs := List.forall₂_map_left_iff.mpr known
    rwa [List.forall₂_eq_eq_eq] at pairs
  rw [List.flatMap_def, same]
  exact ⟨count, trace⟩

end Edit

end DexPatch
