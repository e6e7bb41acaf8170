import DexPatch.FieldSearch
import DexPatch.Proofs.ZeroedReads

/-!
# Searches near a marker

A fingerprint knows a string by the opcode that loads it, and the search for a field near a marker
knows it by the operand. Likewise a boolean read is known by its opcode, and its field by the
operand. In well-formed code these come to the same, since only a string load has a string for an
operand and every read names its field. So the search comes back without a field only where no
boolean read is near a load of the marker.

## Main definitions

* `LoadsAt`, `ReadsBooleanAt` — what stands at a position of some code
* `IsReadNear` — a boolean read within the window of a load of the marker

## Main results

* `Instruction.IsWellFormed.loadedString?_eq` — two ways to know a string
* `ClassDecl.readNearString?_eq_none_iff`, `ClassDecl.fieldNearString_eq_error_iff` — when no
  field is found
-/

namespace DexPatch

variable {marker : String} {window i k : Nat} {a : Instruction} {code rest : List Instruction}

namespace Instruction

/-- A string that is an operand is loaded. -/
theorem IsWellFormed.loadedString?_eq (wellFormed : a.IsWellFormed) :
    a.loadedString? = a.string? := by
  have agree : a.string?.isSome = a.opcode.has .string := wellFormed.carries_eq_announces .string
  rw [loadedString?, ← agree]
  cases a.string? <;> rfl

end Instruction

/-- The instruction at position `i` loads the string. -/
def LoadsAt (s : String) (code : List Instruction) (i : Nat) : Prop :=
  ∃ a ∈ code[i]?, a.loadedString? = some s

/-- The instruction at position `k` reads a boolean field. -/
def ReadsBooleanAt (code : List Instruction) (k : Nat) : Prop :=
  ∃ a ∈ code[k]?, a.opcode.isBooleanFieldRead

/-- A boolean field is read at `k`, at most `window` instructions after a load of the marker
at `i`. -/
structure IsReadNear (marker : String) (window : Nat) (code : List Instruction) (i k : Nat) :
    Prop where
  load : LoadsAt marker code i
  after : i < k
  near : k ≤ i + window
  read : ReadsBooleanAt code k

namespace ClassDecl

/-- The first instruction is the load: the read is one of the next `window` instructions. -/
theorem isReadNear_cons_zero_iff :
    IsReadNear marker window (a :: rest) 0 k ↔
      ∃ j, k = j + 1 ∧ a.loadedString? = some marker ∧ j < window ∧ ReadsBooleanAt rest j := by
  constructor
  · rintro ⟨load, after, near, read⟩
    obtain ⟨j, rfl⟩ := Nat.exists_eq_succ_of_ne_zero (Nat.ne_zero_of_lt after)
    exact ⟨j, rfl, by simpa [LoadsAt] using load, by omega, by simpa [ReadsBooleanAt] using read⟩
  · rintro ⟨j, rfl, load, inside, read⟩
    exact ⟨by simpa [LoadsAt] using load, by omega, by omega, by simpa [ReadsBooleanAt] using read⟩

/-- Otherwise the first instruction has nothing to do with it. -/
theorem isReadNear_cons_succ_iff :
    IsReadNear marker window (a :: rest) (i + 1) k ↔
      ∃ j, k = j + 1 ∧ IsReadNear marker window rest i j := by
  constructor
  · rintro ⟨load, after, near, read⟩
    obtain ⟨j, rfl⟩ := Nat.exists_eq_succ_of_ne_zero (Nat.ne_zero_of_lt after)
    exact ⟨j, rfl, by simpa [LoadsAt] using load, by omega, by omega,
      by simpa [ReadsBooleanAt] using read⟩
  · rintro ⟨j, rfl, load, after, near, read⟩
    exact ⟨by simpa [LoadsAt] using load, by omega, by omega, by simpa [ReadsBooleanAt] using read⟩

/-- Either the load comes first, or the pair is one of the other instructions. -/
theorem exists_isReadNear_cons :
    (∃ i k, IsReadNear marker window (a :: rest) i k) ↔
      a.loadedString? = some marker ∧ (∃ k < window, ReadsBooleanAt rest k) ∨
        ∃ i k, IsReadNear marker window rest i k := by
  constructor
  · rintro ⟨i, k, near⟩
    cases i with
    | zero =>
      obtain ⟨j, rfl, load, inside, read⟩ := isReadNear_cons_zero_iff.mp near
      exact .inl ⟨load, j, inside, read⟩
    | succ i =>
      obtain ⟨j, rfl, inner⟩ := isReadNear_cons_succ_iff.mp near
      exact .inr ⟨i, j, inner⟩
  · rintro (⟨load, j, inside, read⟩ | ⟨i, j, near⟩)
    · exact ⟨0, j + 1, isReadNear_cons_zero_iff.mpr ⟨j, rfl, load, inside, read⟩⟩
    · exact ⟨i + 1, j + 1, isReadNear_cons_succ_iff.mpr ⟨j, rfl, near⟩⟩

theorem firstBooleanRead?_eq_none_iff (wellFormed : ∀ a ∈ code, a.IsWellFormed) :
    firstBooleanRead? code = none ↔ ∀ a ∈ code, ¬ a.opcode.isBooleanFieldRead := by
  rw [firstBooleanRead?]
  cases found : code.find? (·.opcode.isBooleanFieldRead) with
  | none => exact iff_of_true rfl fun a member => List.find?_eq_none.mp found a member
  | some b =>
    have member := List.mem_of_find?_eq_some found
    have boolean : b.opcode.isBooleanFieldRead := by simpa using List.find?_some found
    obtain ⟨f, field, _⟩ := (wellFormed b member).exists_reads
      (Instruction.isFieldRead_of_isBooleanFieldRead boolean)
    refine iff_of_false ?_ fun none => none b member boolean
    rw [Option.bind_some, field]
    exact nofun

theorem firstBooleanRead?_take_eq_none_iff (wellFormed : ∀ a ∈ code, a.IsWellFormed) :
    firstBooleanRead? (code.take window) = none ↔ ¬ ∃ k < window, ReadsBooleanAt code k := by
  rw [firstBooleanRead?_eq_none_iff fun a member => wellFormed a (List.mem_of_mem_take member)]
  constructor
  · rintro none ⟨k, inside, a, there, boolean⟩
    refine none a (List.mem_of_getElem? (i := k) ?_) boolean
    rwa [List.getElem?_take_of_lt inside]
  · intro none a member boolean
    obtain ⟨k, there⟩ := List.mem_iff_getElem?.mp member
    rw [List.getElem?_take] at there
    split_ifs at there with inside
    exact none ⟨k, inside, a, there, boolean⟩

/-- The search in one method comes back without a field only if no boolean read is near. -/
theorem readNearString?_eq_none_iff (wellFormed : ∀ a ∈ code, a.IsWellFormed) :
    readNearString? marker window code = none ↔ ¬ ∃ i k, IsReadNear marker window code i k := by
  induction code with
  | nil =>
    refine iff_of_true rfl ?_
    rintro ⟨i, k, ⟨a, there, _⟩, _⟩
    simp at there
  | cons a rest ih =>
    obtain ⟨first, others⟩ := List.forall_mem_cons.mp wellFormed
    have here : firstBooleanRead? (rest.take window) = none ↔ _ :=
      firstBooleanRead?_take_eq_none_iff others
    -- The search goes by the operand, and the statement by the opcode.
    rw [exists_isReadNear_cons, readNearString?, ← first.loadedString?_eq]
    by_cases load : a.loadedString? = some marker
    · rw [if_pos load]
      cases near : firstBooleanRead? (rest.take window) with
      | none => simp only [load, true_and, here.mp near, false_or, ih others]
      | some f =>
        have read : ∃ k < window, ReadsBooleanAt rest k := by
          by_contra none
          rw [here.mpr none] at near
          contradiction
        simp [load, read]
    · simp only [load, if_false, false_and, false_or, ih others]

/-- The search in a class comes back without a field only if no boolean read is near in any of
its methods. -/
theorem fieldNearString_eq_error_iff {c : ClassDecl} {e : Unresolved}
    (wellFormed : ∀ m ∈ c.methods, ∀ a ∈ m.code, a.IsWellFormed) :
    c.fieldNearString marker window = .error e ↔
      e = .notFound ∧ ∀ m ∈ c.methods, ¬ ∃ i k, IsReadNear marker window m.code i k := by
  have none : (c.methods.findSome? fun m => readNearString? marker window m.code) = .none ↔
      ∀ m ∈ c.methods, ¬ ∃ i k, IsReadNear marker window m.code i k := by
    rw [List.findSome?_eq_none_iff]
    exact forall₂_congr fun m inside => readNearString?_eq_none_iff (wellFormed m inside)
  rw [fieldNearString, ← none]
  cases c.methods.findSome? fun m => readNearString? marker window m.code with
  | none => simp [eq_comm]
  | some f => simp

end ClassDecl

end DexPatch
