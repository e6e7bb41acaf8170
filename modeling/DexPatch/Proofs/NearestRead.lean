import DexPatch.Proofs.MarkerSearch
import Mathlib.Data.Prod.Lex

/-!
# The nearest read

The search near a marker tries one load of it after the other. A load that has no boolean read in
its window is passed over, even if a later load is inside that window, and so is a method in which
no load has one. The search thus ends at the least pair of a method and a position, in the order of
the code, and takes the least read in the window there.

The window may reach past the end of the code, or past the greatest number that a position can be.
Neither does any harm. The sums stop at the greatest word, and the slice ends with the code at the
latest. All that is asked of the code is that its length is a machine word.

## Main definitions

* `ClassDecl.IsFirstNear`, `ClassDecl.IsFirstReadNear` — the read at which the search ends, in one
  method and in a class
* `slice?`, `windowEnd` — a part of the code between two positions, and where the window ends
* `ClassDecl.slicedSearch?` — the search with positions that are machine words and slices that may
  be out of range

## Main results

* `ClassDecl.isFirstNear_of_readNearString?`, `ClassDecl.fieldNearString_eq_ok_iff` — what the
  search finds
* `slice?_windowEnd` — the slice behind a position is what the window holds
* `ClassDecl.slicedSearch?_eq` — no slice is out of range, and the search finds the same
* `ClassDecl.fieldNearString_first_in_window` — all of it for the classes of a program
-/

namespace DexPatch

variable {p : Program} {c : ClassDecl} {m : MethodDecl} {f : FieldRef} {marker : String}
  {window n i k : Nat} {code rest : List Instruction}

/-! ### One method -/

namespace ClassDecl

/-- A boolean read near a load of the marker, with no such load before it and no other read between
the two. -/
structure IsFirstNear (marker : String) (window : Nat) (code : List Instruction) (i k : Nat) :
    Prop where
  near : IsReadNear marker window code i k
  firstLoad : ∀ j l, IsReadNear marker window code j l → i ≤ j
  firstRead : ∀ l, IsReadNear marker window code i l → k ≤ l

/-- The first boolean read among the next instructions is the least one. -/
theorem exists_first_of_firstBooleanRead? (found : firstBooleanRead? (code.take window) = some f) :
    ∃ k < window, (∃ a ∈ code[k]?, a.field? = some f) ∧ ReadsBooleanAt code k ∧
      ∀ j, ReadsBooleanAt code j → k ≤ j := by
  rw [firstBooleanRead?, Option.bind_eq_some_iff] at found
  obtain ⟨a, first, field⟩ := found
  obtain ⟨boolean, k, inside, there, before⟩ := List.find?_eq_some_iff_getElem.mp first
  rw [List.length_take] at inside
  rw [List.getElem_take] at there
  have position : code[k]? = some a := by
    rw [List.getElem?_eq_getElem (by omega), there]
  refine ⟨k, by omega, ⟨a, position, field⟩, ⟨a, position, boolean⟩, ?_⟩
  rintro j ⟨b, there', boolean'⟩
  -- An earlier read would have been in the window as well.
  by_contra later
  have none := before j (by omega)
  rw [List.getElem_take, (List.getElem?_eq_some_iff.mp there').2] at none
  simp [boolean'] at none

/-- What the search in one method finds is the field of the first read near a load. -/
theorem isFirstNear_of_readNearString? (wellFormed : ∀ a ∈ code, a.IsWellFormed)
    (found : readNearString? marker window code = some f) :
    ∃ i k, IsFirstNear marker window code i k ∧ ∃ a ∈ code[k]?, a.field? = some f := by
  induction code with
  | nil => contradiction
  | cons a rest ih =>
    obtain ⟨first, others⟩ := List.forall_mem_cons.mp wellFormed
    -- If the first instruction is passed over, then what is found is found further on.
    have further (here : ∀ k, ¬ IsReadNear marker window (a :: rest) 0 k)
        (later : readNearString? marker window rest = some f) :
        ∃ i k, IsFirstNear marker window (a :: rest) i k ∧
          ∃ b ∈ (a :: rest)[k]?, b.field? = some f := by
      obtain ⟨i, k, ⟨near, firstLoad, firstRead⟩, b, there, field⟩ := ih others later
      refine ⟨i + 1, k + 1, ⟨isReadNear_cons_succ_iff.mpr ⟨k, rfl, near⟩, ?_, ?_⟩, b,
        by simpa using there, field⟩
      · intro j l other
        cases j with
        | zero => exact absurd other (here l)
        | succ j =>
          obtain ⟨l', rfl, inner⟩ := isReadNear_cons_succ_iff.mp other
          have := firstLoad j l' inner
          omega
      · intro l other
        obtain ⟨l', rfl, inner⟩ := isReadNear_cons_succ_iff.mp other
        have := firstRead l' inner
        omega
    rw [readNearString?, ← first.loadedString?_eq] at found
    split_ifs at found with load
    · cases near : firstBooleanRead? (rest.take window) with
      | some g =>
        rw [near] at found
        obtain rfl := Option.some.inj found
        obtain ⟨k, inside, ⟨b, there, field⟩, read, least⟩ := exists_first_of_firstBooleanRead? near
        refine ⟨0, k + 1, ⟨isReadNear_cons_zero_iff.mpr ⟨k, rfl, load, inside, read⟩,
          fun _ _ _ => Nat.zero_le _, ?_⟩, b, by simpa using there, field⟩
        intro l other
        obtain ⟨j, rfl, _, _, read'⟩ := isReadNear_cons_zero_iff.mp other
        have := least j read'
        omega
      | none =>
        rw [near] at found
        refine further (fun k here => ?_) found
        obtain ⟨j, _, _, inside, read⟩ := isReadNear_cons_zero_iff.mp here
        exact (firstBooleanRead?_take_eq_none_iff others).mp near ⟨j, inside, read⟩
    · refine further (fun k here => ?_) found
      obtain ⟨j, _, load', _⟩ := isReadNear_cons_zero_iff.mp here
      exact load load'

end ClassDecl

/-- A wider window holds what a narrower one does. -/
theorem IsReadNear.mono {wider : Nat} (near : IsReadNear marker window code i k)
    (le : window ≤ wider) : IsReadNear marker wider code i k :=
  ⟨near.load, near.after, near.near.trans (by omega), near.read⟩

/-! ### A whole class -/

namespace ClassDecl

/-- In the method at index `n`, a boolean field is read at `k`, at most `window` instructions after
a load of the marker at `i`. -/
def HasReadNear (c : ClassDecl) (marker : String) (window n i k : Nat) : Prop :=
  ∃ m ∈ c.methods[n]?, IsReadNear marker window m.code i k

theorem exists_hasReadNear_iff :
    (∃ n i k, c.HasReadNear marker window n i k) ↔
      ∃ m ∈ c.methods, ∃ i k, IsReadNear marker window m.code i k := by
  constructor
  · rintro ⟨n, i, k, m, here, near⟩
    exact ⟨m, List.mem_of_getElem? here, i, k, near⟩
  · rintro ⟨m, member, i, k, near⟩
    obtain ⟨n, here⟩ := List.mem_iff_getElem?.mp member
    exact ⟨n, i, k, m, here, near⟩

/-- The read at which the search ends: the method and the load are the first ones, in this order,
that have a read in the window, and the read is the first one after the load. -/
structure IsFirstReadNear (c : ClassDecl) (marker : String) (window n i k : Nat) : Prop where
  near : c.HasReadNear marker window n i k
  firstLoad : ∀ n' i' k', c.HasReadNear marker window n' i' k' → toLex (n, i) ≤ toLex (n', i')
  firstRead : ∀ l, c.HasReadNear marker window n i l → k ≤ l

/-- The search ends at one place only. -/
theorem IsFirstReadNear.unique {n' i' k' : Nat} (first : c.IsFirstReadNear marker window n i k)
    (first' : c.IsFirstReadNear marker window n' i' k') : n = n' ∧ k = k' := by
  have same := le_antisymm (first.firstLoad _ _ _ first'.near) (first'.firstLoad _ _ _ first.near)
  obtain ⟨rfl, rfl⟩ := Prod.mk.inj (toLex.injective same)
  exact ⟨rfl, Nat.le_antisymm (first.firstRead _ first'.near) (first'.firstRead _ first.near)⟩

section Search

variable (wellFormed : ∀ m ∈ c.methods, ∀ a ∈ m.code, a.IsWellFormed)
include wellFormed

theorem isFirstReadNear_of_fieldNearString (found : c.fieldNearString marker window = .ok f) :
    ∃ n i k, c.IsFirstReadNear marker window n i k ∧
      ∃ m ∈ c.methods[n]?, ∃ a ∈ m.code[k]?, a.field? = some f := by
  have first? : (c.methods.findSome? fun m => readNearString? marker window m.code) = some f := by
    rw [fieldNearString] at found
    split at found
    · rename_i g near
      rw [near, Except.ok.inj found]
    · contradiction
  obtain ⟨before, m, after, split, near, none⟩ := List.findSome?_eq_some_iff.mp first?
  have here : c.methods[before.length]? = some m := by simp [split]
  have member : m ∈ c.methods := List.mem_of_getElem? here
  obtain ⟨i, k, first, field⟩ := isFirstNear_of_readNearString? (wellFormed m member) near
  refine ⟨before.length, i, k, ⟨⟨m, here, first.near⟩, ?_, ?_⟩, m, here, field⟩
  · rintro n' i' k' ⟨m', here', near'⟩
    rw [Prod.Lex.toLex_le_toLex]
    rcases Nat.lt_trichotomy n' before.length with earlier | rfl | later
    · -- The methods before have been searched in vain.
      rw [Option.mem_def, split, List.getElem?_append_left earlier] at here'
      have member' := List.mem_of_getElem? here'
      have wellFormed' := wellFormed m' (split ▸ List.mem_append_left _ member')
      exact absurd ⟨i', k', near'⟩
        ((readNearString?_eq_none_iff wellFormed').mp (none m' member'))
    · obtain rfl := Option.some.inj (here.symm.trans here')
      exact .inr ⟨rfl, first.firstLoad i' k' near'⟩
    · exact .inl later
  · rintro l ⟨m', here', near'⟩
    obtain rfl := Option.some.inj (here.symm.trans here')
    exact first.firstRead l near'

/-- The search takes the field of the first read. -/
theorem fieldNearString_eq_ok_iff :
    c.fieldNearString marker window = .ok f ↔
      ∃ n i k, c.IsFirstReadNear marker window n i k ∧
        ∃ m ∈ c.methods[n]?, ∃ a ∈ m.code[k]?, a.field? = some f := by
  constructor
  · exact isFirstReadNear_of_fieldNearString wellFormed
  · rintro ⟨n, i, k, first, m, here, a, there, field⟩
    -- The search does find something, and it ends at one place only.
    cases answer : c.fieldNearString marker window with
    | error e =>
      obtain ⟨m', here', near⟩ := first.near
      have none := ((fieldNearString_eq_error_iff wellFormed).mp answer).2
      exact absurd ⟨i, k, near⟩ (none m' (List.mem_of_getElem? here'))
    | ok g =>
      obtain ⟨_, _, _, first', m', here', a', there', field'⟩ :=
        isFirstReadNear_of_fieldNearString wellFormed answer
      obtain ⟨rfl, rfl⟩ := first.unique first'
      obtain rfl := Option.some.inj (here.symm.trans here')
      obtain rfl := Option.some.inj (there.symm.trans there')
      rw [Option.some.inj (field.symm.trans field')]

/-- A wider window finds something wherever a narrower one does. -/
theorem fieldNearString_mono {wider : Nat} (le : window ≤ wider)
    (found : ∃ f, c.fieldNearString marker window = .ok f) :
    ∃ f, c.fieldNearString marker wider = .ok f := by
  cases answer : c.fieldNearString marker wider with
  | ok f => exact ⟨f, rfl⟩
  | error e =>
    obtain ⟨f, found⟩ := found
    obtain ⟨n, i, k, ⟨⟨m, here, near⟩, _, _⟩, _⟩ :=
      isFirstReadNear_of_fieldNearString wellFormed found
    have none := ((fieldNearString_eq_error_iff wellFormed).mp answer).2
    exact absurd ⟨i, k, near.mono le⟩ (none m (List.mem_of_getElem? here))

end Search

end ClassDecl

/-! ### Positions as machine words -/

/-- The sum of two words, or the greatest word if the sum is none. -/
def saturatingAdd (a b : UInt64) : UInt64 :=
  if a.toNat + b.toNat < UInt64.size then a + b else .ofNat (UInt64.size - 1)

theorem toNat_saturatingAdd (a b : UInt64) :
    (saturatingAdd a b).toNat = min (a.toNat + b.toNat) (UInt64.size - 1) := by
  rw [saturatingAdd, UInt64.size]
  split
  · rw [UInt64.toNat_add]
    omega
  · rw [UInt64.toNat_ofNat_of_lt' (by decide)]
    omega

/-- The position at which the window behind a position ends, in code of some length. -/
def windowEnd (length position window : UInt64) : UInt64 :=
  min length (saturatingAdd (saturatingAdd position window) 1)

/-- The instructions from one position up to another; there are none to speak of if these are not
positions of the code, in this order. -/
def slice? (code : List Instruction) (start stop : UInt64) : Option (List Instruction) :=
  if start ≤ stop ∧ stop.toNat ≤ code.length then
    some ((code.take stop.toNat).drop start.toNat)
  else none

/-- The slice behind a position is in range for every window, and it is what the window holds. -/
theorem slice?_windowEnd {position : Nat} (fits : code.length < UInt64.size)
    (inside : position < code.length) (window : UInt64) :
    slice? code (.ofNat position + 1) (windowEnd (.ofNat code.length) (.ofNat position) window) =
      some ((code.drop (position + 1)).take window.toNat) := by
  have length : (UInt64.ofNat code.length).toNat = code.length := UInt64.toNat_ofNat_of_lt' fits
  have here : (UInt64.ofNat position).toNat = position :=
    UInt64.toNat_ofNat_of_lt' (inside.trans fits)
  have size : UInt64.size = 2 ^ 64 := rfl
  have start : (UInt64.ofNat position + 1).toNat = position + 1 := by
    rw [UInt64.toNat_add, here, UInt64.toNat_one]
    omega
  -- The sums may stop at the greatest word, but that is past the end of the code.
  have stop : (windowEnd (.ofNat code.length) (.ofNat position) window).toNat =
      min code.length (position + 1 + window.toNat) := by
    rw [windowEnd, UInt64.toNat_min, toNat_saturatingAdd, toNat_saturatingAdd, length, here,
      UInt64.toNat_one]
    omega
  rw [slice?, if_pos ⟨by rw [UInt64.le_iff_toNat_le, start, stop]; omega, by omega⟩, start, stop,
    List.drop_take, Option.some.injEq, List.take_eq_take_iff, List.length_drop]
  omega

namespace ClassDecl

/-- The search in one method, over its instructions with their positions. No value at all means
that a slice is out of range. -/
def slicedRead? (marker : String) (window : UInt64) (code : List Instruction) :
    List (Instruction × Nat) → Option (Option FieldRef)
  | [] => some none
  | (a, position) :: rest =>
    if a.string? = some marker then
      match slice? code (.ofNat position + 1)
          (windowEnd (.ofNat code.length) (.ofNat position) window) with
      | none => none
      | some inWindow =>
        match firstBooleanRead? inWindow with
        | some f => some (some f)
        | none => slicedRead? marker window code rest
    else slicedRead? marker window code rest

/-- The search in the methods of a class, one after the other. -/
def slicedSearch? (marker : String) (window : UInt64) :
    List MethodDecl → Option (Except Unresolved FieldRef)
  | [] => some (.error .notFound)
  | m :: rest =>
    match slicedRead? marker window m.code m.code.zipIdx with
    | none => none
    | some (some f) => some (.ok f)
    | some none => slicedSearch? marker window rest

/-- Behind a position stands the rest of the code, so the slices are the windows. -/
theorem slicedRead?_zipIdx (window : UInt64) (fits : code.length < UInt64.size) :
    ∀ before rest, code = before ++ rest →
      slicedRead? marker window code (rest.zipIdx before.length) =
        some (readNearString? marker window.toNat rest) := by
  intro before rest split
  -- What has been gone through is kept, since the slices are taken from the whole code.
  induction rest generalizing before with
  | nil => rfl
  | cons a rest ih =>
    have later : slicedRead? marker window code (rest.zipIdx (before.length + 1)) =
        some (readNearString? marker window.toNat rest) := by
      simpa using ih (before ++ [a]) (by simp [split])
    have behind : code.drop (before.length + 1) = rest := by
      rw [split, ← List.drop_drop, List.drop_left, List.drop_one, List.tail_cons]
    rw [List.zipIdx_cons, slicedRead?, readNearString?,
      slice?_windowEnd fits (by simp [split]), behind, later]
    split_ifs
    · dsimp only
      cases firstBooleanRead? (rest.take window.toNat) <;> rfl
    · rfl

/-- With positions that are machine words, no slice is out of range and the search finds the
same. -/
theorem slicedSearch?_eq (window : UInt64) (fits : ∀ m ∈ c.methods, m.code.length < UInt64.size) :
    slicedSearch? marker window c.methods = some (c.fieldNearString marker window.toNat) := by
  rw [fieldNearString]
  generalize c.methods = methods at fits
  induction methods with
  | nil => rfl
  | cons m rest ih =>
    obtain ⟨first, others⟩ := List.forall_mem_cons.mp fits
    have here : slicedRead? marker window m.code m.code.zipIdx =
        some (readNearString? marker window.toNat m.code) :=
      slicedRead?_zipIdx window first [] m.code rfl
    rw [slicedSearch?, here, List.findSome?_cons]
    cases readNearString? marker window.toNat m.code with
    | some f => rfl
    | none => exact ih others

/-! ### The search in a program -/

/-- The search near a marker takes the first boolean read behind the first load that has one in the
window, over all methods, and finds nothing only if there is none. No window is too large for it,
and a larger window does not lose what a smaller one finds. -/
theorem fieldNearString_first_in_window {package : Option String} {classes : List ClassDecl}
    (accepted : Program.ofClasses package classes = .ok p) (declared : c ∈ p.classes)
    (marker : String) :
    (∀ window f, c.fieldNearString marker window = .ok f ↔
      ∃ n i k, c.IsFirstReadNear marker window n i k ∧
        ∃ m ∈ c.methods[n]?, ∃ a ∈ m.code[k]?, a.field? = some f) ∧
      (∀ window e, c.fieldNearString marker window = .error e ↔
        e = .notFound ∧ ¬ ∃ n i k, c.HasReadNear marker window n i k) ∧
      (∀ window : UInt64, (∀ m ∈ c.methods, m.code.length < UInt64.size) →
        slicedSearch? marker window c.methods = some (c.fieldNearString marker window.toNat)) ∧
      ∀ window wider, window ≤ wider → (∃ f, c.fieldNearString marker window = .ok f) →
        ∃ f, c.fieldNearString marker wider = .ok f := by
  have wellFormed := (Program.ofClasses_eq_ok_iff.mp accepted).2.instruction_of_mem declared
  refine ⟨fun _ _ => fieldNearString_eq_ok_iff wellFormed, fun window e => ?_,
    fun window fits => slicedSearch?_eq window fits,
    fun _ _ le found => fieldNearString_mono wellFormed le found⟩
  rw [fieldNearString_eq_error_iff wellFormed, exists_hasReadNear_iff]
  simp only [not_exists, not_and]

/-- In the first method the read is one instruction too far away, and in the second one only the
second load has a read in its window. The greatest window reaches the read in the first method. -/
theorem fieldNearString_first_in_window_second_load :
    let near : FieldRef := ⟨⟨"LUser;"⟩, "isPaid", .boolean⟩
    let far : FieldRef := ⟨⟨"LUser;"⟩, "isTrial", .boolean⟩
    let load : Instruction := .constString ⟨0⟩ "paid"
    let read (f : FieldRef) : Instruction := .staticField (.sget .boolean) ⟨1⟩ f
    let check (code : List Instruction) : MethodDecl := ⟨"check", [], .void, 0, some ⟨2, 0, code⟩⟩
    let c : ClassDecl := ⟨⟨"LUser;"⟩, none, 0, [],
      [check [load, .nop, .nop, read far, .retVoid],
        check [load, .nop, load, .nop, read near, .retVoid]]⟩
    Program.ofClasses none [c] = .ok ⟨none, [c]⟩ ∧
      c.fieldNearString "paid" 2 = .ok near ∧
      (∃ n i k, c.IsFirstReadNear "paid" 2 n i k ∧
        ∃ m ∈ c.methods[n]?, ∃ a ∈ m.code[k]?, a.field? = some near) ∧
      (¬ ∃ n i k, c.HasReadNear "paid" 1 n i k) ∧
      slicedSearch? "paid" (.ofNat (UInt64.size - 1)) c.methods = some (.ok far) ∧
      ∃ f, c.fieldNearString "paid" 100 = .ok f := by
  intro near far load read check c
  have accepted : Program.ofClasses none [c] = .ok ⟨none, [c]⟩ := rfl
  obtain ⟨takes, fails, sliced, wider⟩ :=
    fieldNearString_first_in_window accepted List.mem_cons_self "paid"
  have second : c.fieldNearString "paid" 2 = .ok near := by decide +zetaReduce
  have missed : c.fieldNearString "paid" 1 = .error .notFound := by decide +zetaReduce
  have greatest : c.fieldNearString "paid" (UInt64.ofNat (UInt64.size - 1)).toNat = .ok far := by
    decide +zetaReduce
  refine ⟨accepted, second, (takes 2 near).mp second, ((fails 1 _).mp missed).2, ?_,
    wider 2 100 (by decide) ⟨near, second⟩⟩
  rw [sliced _ (by decide +zetaReduce), greatest]

end ClassDecl

end DexPatch
