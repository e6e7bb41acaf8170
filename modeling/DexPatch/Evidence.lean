import DexPatch.Instruction

/-!
# Evidence

The classifier looks at four signals in a method: whether its code carries the literals
one, two and three, and whether it tests a register for zero.

## Main definitions

* `Signal`, `Evidence` — a signal and a set of signals
* `Evidence.ofCode` — the signals shown by some instructions
* `Evidence.score` — the number of signals

## Main results

* `Evidence.ofCode_append` — the evidence of joined code is the union
-/

namespace DexPatch

/-- One of the four signals. -/
inductive Signal
  | literal1 | literal2 | literal3 | zeroTest
deriving DecidableEq, Repr

def Signal.all : List Signal := [literal1, literal2, literal3, zeroTest]

/-- A set of signals. -/
structure Evidence where
  literal1 : Bool := false
  literal2 : Bool := false
  literal3 : Bool := false
  zeroTest : Bool := false
deriving DecidableEq, Repr

namespace Evidence

/-- No signal at all. -/
def empty : Evidence := {}

/-- Whether a signal is in the set. -/
def shows (e : Evidence) : Signal → Bool
  | .literal1 => e.literal1
  | .literal2 => e.literal2
  | .literal3 => e.literal3
  | .zeroTest => e.zeroTest

def union (a b : Evidence) : Evidence where
  literal1 := a.literal1 || b.literal1
  literal2 := a.literal2 || b.literal2
  literal3 := a.literal3 || b.literal3
  zeroTest := a.zeroTest || b.zeroTest

/-- The signal shown by one instruction. A zero test shows that alone. -/
def ofInstruction (i : Instruction) : Evidence :=
  if i.opcode.isZeroTest then { zeroTest := true }
  else
    match i.literal? with
    | some 1 => { literal1 := true }
    | some 2 => { literal2 := true }
    | some 3 => { literal3 := true }
    | _ => empty

/-- The signals shown by some instructions together. -/
def ofCode (code : List Instruction) : Evidence :=
  code.foldl (fun e i => e.union (ofInstruction i)) empty

/-- The signals in the set, in order. -/
def signals (e : Evidence) : List Signal := Signal.all.filter e.shows

/-- The number of signals. -/
def score (e : Evidence) : Nat := e.signals.length

/-- There are four signals. -/
theorem score_le (e : Evidence) : e.score ≤ 4 := List.length_filter_le _ _

theorem union_assoc (a b c : Evidence) : (a.union b).union c = a.union (b.union c) := by
  simp [union, Bool.or_assoc]

@[simp]
theorem empty_union (e : Evidence) : empty.union e = e := by
  cases e
  rfl

@[simp]
theorem union_empty (e : Evidence) : e.union empty = e := by
  cases e
  simp [union, empty]

theorem foldl_union (e : Evidence) (code : List Instruction) :
    code.foldl (fun e i => e.union (ofInstruction i)) e = e.union (ofCode code) := by
  induction code generalizing e with
  | nil => exact (union_empty e).symm
  | cons i rest ih =>
    have first : ofCode (i :: rest) = (ofInstruction i).union (ofCode rest) := by
      rw [ofCode, List.foldl_cons, ih, empty_union]
    rw [List.foldl_cons, ih, first, union_assoc]

theorem ofCode_cons (i : Instruction) (rest : List Instruction) :
    ofCode (i :: rest) = (ofInstruction i).union (ofCode rest) := by
  rw [ofCode, List.foldl_cons, foldl_union, empty_union]

/-- The evidence of joined code is the union. -/
theorem ofCode_append (a b : List Instruction) :
    ofCode (a ++ b) = (ofCode a).union (ofCode b) := by
  rw [ofCode, List.foldl_append, foldl_union]
  rfl

end Evidence

end DexPatch
