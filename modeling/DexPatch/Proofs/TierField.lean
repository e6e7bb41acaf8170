import DexPatch.FieldSearch
import DexPatch.Proofs.Signals
import DexPatch.Proofs.TallyOrder
import DexPatch.Proofs.ZeroedReads
import Mathlib.Algebra.BigOperators.Ring.List
import Mathlib.Algebra.Order.BigOperators.Group.List
import Mathlib.Algebra.Order.Ring.Nat

/-!
# The field that holds the tier

The user class is expected to declare one boxed integer, and then that is the tier. Otherwise the
methods vote. Each of them has as many votes for a read as it shows signals, and the field with the
most votes wins. Fields that are read by no method with a signal have none and cannot win, however
often they are read elsewhere.

Votes are natural numbers here and in the tally. With totals that are machine words the same field
is found as long as the votes for each field are a word, and they are in any class of less than 2³⁰
instructions.

Of several fields with the most votes the one wins that is read first. What counts is the order of
the code and not that of the declarations, and only the code of methods with a signal.

## Main definitions

* `ClassDecl.evidenceFor` — the votes for a field
* `ClassDecl.diagnosticCode` — the instructions of the methods that show a signal, in order
* `ClassDecl.IsTopScorer` — the field that wins
* `FieldTally.ofClassWords?` — the tally of a class with totals that are machine words

## Main results

* `FieldTally.ofClass_eq` — the tally of a class is the tally of some scores
* `ClassDecl.fieldByUniqueType_eq_ok_iff` — when a type singles out a field
* `ClassDecl.isLeader_scores_iff` — the field that leads in the tally has the most votes
* `ClassDecl.tierField_by_evidence` — which field is taken for the tier
* `FieldTally.naturals_of_ofClassWords?`, `ClassDecl.exists_ofClassWords?_iff` — the tally in words,
  and when words are enough
* `ClassDecl.fieldByEvidence_eq_of_words` — the field with the most votes, found with words
-/

namespace DexPatch

variable {p : Program} {c : ClassDecl} {m : MethodDecl} {f g : FieldRef} {owner : TypeDesc}

/-- Of two values, the one that comes first in a list is the one that is made first. -/
theorem idxOf_filterMap_lt_iff {α β : Type} [DecidableEq β] {select : α → Option β} {a b : β}
    (list : List α) :
    (list.filterMap select).idxOf a < (list.filterMap select).idxOf b ↔
      list.findIdx (select · = some a) < list.findIdx (select · = some b) := by
  induction list with
  | nil => simp
  | cons x rest ih =>
    cases made : select x with
    | none => simpa [List.findIdx_cons, made] using ih
    | some y =>
      simp only [List.filterMap_cons_some made, List.idxOf_cons, List.findIdx_cons, made,
        Option.some.injEq, Bool.cond_eq_ite, beq_iff_eq, decide_eq_true_iff]
      -- Both sides look at the first element in the same way.
      split_ifs <;> omega

/-! ### The scores of a class -/

namespace FieldTally

/-- The scores that a method gives, in order: its own score for each candidate field that it
reads. -/
def methodScores (owner : TypeDesc) (m : MethodDecl) : List (FieldRef × Nat) :=
  if (Evidence.ofCode m.code).score = 0 then []
  else (candidateReads owner m).map (·, (Evidence.ofCode m.code).score)

theorem addMethod_eq (t : FieldTally) :
    addMethod owner t m = (methodScores owner m).foldl (fun t e => t.add e.1 e.2) t := by
  rw [addMethod, methodScores]
  split
  · rfl
  · rw [List.foldl_map]

/-- The tally of a class is the tally of what its methods give. -/
theorem ofClass_eq : ofClass c = ofScores (c.methods.flatMap (methodScores c.type)) := by
  rw [ofClass, ofScores, List.foldl_flatMap]
  congr 1
  funext t m
  exact addMethod_eq t

theorem sumFor_flatMap {methods : List MethodDecl} {scores : MethodDecl → List (FieldRef × Nat)} :
    sumFor g (methods.flatMap scores) = (methods.map fun m => sumFor g (scores m)).sum := by
  induction methods with
  | nil => rfl
  | cons m rest ih => rw [List.flatMap_cons, sumFor_append, ih, List.map_cons, List.sum_cons]

/-- Equal scores come to a multiple. -/
theorem sumFor_map {reads : List FieldRef} {score : Nat} :
    sumFor g (reads.map (·, score)) = score * reads.count g := by
  induction reads with
  | nil => rfl
  | cons f rest ih =>
    rw [List.map_cons, ← List.singleton_append, sumFor_append, sumFor_singleton, ih,
      List.count_cons, Nat.mul_add, Nat.add_comm]
    by_cases same : f = g <;> simp [same]

theorem count_candidateReads (candidate : IsCandidate owner g) :
    (candidateReads owner m).count g = m.code.countP (·.Reads g) := by
  have passes : decide (IsCandidate owner g) = true := decide_eq_true candidate
  rw [candidateReads, List.count_filter (p := fun f => decide (IsCandidate owner f)) passes,
    List.count_filterMap]
  apply List.countP_congr
  intro i _
  rw [beq_iff_eq, decide_eq_true_iff, Instruction.Reads]

theorem sumFor_methodScores (wellFormed : ∀ i ∈ m.code, i.IsWellFormed)
    (candidate : IsCandidate owner g) :
    sumFor g (methodScores owner m) = m.signalCount * m.code.countP (·.Reads g) := by
  rw [methodScores, MethodDecl.score_ofCode wellFormed]
  split
  · rename_i none
    rw [none, Nat.zero_mul]
    rfl
  · rw [sumFor_map, count_candidateReads candidate]

end FieldTally

/-! ### The winner of a class -/

namespace ClassDecl

open FieldTally

/-- The votes for a field: as many for each read as the reading method shows signals. -/
def evidenceFor (c : ClassDecl) (f : FieldRef) : Nat :=
  (c.methods.map fun m => m.signalCount * m.code.countP (·.Reads f)).sum

/-- The instructions of the methods that show a signal, methods in order and instructions in
order. -/
def diagnosticCode (c : ClassDecl) : List Instruction :=
  (c.methods.filter (0 < ·.signalCount)).flatMap MethodDecl.code

/-- The field is a field of the class that can hold a number, and no other one has more votes. Of
several with as many votes, it is the one that is read first by a method with a signal. -/
structure IsTopScorer (c : ClassDecl) (f : FieldRef) : Prop where
  candidate : IsCandidate c.type f
  positive : 0 < c.evidenceFor f
  greatest : ∀ g, IsCandidate c.type g → c.evidenceFor g ≤ c.evidenceFor f
  first : ∀ g, IsCandidate c.type g → g ≠ f → c.evidenceFor g = c.evidenceFor f →
    c.diagnosticCode.findIdx (·.Reads f) < c.diagnosticCode.findIdx (·.Reads g)

/-- The candidate field that an instruction reads. -/
def candidateRead? (owner : TypeDesc) (i : Instruction) : Option FieldRef :=
  i.fieldRead?.filter (IsCandidate owner)

theorem candidateRead?_eq_some_iff {i : Instruction} (candidate : IsCandidate owner g) :
    candidateRead? owner i = some g ↔ i.Reads g := by
  rw [candidateRead?, Option.filter_eq_some_iff, Instruction.Reads]
  simp [candidate]

theorem candidateReads_eq :
    candidateReads owner m = m.code.filterMap (candidateRead? owner) := by
  rw [candidateReads, List.filter_filterMap]
  rfl

section Scores

variable (wellFormed : ∀ m ∈ c.methods, ∀ i ∈ m.code, i.IsWellFormed)
include wellFormed

/-- The scores of a candidate field come to its votes. -/
theorem sumFor_scores (candidate : IsCandidate c.type g) :
    sumFor g (c.methods.flatMap (methodScores c.type)) = c.evidenceFor g := by
  rw [sumFor_flatMap, evidenceFor]
  congr 1
  apply List.map_congr_left
  intro m member
  exact sumFor_methodScores (wellFormed m member) candidate

/-- The fields that get a score are those read in the diagnostic code, in the same order. -/
theorem map_fst_scores :
    (c.methods.flatMap (methodScores c.type)).map Prod.fst =
      c.diagnosticCode.filterMap (candidateRead? c.type) := by
  rw [diagnosticCode]
  generalize c.type = owner
  revert wellFormed
  induction c.methods with
  | nil => exact fun _ => rfl
  | cons m rest ih =>
    intro wellFormed
    obtain ⟨first, others⟩ := List.forall_mem_cons.mp wellFormed
    rw [List.flatMap_cons, List.map_append, ih others, methodScores, MethodDecl.score_ofCode first]
    by_cases none : m.signalCount = 0
    · rw [if_pos none, List.filter_cons_of_neg (by simp [none])]
      rfl
    · have shows : 0 < m.signalCount := Nat.pos_of_ne_zero none
      rw [if_neg none, List.filter_cons_of_pos (by simpa using shows), List.flatMap_cons,
        List.filterMap_append, ← candidateReads_eq, List.map_map]
      congr 1
      exact List.map_id _

/-- A field gets a score if it is a candidate that has votes. -/
theorem mem_map_fst_scores_iff :
    g ∈ (c.methods.flatMap (methodScores c.type)).map Prod.fst ↔
      IsCandidate c.type g ∧ 0 < c.evidenceFor g := by
  constructor
  · intro scored
    have candidate : IsCandidate c.type g := by
      obtain ⟨i, _, seen⟩ := List.mem_filterMap.mp (map_fst_scores wellFormed ▸ scored)
      simpa using (Option.filter_eq_some_iff.mp seen).2
    refine ⟨candidate, ?_⟩
    obtain ⟨e, member, same⟩ := List.mem_map.mp scored
    obtain ⟨m, declared, given⟩ := List.mem_flatMap.mp member
    -- A method that gives a score has some signal and some read of the field.
    rw [methodScores, MethodDecl.score_ofCode (wellFormed m declared)] at given
    split at given
    · contradiction
    · rename_i shows
      obtain ⟨f, read, rfl⟩ := List.mem_map.mp given
      obtain rfl : f = g := same
      have some : 0 < m.code.countP (·.Reads f) := by
        rw [← count_candidateReads candidate]
        exact List.count_pos_iff.mpr read
      exact List.sum_pos_iff_exists_pos_nat.mpr
        ⟨_, List.mem_map_of_mem declared, Nat.mul_pos (Nat.pos_of_ne_zero shows) some⟩
  · rintro ⟨candidate, positive⟩
    by_contra none
    rw [← sumFor_scores wellFormed candidate, sumFor_of_notMem none] at positive
    contradiction

/-- The field that leads in the tally has the most votes. -/
theorem isLeader_scores_iff :
    IsLeader (c.methods.flatMap (methodScores c.type)) f ↔ c.IsTopScorer f := by
  have votes {g : FieldRef} (candidate : IsCandidate c.type g) := sumFor_scores wellFormed candidate
  have scored {g : FieldRef} := mem_map_fst_scores_iff (g := g) wellFormed
  -- To come first among the scores is to be read first.
  have order {g : FieldRef} (candidate : IsCandidate c.type f) (candidate' : IsCandidate c.type g) :
      ((c.methods.flatMap (methodScores c.type)).map Prod.fst).idxOf f <
          ((c.methods.flatMap (methodScores c.type)).map Prod.fst).idxOf g ↔
        c.diagnosticCode.findIdx (·.Reads f) < c.diagnosticCode.findIdx (·.Reads g) := by
    rw [map_fst_scores wellFormed, idxOf_filterMap_lt_iff]
    simp only [candidateRead?_eq_some_iff candidate, candidateRead?_eq_some_iff candidate']
  constructor
  · intro leads
    obtain ⟨candidate, positive⟩ := scored.mp leads.scored
    refine ⟨candidate, positive, fun g other => ?_, fun g other apart same => ?_⟩
    · -- A field without a score has no votes to exceed anything.
      by_cases has : 0 < c.evidenceFor g
      · have le := leads.greatest g (scored.mpr ⟨other, has⟩)
        rwa [votes other, votes candidate] at le
      · omega
    · have has : 0 < c.evidenceFor g := same ▸ positive
      refine (order candidate other).mp (leads.first g (scored.mpr ⟨other, has⟩) apart ?_)
      rwa [votes other, votes candidate]
  · intro top
    refine ⟨scored.mpr ⟨top.candidate, top.positive⟩, fun g has => ?_, fun g has apart same => ?_⟩
    · rw [votes (scored.mp has).1, votes top.candidate]
      exact top.greatest g (scored.mp has).1
    · have other := (scored.mp has).1
      rw [votes other, votes top.candidate] at same
      exact (order top.candidate other).mpr (top.first g other apart same)

theorem fieldByEvidence_eq_ok_iff : c.fieldByEvidence = .ok f ↔ c.IsTopScorer f := by
  rw [← isLeader_scores_iff wellFormed, ← winner?_eq_some_iff, fieldByEvidence, ofClass_eq]
  cases (ofScores (c.methods.flatMap (methodScores c.type))).winner? <;> simp

theorem fieldByEvidence_eq_error_iff {e : Unresolved} :
    c.fieldByEvidence = .error e ↔
      e = .notFound ∧ ∀ g, IsCandidate c.type g → c.evidenceFor g = 0 := by
  have none : (ofScores (c.methods.flatMap (methodScores c.type))).winner? = none ↔
      ∀ g, IsCandidate c.type g → c.evidenceFor g = 0 := by
    rw [winner?_eq_none_iff, ← List.map_eq_nil_iff (f := Prod.fst), List.eq_nil_iff_forall_not_mem]
    apply forall_congr'
    intro g
    rw [mem_map_fst_scores_iff wellFormed, not_and, Nat.not_lt, Nat.le_zero]
  rw [← none, fieldByEvidence, ofClass_eq]
  cases (ofScores (c.methods.flatMap (methodScores c.type))).winner? <;> simp [eq_comm]

end Scores

/-! ### The tier -/

/-- A type singles out a field if exactly one field is declared with it. -/
theorem fieldByUniqueType_eq_ok_iff {type : TypeDesc} :
    c.fieldByUniqueType type = .ok g ↔
      ∃ f, c.fields.filter (·.type = type) = [f] ∧ g = f.ref c.type := by
  have refs : c.fieldRefs.filter (·.type = type) =
      (c.fields.filter (·.type = type)).map (·.ref c.type) := by
    rw [fieldRefs, List.filter_map]
    rfl
  rw [fieldByUniqueType, refs]
  generalize c.fields.filter (·.type = type) = named
  rcases named with _ | ⟨f, _ | ⟨f', rest⟩⟩
  · simp
  · simpa using eq_comm
  · simp

/-- The only boxed integer that a class declares is its tier. If there is none, or more than one,
then the tier is the field with the most votes, and of several the one that is read first by a
method with a signal. No field is found exactly if none has any votes, and this is the only way to
fail. -/
theorem tierField_by_evidence {package : Option String} {classes : List ClassDecl}
    (accepted : Program.ofClasses package classes = .ok p) (declared : c ∈ p.classes) :
    (∀ f, c.fields.filter (·.type = .boxedInteger) = [f] → c.tierField = .ok (f.ref c.type)) ∧
      ((c.fields.filter (·.type = .boxedInteger)).length ≠ 1 →
        (∀ f, c.tierField = .ok f ↔ c.IsTopScorer f) ∧
          (c.tierField = .error .notFound ↔
            ∀ f, IsCandidate c.type f → c.evidenceFor f = 0)) ∧
      ∀ count, c.tierField ≠ .error (.ambiguous count) := by
  have wellFormed := (Program.ofClasses_eq_ok_iff.mp accepted).2.instruction_of_mem declared
  have unique {f : FieldDecl} (only : c.fields.filter (·.type = .boxedInteger) = [f]) :
      c.tierField = .ok (f.ref c.type) := by
    rw [tierField, fieldByUniqueType_eq_ok_iff.mpr ⟨f, only, rfl⟩]
  have votes (several : (c.fields.filter (·.type = .boxedInteger)).length ≠ 1) :
      c.tierField = c.fieldByEvidence := by
    rw [tierField]
    split
    · rename_i f found
      obtain ⟨_, only, _⟩ := fieldByUniqueType_eq_ok_iff.mp found
      exact absurd (by rw [only]; rfl) several
    · rfl
  refine ⟨fun f => unique, fun several => ?_, fun count => ?_⟩
  · rw [votes several, fieldByEvidence_eq_error_iff wellFormed]
    exact ⟨fun f => fieldByEvidence_eq_ok_iff wellFormed, and_iff_right rfl⟩
  · by_cases several : (c.fields.filter (·.type = .boxedInteger)).length = 1
    · obtain ⟨f, only⟩ := List.length_eq_one_iff.mp several
      rw [unique only]
      exact nofun
    · rw [votes several, Ne, fieldByEvidence_eq_error_iff wellFormed]
      exact fun found => nomatch found.1

/-- Two fields have two votes each. The second of them wins, since it is read first by the method
that votes; that the other one is read before in a method without a signal does not count. There are
two boxed integers, so neither of them is meant. -/
theorem tierField_by_evidence_tie :
    let field (name : String) : FieldRef := ⟨⟨"LUser;"⟩, name, .int⟩
    let read (name : String) : Instruction := .staticField (.sget .word) ⟨0⟩ (field name)
    let print : MethodDecl := ⟨"print", [], .void, 0, some ⟨1, 0, [read "a", .retVoid]⟩⟩
    let check : MethodDecl := ⟨"check", [], .boolean, 0, some ⟨2, 0,
      [.constInt ⟨1⟩ 1, read "b", read "a", .branchZero .ifEqz ⟨0⟩ ⟨0⟩, .ret ⟨0⟩]⟩⟩
    let fields : List FieldDecl := [⟨"a", .int, 0⟩, ⟨"b", .int, 0⟩, ⟨"x", .boxedInteger, 0⟩,
      ⟨"y", .boxedInteger, 0⟩]
    let c : ClassDecl := ⟨⟨"LUser;"⟩, none, 0, fields, [print, check]⟩
    let p : Program := ⟨none, [c]⟩
    Program.ofClasses p.package p.classes = .ok p ∧ c ∈ p.classes ∧
      (c.fields.filter (·.type = .boxedInteger)).length ≠ 1 ∧
      c.evidenceFor (field "a") = 2 ∧ c.evidenceFor (field "b") = 2 ∧
      c.tierField = .ok (field "b") ∧ c.IsTopScorer (field "b") := by
  intro field read print check fields c p
  have accepted : Program.ofClasses p.package p.classes = .ok p := rfl
  have declared : c ∈ p.classes := List.mem_singleton_self c
  have several : (c.fields.filter (·.type = .boxedInteger)).length ≠ 1 := by decide +zetaReduce
  have found : c.tierField = .ok (field "b") := by decide +zetaReduce
  obtain ⟨_, votes, _⟩ := tierField_by_evidence accepted declared
  exact ⟨accepted, declared, several, by decide +zetaReduce, by decide +zetaReduce, found,
    ((votes several).1 _).mp found⟩

end ClassDecl

/-! ### Votes as machine words -/

namespace FieldTally

/-- Adds the reads of one method with totals that are machine words; none if some total is then too
large for a word. -/
def addMethodWords? (owner : TypeDesc) (entries : List (FieldRef × UInt32)) (m : MethodDecl) :
    Option (List (FieldRef × UInt32)) :=
  let score := UInt32.ofNat (Evidence.ofCode m.code).score
  if score = 0 then some entries
  else (candidateReads owner m).foldlM (fun entries f => addWord? f score entries) entries

/-- The entries of the tally of a class with totals that are machine words; none if some total is
too large. -/
def ofClassWords? (c : ClassDecl) : Option (List (FieldRef × UInt32)) :=
  c.methods.foldlM (addMethodWords? c.type) []

/-- The scores that a method gives, in order, as machine words. -/
def methodWordScores (owner : TypeDesc) (m : MethodDecl) : List (FieldRef × UInt32) :=
  let score := UInt32.ofNat (Evidence.ofCode m.code).score
  if score = 0 then [] else (candidateReads owner m).map (·, score)

variable {entries : List (FieldRef × UInt32)}

theorem addMethodWords?_eq :
    addMethodWords? owner entries m =
      (methodWordScores owner m).foldlM (fun entries e => addWord? e.1 e.2 entries) entries := by
  rw [addMethodWords?, methodWordScores]
  split
  · rfl
  · rw [List.foldlM_map]

/-- With words as well, the tally of a class is the tally of what its methods give. -/
theorem ofClassWords?_eq :
    ofClassWords? c = wordEntries? (c.methods.flatMap (methodWordScores c.type)) := by
  rw [ofClassWords?, wordEntries?]
  generalize ([] : List (FieldRef × UInt32)) = entries
  induction c.methods generalizing entries with
  | nil => rfl
  | cons m rest ih =>
    rw [List.foldlM_cons, List.flatMap_cons, List.foldlM_append, addMethodWords?_eq]
    exact bind_congr ih

/-- A score is far from too large for a word, since there are four signals. -/
theorem toNat_ofNat_score (e : Evidence) : (UInt32.ofNat e.score).toNat = e.score :=
  UInt32.toNat_ofNat_of_lt' (Nat.lt_of_le_of_lt e.score_le (by decide))

theorem naturals_methodWordScores :
    naturals (methodWordScores owner m) = methodScores owner m := by
  have word := toNat_ofNat_score (Evidence.ofCode m.code)
  rw [methodWordScores, methodScores]
  generalize (Evidence.ofCode m.code).score = score at word
  -- Both go by whether there is a score at all.
  have zero : UInt32.ofNat score = 0 ↔ score = 0 := by
    rw [← UInt32.toNat_inj, word, UInt32.toNat_zero]
  by_cases none : score = 0
  · rw [if_pos none, if_pos (zero.mpr none)]
    rfl
  · rw [if_neg none, if_neg (mt zero.mp none), naturals, List.map_map]
    simp only [Function.comp_def, word]

theorem naturals_wordScores :
    naturals (c.methods.flatMap (methodWordScores c.type)) =
      c.methods.flatMap (methodScores c.type) := by
  rw [naturals, List.map_flatMap]
  congr 1
  funext m
  exact naturals_methodWordScores

/-- With words the entries are those of the tally of the class, if there are any. -/
theorem naturals_of_ofClassWords? (counted : ofClassWords? c = some entries) :
    naturals entries = (ofClass c).entries := by
  rw [ofClassWords?_eq] at counted
  rw [naturals_of_wordEntries? counted, naturals_wordScores, ofClass_eq]

end FieldTally

namespace ClassDecl

open FieldTally

/-- Words are enough for the tally of a class exactly if the votes for each field are a word. -/
theorem exists_ofClassWords?_iff (wellFormed : ∀ m ∈ c.methods, ∀ i ∈ m.code, i.IsWellFormed) :
    (∃ entries, ofClassWords? c = some entries) ↔
      ∀ f, IsCandidate c.type f → c.evidenceFor f < UInt32.size := by
  rw [ofClassWords?_eq, exists_wordEntries?_iff, naturals_wordScores]
  refine forall_congr' fun f => ?_
  by_cases candidate : IsCandidate c.type f
  · rw [sumFor_scores wellFormed candidate, imp_iff_right candidate]
  · -- Other fields get no scores.
    have unscored : f ∉ (c.methods.flatMap (methodScores c.type)).map Prod.fst := fun scored =>
      candidate ((mem_map_fst_scores_iff wellFormed).mp scored).1
    rw [sumFor_of_notMem unscored]
    exact iff_of_true (by decide) fun other => absurd other candidate

/-- A field has four votes at most for each instruction of the class. -/
theorem evidenceFor_le : c.evidenceFor f ≤ 4 * (c.methods.map (·.code.length)).sum := by
  rw [evidenceFor, ← List.sum_map_mul_left]
  refine List.sum_le_sum fun m _ => ?_
  exact Nat.mul_le_mul List.countP_le_length List.countP_le_length

/-- So words are enough for every class of less than 2³⁰ instructions. -/
theorem exists_ofClassWords?_of_length_lt
    (wellFormed : ∀ m ∈ c.methods, ∀ i ∈ m.code, i.IsWellFormed)
    (short : (c.methods.map (·.code.length)).sum < 2 ^ 30) :
    ∃ entries, ofClassWords? c = some entries := by
  refine (exists_ofClassWords?_iff wellFormed).mpr fun f _ => ?_
  calc c.evidenceFor f
      ≤ 4 * (c.methods.map (·.code.length)).sum := evidenceFor_le
    _ < 4 * 2 ^ 30 := Nat.mul_lt_mul_of_pos_left short (by decide)

/-- With totals that are machine words the field with the most votes is the same, as long as words
are enough. -/
theorem fieldByEvidence_eq_of_words {entries : List (FieldRef × UInt32)}
    (counted : ofClassWords? c = some entries) :
    c.fieldByEvidence = (wordWinner? entries).elim (.error .notFound) .ok := by
  rw [fieldByEvidence, wordWinner?_eq, naturals_of_ofClassWords? counted]
  change _ = (ofClass c).winner?.elim _ _
  cases (ofClass c).winner? with
  | none => rfl
  | some f => rfl

end ClassDecl

end DexPatch
