import DexPatch.Proofs.TallySums
import Mathlib.Data.Finset.Card
import Mathlib.Algebra.BigOperators.Group.List.Basic

/-!
# Tallies and the order of scores

A tally is known by the sums of its scores. Scores that come in another order make the same entries
in another order, and so the winner is another one only if the greatest total is attained more than
once.

Totals are natural numbers here. With totals that are machine words the entries are the same as long
as the sums are words, for a total never exceeds what it comes to in the end.

## Main definitions

* `FieldTally.wordEntries?` — the entries with totals that are machine words, as long as none of
  them is too large
* `FieldTally.wordWinner?` — the winner by totals that are machine words

## Main results

* `FieldTally.get_ofScores`, `FieldTally.size_ofScores` — what a tally answers
* `FieldTally.entries_ofScores_perm` — scores in another order
* `FieldTally.exists_wordEntries?_iff` — when words are enough
* `FieldTally.wordWinner?_eq` — words and numbers have the same winner
* `FieldTally.ofScores_sums_in_order` — all of it
-/

namespace DexPatch

namespace FieldTally

variable {f g : FieldRef} {scores other : List (FieldRef × Nat)}

/-! ### What a tally answers -/

/-- The total of a field is the sum of its scores. -/
theorem get_ofScores : (ofScores scores).get f = sumFor f scores := by
  rw [get, entries_ofScores, List.find?_map]
  cases found : (scores.map Prod.fst).eraseDups.find? ((fun e => e.1 = f) ∘ fun g =>
      (g, sumFor g scores)) with
  | some g =>
    obtain rfl : g = f := by simpa using List.find?_some found
    rfl
  | none =>
    have missing : f ∉ scores.map Prod.fst := fun scored => by
      simpa using List.find?_eq_none.mp found f (List.mem_eraseDups.mpr scored)
    exact (sumFor_of_notMem missing).symm

/-- There are as many entries as fields with a score. -/
theorem size_ofScores : (ofScores scores).size = (scores.map Prod.fst).toFinset.card := by
  have same : (scores.map Prod.fst).toFinset = (scores.map Prod.fst).eraseDups.toFinset := by
    ext f
    rw [List.mem_toFinset, List.mem_toFinset, List.mem_eraseDups]
  rw [size, entries_ofScores, List.length_map, same,
    List.toFinset_card_of_nodup (nodup_eraseDups _)]

/-- The tally has one entry for each field with a score, which holds the sum of its scores, and the
entries come by the first score of their fields. -/
structure SumsUp (t : FieldTally) (scores : List (FieldRef × Nat)) : Prop where
  fields : ∀ f, f ∈ t.entries.map Prod.fst ↔ f ∈ scores.map Prod.fst
  distinct : (t.entries.map Prod.fst).Nodup
  inOrder : (t.entries.map Prod.fst).Pairwise fun f g =>
    (scores.map Prod.fst).idxOf f < (scores.map Prod.fst).idxOf g
  totals : ∀ e ∈ t.entries, e.2 = sumFor e.1 scores

theorem sumsUp_ofScores (scores : List (FieldRef × Nat)) : (ofScores scores).SumsUp scores := by
  have fields : (ofScores scores).entries.map Prod.fst = (scores.map Prod.fst).eraseDups := by
    rw [entries_ofScores, List.map_map]
    exact List.map_id _
  refine ⟨fun f => ?_, fields ▸ nodup_eraseDups _, fields ▸ pairwise_eraseDups _,
    fun e listed => ?_⟩
  · rw [fields, List.mem_eraseDups]
  · rw [entries_ofScores] at listed
    obtain ⟨f, _, rfl⟩ := List.mem_map.mp listed
    rfl

theorem ofScores_eq_empty_iff : ofScores scores = empty ↔ scores = [] := by
  constructor
  · intro none
    rw [← winner?_eq_none_iff, none]
    rfl
  · rintro rfl
    rfl

/-! ### Scores in another order -/

theorem sumFor_perm (perm : other.Perm scores) : sumFor f other = sumFor f scores :=
  ((perm.filter _).map _).sum_eq

/-- The same fields have the same totals, in another order. -/
theorem entries_ofScores_perm (perm : other.Perm scores) :
    (ofScores other).entries.Perm (ofScores scores).entries := by
  have fields : (other.map Prod.fst).eraseDups.Perm (scores.map Prod.fst).eraseDups := by
    rw [List.perm_ext_iff_of_nodup (nodup_eraseDups _) (nodup_eraseDups _)]
    intro f
    rw [List.mem_eraseDups, List.mem_eraseDups, (perm.map Prod.fst).mem_iff]
  have sums : (fun f => (f, sumFor f other)) = fun f => (f, sumFor f scores) := by
    funext f
    rw [sumFor_perm perm]
  rw [entries_ofScores, entries_ofScores, sums]
  exact fields.map _

/-- A field whose sum exceeds all others leads in whatever order the scores come. -/
theorem isLeader_of_exceeds (scored : f ∈ scores.map Prod.fst)
    (exceeds : ∀ g ∈ scores.map Prod.fst, g ≠ f → sumFor g scores < sumFor f scores) :
    IsLeader scores f where
  scored := scored
  greatest g other := by
    by_cases same : g = f
    · rw [same]
    · exact Nat.le_of_lt (exceeds g other same)
  first g other apart tie := absurd tie (Nat.ne_of_lt (exceeds g other apart))

theorem winner?_of_exceeds_perm (perm : other.Perm scores) (scored : f ∈ scores.map Prod.fst)
    (exceeds : ∀ g ∈ scores.map Prod.fst, g ≠ f → sumFor g scores < sumFor f scores) :
    (ofScores other).winner? = some f := by
  have fields {g : FieldRef} : g ∈ other.map Prod.fst ↔ g ∈ scores.map Prod.fst :=
    (perm.map Prod.fst).mem_iff
  refine winner?_eq_some_iff.mpr (isLeader_of_exceeds (fields.mpr scored) fun g has apart => ?_)
  rw [sumFor_perm perm, sumFor_perm perm]
  exact exceeds g (fields.mp has) apart

/-! ### Totals as machine words -/

/-- Scores or totals that are machine words, as numbers. -/
def naturals (words : List (FieldRef × UInt32)) : List (FieldRef × Nat) :=
  words.map fun e => (e.1, e.2.toNat)

/-- Adds to the entry of a field, unless the total is then too large for a word; a new field comes
last. -/
def addWord? (f : FieldRef) (score : UInt32) :
    List (FieldRef × UInt32) → Option (List (FieldRef × UInt32))
  | [] => some [(f, score)]
  | (g, total) :: rest =>
    if g = f then
      if total.toNat + score.toNat < UInt32.size then some ((g, total + score) :: rest) else none
    else (addWord? f score rest).map ((g, total) :: ·)

/-- The entries of a tally whose totals are machine words; none if some total is too large. -/
def wordEntries? (words : List (FieldRef × UInt32)) : Option (List (FieldRef × UInt32)) :=
  words.foldlM (fun entries e => addWord? e.1 e.2 entries) []

/-- The better of a best entry so far and a later one, by totals that are machine words. -/
def betterWord (best : Option (FieldRef × UInt32)) (entry : FieldRef × UInt32) :
    Option (FieldRef × UInt32) :=
  match best with
  | none => some entry
  | some b => if b.2 < entry.2 then some entry else some b

/-- The field with the greatest total, the earliest of several, by totals that are machine words. -/
def wordWinner? (entries : List (FieldRef × UInt32)) : Option FieldRef :=
  (entries.foldl betterWord none).map Prod.fst

variable {words : List (FieldRef × UInt32)} {score : UInt32}

theorem naturals_cons {e : FieldRef × UInt32} :
    naturals (e :: words) = (e.1, e.2.toNat) :: naturals words := rfl

theorem naturals_concat {e : FieldRef × UInt32} :
    naturals (words ++ [e]) = naturals words ++ [(e.1, e.2.toNat)] :=
  List.map_append

theorem wordEntries?_concat {e : FieldRef × UInt32} :
    wordEntries? (words ++ [e]) = (wordEntries? words).bind (addWord? e.1 e.2) := by
  simp [wordEntries?, List.foldlM_append]

/-- A step with words is a step with numbers. -/
theorem naturals_of_addWord? {next : List (FieldRef × UInt32)}
    (added : addWord? f score words = some next) :
    naturals next = addEntry f score.toNat (naturals words) := by
  induction words generalizing next with
  | nil =>
    obtain rfl := Option.some.inj added
    rfl
  | cons entry rest ih =>
    obtain ⟨g, total⟩ := entry
    rw [addWord?] at added
    rw [naturals_cons, addEntry]
    split_ifs at added with same fits
    · obtain rfl := Option.some.inj added
      have sum : (total + score).toNat = total.toNat + score.toNat := by
        rw [UInt32.toNat_add, Nat.mod_eq_of_lt fits]
      rw [if_pos same, naturals_cons, sum]
    · obtain ⟨later, tail, rfl⟩ := Option.map_eq_some_iff.mp added
      rw [if_neg same, naturals_cons, ih tail]

/-- No step fails whose totals are words. -/
theorem exists_addWord? (fits : ∀ e ∈ addEntry f score.toNat (naturals words), e.2 < UInt32.size) :
    ∃ next, addWord? f score words = some next := by
  induction words with
  | nil => exact ⟨_, rfl⟩
  | cons entry rest ih =>
    obtain ⟨g, total⟩ := entry
    rw [naturals_cons, addEntry] at fits
    rw [addWord?]
    by_cases same : g = f
    · rw [if_pos same, List.forall_mem_cons] at fits
      rw [if_pos same, if_pos fits.1]
      exact ⟨_, rfl⟩
    · rw [if_neg same, List.forall_mem_cons] at fits
      obtain ⟨next, added⟩ := ih fits.2
      rw [if_neg same, added]
      exact ⟨_, rfl⟩

/-- With words the entries are those of the tally, if there are any. -/
theorem naturals_of_wordEntries? {entries : List (FieldRef × UInt32)}
    (counted : wordEntries? words = some entries) :
    naturals entries = (ofScores (naturals words)).entries := by
  induction words using List.reverseRecOn generalizing entries with
  | nil =>
    obtain rfl := Option.some.inj counted
    rfl
  | append_singleton words e ih =>
    rw [wordEntries?_concat, Option.bind_eq_some_iff] at counted
    obtain ⟨before, counted, last⟩ := counted
    rw [naturals_of_addWord? last, ih counted, naturals_concat, ofScores_concat, entries_add]

/-- The totals are words if the sums are. -/
theorem lt_of_mem_entries_ofScores {bound : Nat} (fits : ∀ f, sumFor f scores < bound)
    {e : FieldRef × Nat} (member : e ∈ (ofScores scores).entries) : e.2 < bound := by
  rw [(sumsUp_ofScores scores).totals e member]
  exact fits e.1

/-- Words are enough exactly if the sums are words. -/
theorem exists_wordEntries?_iff :
    (∃ entries, wordEntries? words = some entries) ↔
      ∀ f, sumFor f (naturals words) < UInt32.size := by
  constructor
  · rintro ⟨entries, counted⟩ f
    rw [← get_ofScores, get, ← naturals_of_wordEntries? counted, naturals, List.find?_map]
    cases entries.find? _ with
    | none => decide
    | some e => exact UInt32.toNat_lt_size e.2
  · intro fits
    induction words using List.reverseRecOn with
    | nil => exact ⟨[], rfl⟩
    | append_singleton words e ih =>
      rw [naturals_concat] at fits
      -- The sums so far are no greater than those in the end.
      obtain ⟨before, counted⟩ := ih fun f =>
        Nat.lt_of_le_of_lt (by rw [sumFor_append]; omega) (fits f)
      rw [wordEntries?_concat, counted, Option.bind_some]
      apply exists_addWord?
      rw [naturals_of_wordEntries? counted, ← entries_add, ← ofScores_concat]
      exact fun e member => lt_of_mem_entries_ofScores fits member

/-- Words compare like the numbers that they stand for, so they have the same winner. -/
theorem wordWinner?_eq {entries : List (FieldRef × UInt32)} :
    wordWinner? entries = winner? ⟨naturals entries⟩ := by
  let natural (e : FieldRef × UInt32) : FieldRef × Nat := (e.1, e.2.toNat)
  have kept : (naturals entries).foldl better none =
      (entries.foldl betterWord none).map natural := by
    rw [naturals, List.foldl_map]
    change entries.foldl (fun best e => better best (natural e)) (none.map natural) = _
    refine List.foldl_hom (Option.map natural) fun best e => ?_
    cases best with
    | none => rfl
    | some b => exact (apply_ite (Option.map natural) (b.2 < e.2) (some e) (some b)).symm
  rw [wordWinner?, winner?, kept, Option.map_map]
  rfl

/-! ### All of it -/

/-- The tally of some scores has one entry for each field, by the first score of the field and with
the sum of its scores, which is the answer for the field; the answer for other fields is zero. The
winner is the field with the greatest sum, and the first one of several; only the empty tally has
none. Scores in another order have the same totals, and the same winner if no other field comes up
to it. Totals that are machine words come to the same exactly as long as the sums are words. -/
theorem ofScores_sums_in_order (words : List (FieldRef × UInt32)) :
    let scores := naturals words
    let t := ofScores scores
    t.SumsUp scores ∧ (∀ f, t.get f = sumFor f scores) ∧
      (∀ f, f ∉ scores.map Prod.fst → t.get f = 0) ∧
      t.size = (scores.map Prod.fst).toFinset.card ∧
      (t.winner? = none ↔ t = empty) ∧ (∀ f, t.winner? = some f ↔ IsLeader scores f) ∧
      (∀ other : List (FieldRef × Nat), other.Perm scores →
        (ofScores other).entries.Perm t.entries ∧ (∀ f, (ofScores other).get f = t.get f) ∧
          ∀ f ∈ scores.map Prod.fst,
            (∀ g ∈ scores.map Prod.fst, g ≠ f → sumFor g scores < sumFor f scores) →
              t.winner? = some f ∧ (ofScores other).winner? = some f) ∧
      ((∃ entries, wordEntries? words = some entries) ↔ ∀ f, sumFor f scores < UInt32.size) ∧
      ∀ entries, wordEntries? words = some entries → naturals entries = t.entries := by
  intro scores t
  refine ⟨sumsUp_ofScores scores, fun f => get_ofScores, fun f none => ?_, size_ofScores,
    winner?_eq_none_iff.trans ofScores_eq_empty_iff.symm, fun f => winner?_eq_some_iff,
    fun other perm => ⟨entries_ofScores_perm perm, fun f => ?_, fun f scored exceeds => ?_⟩,
    exists_wordEntries?_iff, fun entries counted => naturals_of_wordEntries? counted⟩
  · exact get_ofScores.trans (sumFor_of_notMem none)
  · rw [get_ofScores, get_ofScores, sumFor_perm perm]
  · exact ⟨winner?_of_exceeds_perm (.refl scores) scored exceeds,
      winner?_of_exceeds_perm perm scored exceeds⟩

/-- Two fields take turns, and a third one has a score of zero. The scores come backwards as
well. -/
theorem ofScores_sums_in_order_by_turns :
    let field (name : String) : FieldRef := ⟨⟨"LUser;"⟩, name, .int⟩
    let words : List (FieldRef × UInt32) :=
      [(field "idle", 0), (field "a", 2), (field "b", 4), (field "a", 1)]
    let other := (naturals words).reverse
    other.Perm (naturals words) ∧ (ofScores other).get (field "a") = 3 ∧
      (ofScores (naturals words)).get (field "c") = 0 ∧
      (ofScores (naturals words)).winner? = some (field "b") ∧
      (ofScores other).winner? = some (field "b") ∧
      wordEntries? words = some [(field "idle", 0), (field "a", 3), (field "b", 4)] ∧
      ∀ f, sumFor f (naturals words) < UInt32.size := by
  intro field words other
  obtain ⟨_, sums, zero, _, _, _, orders, fits, _⟩ := ofScores_sums_in_order words
  have perm : other.Perm (naturals words) := List.reverse_perm _
  obtain ⟨_, same, winner⟩ := orders other perm
  obtain ⟨won, won'⟩ := winner (field "b") (by decide +zetaReduce) (by decide +zetaReduce)
  have counted : wordEntries? words =
      some [(field "idle", 0), (field "a", 3), (field "b", 4)] := by
    decide +zetaReduce
  refine ⟨perm, ?_, zero (field "c") (by decide +zetaReduce), won, won', counted,
    fits.mp ⟨_, counted⟩⟩
  rw [same, sums]
  decide +zetaReduce

end FieldTally

end DexPatch
