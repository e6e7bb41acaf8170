import DexPatch.FieldTally
import Mathlib.Algebra.GroupWithZero.Nat
import Mathlib.Data.List.Induction

/-!
# Tallies as sums

A tally is built by adding scores one at a time, and each score either goes to an entry that is
there or makes a new one at the end. The order in which the scores come in shows in one respect
only: the entries are listed by their first score. The totals are sums, and the winner is the first
entry that no other one exceeds.

## Main definitions

* `FieldTally.ofScores` — the tally of some scores, added in order
* `FieldTally.sumFor` — what the scores of one field come to
* `FieldTally.IsLeader` — the field with the greatest sum, the first of several

## Main results

* `pairwise_eraseDups` — distinct elements are listed by their first occurrence
* `FieldTally.entries_ofScores` — the entries of a tally, all at once
* `FieldTally.winner?_eq_some_iff` — the winner leads
* `FieldTally.winner?_eq_none_iff` — only an empty tally has no winner
-/

namespace DexPatch

/-! ### Distinct elements -/

section Distinct

variable {α : Type} [DecidableEq α] {list : List α} {a : α}

/-- A last element adds nothing if it is there already. -/
theorem eraseDups_concat :
    (list ++ [a]).eraseDups = if a ∈ list then list.eraseDups else list.eraseDups ++ [a] := by
  rw [List.eraseDups_append]
  by_cases known : a ∈ list <;> simp [List.removeAll, List.eraseDups_cons, known]

/-- Distinct elements are listed by their first occurrence. -/
theorem pairwise_eraseDups (list : List α) :
    list.eraseDups.Pairwise fun a b => list.idxOf a < list.idxOf b := by
  induction list using List.reverseRecOn with
  | nil => simp
  | append_singleton list a ih =>
    -- What stands in the list before stays where it is.
    have stays {b : α} (known : b ∈ list) : (list ++ [a]).idxOf b = list.idxOf b := by
      rw [List.idxOf_append, if_pos known]
    have before : list.eraseDups.Pairwise fun b c =>
        (list ++ [a]).idxOf b < (list ++ [a]).idxOf c := by
      refine ih.imp_of_mem fun {b c} hb hc lt => ?_
      rw [stays (List.mem_eraseDups.mp hb), stays (List.mem_eraseDups.mp hc)]
      exact lt
    rw [eraseDups_concat]
    split
    · exact before
    · rename_i fresh
      refine List.pairwise_append.mpr ⟨before, List.pairwise_singleton _ _, ?_⟩
      intro b hb c hc
      obtain rfl := List.mem_singleton.mp hc
      have known := List.mem_eraseDups.mp hb
      rw [stays known, List.idxOf_append, if_neg fresh]
      have inside := List.idxOf_lt_length_of_mem known
      omega

theorem nodup_eraseDups (list : List α) : list.eraseDups.Nodup :=
  (pairwise_eraseDups list).imp fun lt same => absurd (same ▸ lt) (Nat.lt_irrefl _)

end Distinct

namespace FieldTally

variable {t : FieldTally} {f g : FieldRef} {score : Nat} {scores : List (FieldRef × Nat)}
  {entries : List (FieldRef × Nat)} {best : FieldRef × Nat}

/-! ### Adding up -/

/-- The tally of some scores, added in order. -/
def ofScores (scores : List (FieldRef × Nat)) : FieldTally :=
  scores.foldl (fun t e => t.add e.1 e.2) empty

/-- What the scores of a field come to. -/
def sumFor (f : FieldRef) (scores : List (FieldRef × Nat)) : Nat :=
  ((scores.filter (·.1 = f)).map Prod.snd).sum

theorem entries_add : (t.add f score).entries = addEntry f score t.entries := rfl

theorem ofScores_concat : ofScores (scores ++ [(f, score)]) = (ofScores scores).add f score := by
  simp [ofScores]

theorem sumFor_append {more : List (FieldRef × Nat)} :
    sumFor f (scores ++ more) = sumFor f scores + sumFor f more := by
  simp [sumFor]

theorem sumFor_singleton : sumFor g [(f, score)] = if f = g then score else 0 := by
  by_cases same : f = g <;> simp [sumFor, same]

/-- A field without a score has nothing to sum up. -/
theorem sumFor_of_notMem (none : f ∉ scores.map Prod.fst) : sumFor f scores = 0 := by
  have nothing : scores.filter (·.1 = f) = [] := by
    rw [List.filter_eq_nil_iff]
    intro e member same
    exact none (of_decide_eq_true same ▸ List.mem_map_of_mem member)
  rw [sumFor, nothing]
  rfl

/-- A new field comes last. -/
theorem addEntry_of_notMem (fresh : f ∉ entries.map Prod.fst) :
    addEntry f score entries = entries ++ [(f, score)] := by
  induction entries with
  | nil => rfl
  | cons entry rest ih =>
    simp only [List.map_cons, List.mem_cons, not_or] at fresh
    rw [addEntry, if_neg (Ne.symm fresh.1), ih fresh.2, List.cons_append]

/-- The score of a field that is there goes to its entry. -/
theorem addEntry_of_mem (distinct : (entries.map Prod.fst).Nodup)
    (known : f ∈ entries.map Prod.fst) :
    addEntry f score entries =
      entries.map fun e => (e.1, e.2 + if f = e.1 then score else 0) := by
  induction entries with
  | nil => contradiction
  | cons entry rest ih =>
    obtain ⟨g, total⟩ := entry
    rw [List.map_cons, List.nodup_cons] at distinct
    rw [addEntry, List.map_cons]
    by_cases here : g = f
    · subst here
      -- The entries after it are of other fields.
      have others : rest.map (fun e => (e.1, e.2 + if g = e.1 then score else 0)) = rest := by
        refine (List.map_congr_left fun e member => ?_).trans (List.map_id rest)
        have apart : g ≠ e.1 := fun same => distinct.1 (List.mem_map.mpr ⟨e, member, same.symm⟩)
        simp [apart]
      rw [if_pos rfl, if_pos rfl, others]
    · have later : f ∈ rest.map Prod.fst := by
        rcases List.mem_cons.mp known with same | later
        · exact absurd same.symm here
        · exact later
      rw [if_neg here, if_neg (Ne.symm here), ih distinct.2 later, Nat.add_zero]

/-- The entries are the fields that have a score, by their first score, with their sums. -/
theorem entries_ofScores :
    (ofScores scores).entries =
      (scores.map Prod.fst).eraseDups.map fun f => (f, sumFor f scores) := by
  induction scores using List.reverseRecOn with
  | nil => rfl
  | append_singleton scores e ih =>
    obtain ⟨f, score⟩ := e
    have fields : (ofScores scores).entries.map Prod.fst = (scores.map Prod.fst).eraseDups := by
      rw [ih, List.map_map]
      exact List.map_id _
    rw [ofScores_concat, entries_add, List.map_append, List.map_singleton, eraseDups_concat]
    by_cases known : f ∈ scores.map Prod.fst
    · rw [addEntry_of_mem (fields ▸ nodup_eraseDups _) (fields ▸ List.mem_eraseDups.mpr known),
        if_pos known, ih, List.map_map]
      apply List.map_congr_left
      intro g _
      simp only [Function.comp_apply, sumFor_append, sumFor_singleton]
    · have fresh : f ∉ (ofScores scores).entries.map Prod.fst := by
        rwa [fields, List.mem_eraseDups]
      rw [addEntry_of_notMem fresh, if_neg known, ih, List.map_append, List.map_singleton,
        sumFor_append, sumFor_singleton, if_pos rfl, sumFor_of_notMem known, Nat.zero_add]
      congr 1
      apply List.map_congr_left
      intro g member
      -- The fields from before are other ones, so their sums stay.
      have apart : f ≠ g := fun same => known (same ▸ List.mem_eraseDups.mp member)
      rw [sumFor_append, sumFor_singleton, if_neg apart, Nat.add_zero]

/-! ### The winner -/

/-- The first entry whose total no other one exceeds. -/
def IsFirstBest (entries : List (FieldRef × Nat)) (best : FieldRef × Nat) : Prop :=
  ∃ before after, entries = before ++ best :: after ∧ (∀ e ∈ before, e.2 < best.2) ∧
    ∀ e ∈ after, e.2 ≤ best.2

theorem IsFirstBest.le (first : IsFirstBest entries best) {e : FieldRef × Nat}
    (member : e ∈ entries) : e.2 ≤ best.2 := by
  obtain ⟨before, after, rfl, less, le⟩ := first
  rcases List.mem_append.mp member with earlier | later
  · exact Nat.le_of_lt (less e earlier)
  · rcases List.mem_cons.mp later with rfl | later
    · exact Nat.le_refl _
    · exact le e later

theorem foldl_better_eq_none_iff : entries.foldl better none = none ↔ entries = [] := by
  rcases List.eq_nil_or_concat entries with rfl | ⟨before, e, rfl⟩
  · simp
  · rw [List.concat_eq_append, List.foldl_append, List.foldl_cons, List.foldl_nil]
    refine iff_of_false ?_ (by simp)
    unfold better
    split
    · exact nofun
    · split <;> exact nofun

/-- Going through the entries and keeping the best comes to the first best one. -/
theorem isFirstBest_of_foldl (kept : entries.foldl better none = some best) :
    IsFirstBest entries best := by
  induction entries using List.reverseRecOn generalizing best with
  | nil => contradiction
  | append_singleton entries e ih =>
    rw [List.foldl_append, List.foldl_cons, List.foldl_nil] at kept
    cases found : entries.foldl better none with
    | none =>
      obtain rfl := foldl_better_eq_none_iff.mp found
      obtain rfl := Option.some.inj kept
      exact ⟨[], [], rfl, nofun, nofun⟩
    | some b =>
      have first := ih found
      rw [found, better] at kept
      split_ifs at kept with more
      · -- The new entry exceeds the best so far, and so all before it.
        obtain rfl := Option.some.inj kept
        exact ⟨entries, [], rfl, fun d member => Nat.lt_of_le_of_lt (first.le member) more, nofun⟩
      · obtain rfl := Option.some.inj kept
        obtain ⟨before, after, rfl, less, le⟩ := first
        refine ⟨before, after ++ [e], by simp, less, ?_⟩
        intro d member
        rcases List.mem_append.mp member with old | new
        · exact le d old
        · rw [List.mem_singleton.mp new]
          exact Nat.not_lt.mp more

/-- The field has the greatest sum. Of several fields with the same sum it is the one that had the
first score. -/
structure IsLeader (scores : List (FieldRef × Nat)) (f : FieldRef) : Prop where
  scored : f ∈ scores.map Prod.fst
  greatest : ∀ g ∈ scores.map Prod.fst, sumFor g scores ≤ sumFor f scores
  first : ∀ g ∈ scores.map Prod.fst, g ≠ f → sumFor g scores = sumFor f scores →
    (scores.map Prod.fst).idxOf f < (scores.map Prod.fst).idxOf g

/-- At most one field leads. -/
theorem IsLeader.unique (leads : IsLeader scores f) (other : IsLeader scores g) : f = g := by
  by_contra apart
  have same : sumFor f scores = sumFor g scores :=
    Nat.le_antisymm (other.greatest f leads.scored) (leads.greatest g other.scored)
  have before := leads.first g other.scored (Ne.symm apart) same.symm
  have after := other.first f leads.scored apart same
  omega

theorem isLeader_of_winner? (won : (ofScores scores).winner? = some f) : IsLeader scores f := by
  obtain ⟨⟨_, total⟩, kept, rfl⟩ := Option.map_eq_some_iff.mp won
  have firstBest := isFirstBest_of_foldl kept
  rw [entries_ofScores] at firstBest
  have le {g : FieldRef} (scored : g ∈ scores.map Prod.fst) : sumFor g scores ≤ total :=
    firstBest.le (List.mem_map_of_mem (List.mem_eraseDups.mpr scored))
  obtain ⟨before, after, split, less, _⟩ := firstBest
  obtain ⟨fields, rest, fieldsSplit, rfl, restSplit⟩ := List.map_eq_append_iff.mp split
  obtain ⟨f, later, rfl, entry, rfl⟩ := List.map_eq_cons_iff.mp restSplit
  obtain ⟨rfl, rfl⟩ := Prod.mk.inj entry
  have listed {g : FieldRef} : g ∈ scores.map Prod.fst ↔ g ∈ fields ++ f :: later := by
    rw [← fieldsSplit, List.mem_eraseDups]
  refine ⟨listed.mpr (by simp), fun g scored => le scored, ?_⟩
  intro g scored apart same
  rcases List.mem_append.mp (listed.mp scored) with earlier | here
  · -- Fields that came earlier have smaller sums.
    have smaller := less _ (List.mem_map_of_mem earlier)
    exact absurd same (Nat.ne_of_lt smaller)
  · have order := pairwise_eraseDups (scores.map Prod.fst)
    rw [fieldsSplit, List.pairwise_append, List.pairwise_cons] at order
    exact order.2.1.1 g ((List.mem_cons.mp here).resolve_left apart)

/-- Only an empty tally has no winner. -/
theorem winner?_eq_none_iff : (ofScores scores).winner? = none ↔ scores = [] := by
  rw [winner?, Option.map_eq_none_iff, foldl_better_eq_none_iff, entries_ofScores,
    List.map_eq_nil_iff]
  constructor
  · intro none
    rw [← List.map_eq_nil_iff (f := Prod.fst), List.eq_nil_iff_forall_not_mem]
    intro f scored
    have listed := List.mem_eraseDups.mpr scored
    rw [none] at listed
    contradiction
  · rintro rfl
    rfl

/-- The winner is the field that leads. -/
theorem winner?_eq_some_iff : (ofScores scores).winner? = some f ↔ IsLeader scores f := by
  constructor
  · exact isLeader_of_winner?
  · intro leads
    have some : (ofScores scores).winner? ≠ none := by
      rw [Ne, winner?_eq_none_iff]
      rintro rfl
      exact absurd leads.scored (by simp)
    obtain ⟨g, won⟩ := Option.ne_none_iff_exists'.mp some
    rw [won, (isLeader_of_winner? won).unique leads]

end FieldTally

end DexPatch
