import DexPatch.Patch

/-!
# Patch selections

A selection is asked for by names, whose case does not matter. One scan goes over the names and
looks for one that no patch has, and another goes over the patches and keeps those that have one of
the names. The order of the names decides which unknown name is reported and nothing else: what is
selected depends on the names as a set, and it keeps the order and the repetitions of the patches.

## Main definitions

* `IsPatchName`, `Patch.IsNamedIn` — a name that some patch has, and a patch that has some name
* `SameRequest` — two lists of names that ask for the same
* `PicksOut` — a part of a list by the places that it comes from

## Main results

* `selectPatches_eq_error_iff` — the first unknown name is reported
* `selectPatches_eq_ok_iff` — what is selected if all names are known
* `selectPatches_sublist` — a selection keeps the order of the patches
* `selectPatches_by_name` — the selection by places, and what it does not depend on
-/

namespace DexPatch

variable {patches selection : List Patch} {names names' : List String} {n : String}

/-! ### Names -/

namespace SameName

variable {a b c : String}

theorem symm (same : SameName a b) : SameName b a := Eq.symm same

theorem trans (first : SameName a b) (second : SameName b c) : SameName a c :=
  Eq.trans first second

end SameName

/-- Some patch has the name. -/
def IsPatchName (patches : List Patch) (n : String) : Prop := ∃ p ∈ patches, SameName p.name n

instance (patches : List Patch) (n : String) : Decidable (IsPatchName patches n) :=
  inferInstanceAs (Decidable (∃ p ∈ patches, SameName p.name n))

/-- The patch has one of the names. -/
def Patch.IsNamedIn (names : List String) (p : Patch) : Prop := ∃ n ∈ names, SameName p.name n

instance (names : List String) (p : Patch) : Decidable (p.IsNamedIn names) :=
  inferInstanceAs (Decidable (∃ n ∈ names, SameName p.name n))

/-- Each name of either list is a name of the other one, up to case. -/
structure SameRequest (names names' : List String) : Prop where
  forth : ∀ n ∈ names, ∃ n' ∈ names', SameName n n'
  back : ∀ n' ∈ names', ∃ n ∈ names, SameName n n'

namespace SameRequest

variable (same : SameRequest names names')
include same

theorem isNamedIn_iff (p : Patch) : p.IsNamedIn names ↔ p.IsNamedIn names' := by
  constructor
  · rintro ⟨n, hn, named⟩
    obtain ⟨n', hn', recased⟩ := same.forth n hn
    exact ⟨n', hn', named.trans recased⟩
  · rintro ⟨n', hn', named⟩
    obtain ⟨n, hn, recased⟩ := same.back n' hn'
    exact ⟨n, hn, named.trans recased.symm⟩

theorem forall_isPatchName (known : ∀ n ∈ names, IsPatchName patches n) :
    ∀ n' ∈ names', IsPatchName patches n' := by
  intro n' hn'
  obtain ⟨n, hn, recased⟩ := same.back n' hn'
  obtain ⟨p, hp, named⟩ := known n hn
  exact ⟨p, hp, named.trans recased⟩

theorem eq_nil_iff : names = [] ↔ names' = [] := by
  constructor
  · rintro rfl
    refine List.eq_nil_iff_forall_not_mem.mpr fun n' hn' => ?_
    obtain ⟨n, hn, _⟩ := same.back n' hn'
    contradiction
  · rintro rfl
    refine List.eq_nil_iff_forall_not_mem.mpr fun n hn => ?_
    obtain ⟨n', hn', _⟩ := same.forth n hn
    contradiction

end SameRequest

/-! ### Places -/

section Places

variable {α : Type}

/-- The chosen elements are those with a property, one for each place where there is such an
element and in the order of the places. -/
def PicksOut (keep : α → Prop) (list chosen : List α) : Prop :=
  ∃ places : List Nat, places.Pairwise (· < ·) ∧
    (∀ k, k ∈ places ↔ ∃ a, list[k]? = some a ∧ keep a) ∧
    chosen.map some = places.map (list[·]?)

theorem picksOut_filter (keep : α → Prop) [DecidablePred keep] (list : List α) :
    PicksOut keep list (list.filter keep) := by
  refine ⟨(list.zipIdx.filter fun placed => keep placed.1).map Prod.snd, ?_, fun k => ?_, ?_⟩
  · have inOrder : (list.zipIdx.map Prod.snd).Pairwise (· < ·) := by
      rw [List.zipIdx_map_snd]
      exact List.pairwise_lt_range'
    exact inOrder.sublist (List.filter_sublist.map _)
  · simp [List.mk_mem_zipIdx_iff_getElem?]
  · have kept : (list.zipIdx.filter fun placed => keep placed.1).map Prod.fst = list.filter keep :=
      calc
        _ = (list.zipIdx.map Prod.fst).filter keep := List.filter_map.symm
        _ = list.filter keep := by rw [List.zipIdx_map_fst]
    rw [← kept, List.map_map, List.map_map]
    refine List.map_congr_left fun placed member => ?_
    exact (List.mk_mem_zipIdx_iff_getElem?.mp (List.mem_filter.mp member).1).symm

end Places

/-! ### Selections -/

/-- Either all names are known or there is a first one that is not. -/
theorem known_or_first_unknown (patches : List Patch) (names : List String) :
    (∀ n ∈ names, IsPatchName patches n) ∨
      ∃ before n after, names = before ++ n :: after ∧ ¬ IsPatchName patches n ∧
        ∀ k ∈ before, IsPatchName patches k := by
  induction names with
  | nil => exact .inl (List.forall_mem_nil _)
  | cons first rest ih =>
    by_cases known : IsPatchName patches first
    · rcases ih with others | ⟨before, n, after, rfl, unknown, earlier⟩
      · exact .inl (List.forall_mem_cons.mpr ⟨known, others⟩)
      · exact .inr ⟨first :: before, n, after, rfl, unknown,
          List.forall_mem_cons.mpr ⟨known, earlier⟩⟩
    · exact .inr ⟨[], first, rest, rfl, known, List.forall_mem_nil _⟩

theorem selectPatches_eq (patches : List Patch) (names : List String) :
    selectPatches patches names =
      match names.find? fun n => ¬ IsPatchName patches n with
      | some unknown => .error (.unknownPatch unknown)
      | none => .ok (if names = [] then patches else patches.filter (Patch.IsNamedIn names)) := by
  cases names <;> rfl

theorem selectPatches_of_known (known : ∀ n ∈ names, IsPatchName patches n) :
    selectPatches patches names =
      .ok (if names = [] then patches else patches.filter (Patch.IsNamedIn names)) := by
  have none : (names.find? fun n => ¬ IsPatchName patches n) = none := by
    simpa [List.find?_eq_none] using known
  rw [selectPatches_eq, none]

theorem selectPatches_of_unknown {before after : List String}
    (known : ∀ k ∈ before, IsPatchName patches k) (unknown : ¬ IsPatchName patches n) :
    selectPatches patches (before ++ n :: after) = .error (.unknownPatch n) := by
  have first : ((before ++ n :: after).find? fun n => ¬ IsPatchName patches n) = some n :=
    List.find?_eq_some_iff_append.mpr ⟨by simpa using unknown, before, after, rfl,
      by simpa using known⟩
  rw [selectPatches_eq, first]

/-- The first name that no patch has is reported. -/
theorem selectPatches_eq_error_iff {e : RunError} :
    selectPatches patches names = .error e ↔
      ∃ before n after, names = before ++ n :: after ∧ e = .unknownPatch n ∧
        ¬ IsPatchName patches n ∧ ∀ k ∈ before, IsPatchName patches k := by
  constructor
  · intro failed
    rcases known_or_first_unknown patches names with
      known | ⟨before, n, after, rfl, unknown, earlier⟩
    · rw [selectPatches_of_known known] at failed
      contradiction
    · rw [selectPatches_of_unknown earlier unknown] at failed
      exact ⟨before, n, after, rfl, (Except.error.inj failed).symm, unknown, earlier⟩
  · rintro ⟨before, n, after, rfl, rfl, unknown, earlier⟩
    exact selectPatches_of_unknown earlier unknown

theorem selectPatches_eq_ok_iff :
    selectPatches patches names = .ok selection ↔
      (∀ n ∈ names, IsPatchName patches n) ∧
        selection = if names = [] then patches else patches.filter (Patch.IsNamedIn names) := by
  constructor
  · intro selected
    rcases known_or_first_unknown patches names with
      known | ⟨before, n, after, rfl, unknown, earlier⟩
    · rw [selectPatches_of_known known] at selected
      exact ⟨known, (Except.ok.inj selected).symm⟩
    · rw [selectPatches_of_unknown earlier unknown] at selected
      contradiction
  · rintro ⟨known, rfl⟩
    exact selectPatches_of_known known

/-- A selection keeps the order of what it selects from. -/
theorem selectPatches_sublist (selected : selectPatches patches names = .ok selection) :
    selection.Sublist patches := by
  obtain ⟨_, rfl⟩ := selectPatches_eq_ok_iff.mp selected
  split
  · exact .refl patches
  · exact List.filter_sublist

/-- Every selected patch is one of those that were offered. -/
theorem mem_of_selectPatches (selected : selectPatches patches names = .ok selection) :
    ∀ patch ∈ selection, patch ∈ patches :=
  fun _ listed => (selectPatches_sublist selected).subset listed

/-- Order, repetitions and case of the names make no difference to what is selected. -/
theorem SameRequest.selectPatches_eq_ok (same : SameRequest names names')
    (selected : selectPatches patches names = .ok selection) :
    selectPatches patches names' = .ok selection := by
  obtain ⟨known, rfl⟩ := selectPatches_eq_ok_iff.mp selected
  refine selectPatches_eq_ok_iff.mpr ⟨same.forall_isPatchName known, ?_⟩
  simp only [same.eq_nil_iff, same.isNamedIn_iff]

/-- What is selected is selected again. -/
theorem selectPatches_selection (selected : selectPatches patches names = .ok selection) :
    selectPatches selection names = .ok selection := by
  obtain ⟨known, rfl⟩ := selectPatches_eq_ok_iff.mp selected
  split
  · rename_i empty
    rw [empty]
    rfl
  · rename_i asked
    refine selectPatches_eq_ok_iff.mpr ⟨fun n hn => ?_, ?_⟩
    · -- A patch with this name has one of the names, so it has been selected.
      obtain ⟨p, hp, named⟩ := known n hn
      exact ⟨p, List.mem_filter.mpr ⟨hp, decide_eq_true ⟨n, hn, named⟩⟩, named⟩
    · rw [if_neg asked]
      exact (List.filter_eq_self.mpr fun p hp => (List.mem_filter.mp hp).2).symm

/-- The names of a request are known or the first unknown one is reported. If they are known then
the patches that have one of the names are selected, each at its place; names that ask for the same
select the same, and asking once more changes nothing. No names at all select every patch. -/
theorem selectPatches_by_name (patches : List Patch) :
    (∀ names e, selectPatches patches names = .error e ↔
      ∃ before n after, names = before ++ n :: after ∧ e = .unknownPatch n ∧
        ¬ IsPatchName patches n ∧ ∀ k ∈ before, IsPatchName patches k) ∧
    (∀ names, names ≠ [] → (∀ n ∈ names, IsPatchName patches n) →
      ∃ selection, selectPatches patches names = .ok selection ∧
        PicksOut (Patch.IsNamedIn names) patches selection) ∧
    (∀ names names' selection, SameRequest names names' →
      selectPatches patches names = .ok selection →
        selectPatches patches names' = .ok selection) ∧
    (∀ names selection, selectPatches patches names = .ok selection →
      selectPatches selection names = .ok selection) ∧
    selectPatches patches [] = .ok patches := by
  refine ⟨fun names e => selectPatches_eq_error_iff, fun names asked known => ?_,
    fun names names' selection same => same.selectPatches_eq_ok,
    fun names selection => selectPatches_selection, rfl⟩
  rw [selectPatches_of_known known, if_neg asked]
  exact ⟨_, rfl, picksOut_filter (Patch.IsNamedIn names) patches⟩

/-- A patch that is listed twice, asked for in two ways and selected again, and a name that only
differs in the case of a letter outside ASCII. -/
theorem selectPatches_by_name_listed_twice :
    let umlaut : Patch := ⟨"Über", "", [], []⟩
    let patches : List Patch := [umlaut, ⟨"Other", "", [], []⟩, umlaut]
    (∃ selection, selectPatches patches ["ÜBER"] = .ok selection ∧
      PicksOut (Patch.IsNamedIn ["ÜBER"]) patches selection ∧
      selectPatches patches ["Über", "ÜbER"] = .ok selection ∧
      selectPatches selection ["ÜBER"] = .ok selection) ∧
    selectPatches patches ["other", "über", "any"] = .error (.unknownPatch "über") := by
  intro umlaut patches
  obtain ⟨failed, succeeded, independent, again, -⟩ := selectPatches_by_name patches
  obtain ⟨selection, selected, places⟩ := succeeded ["ÜBER"] (by decide) (by decide)
  have same : SameRequest ["ÜBER"] ["Über", "ÜbER"] := ⟨by decide, by decide⟩
  refine ⟨⟨selection, selected, places, independent _ _ _ same selected, again _ _ selected⟩, ?_⟩
  exact (failed _ _).mpr ⟨["other"], "über", ["any"], rfl, rfl, by decide, by decide⟩

end DexPatch
