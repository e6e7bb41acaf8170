import DexPatch.Proofs.FirstMatch

/-!
# Lists of matches

What a fingerprint finds is one entry for each method that matches, in the order of declaration. An
entry names the class of its method, which is looked up once more for its type. That look-up could
lose a match only if the class were not there, but no method is listed without its class.

A fingerprint that asks for more strings, or for a return type, finds no more than before. Of the
strings only the set counts, and one method must load them all. So it is not enough that each of
them is in the pool of a class, though the pool of the class of a match does have them all.

## Main definitions

* `Fingerprint.IsNarrower` — a fingerprint that asks for at least as much as another one

## Main results

* `Instruction.loadedString?_eq_some_iff` — a string is loaded by one opcode only
* `Fingerprint.mem_findAll`, `Fingerprint.map_method_findAll_sublist` — the entries and their order
* `Fingerprint.findAll_sublist`, `Fingerprint.findAll_congr` — two fingerprints compared
* `Fingerprint.findAll_complete_ordered` — all of it
-/

namespace DexPatch

open Program

variable {p : Program} {c : ClassDecl} {id : MethodId} {m : MethodDecl} {s : String}
  {f g : Fingerprint} {e : FingerprintMatch}

theorem Opcode.has_string_iff {op : Opcode} : op.has .string ↔ op = .constString := by
  cases op <;> simp [has, flags]

theorem Instruction.loadedString?_eq_some_iff {i : Instruction} :
    i.loadedString? = some s ↔ i.opcode = .constString ∧ i.string? = some s := by
  rw [loadedString?, ← Opcode.has_string_iff]
  split <;> simp_all

theorem MethodDecl.loads_iff :
    m.Loads s ↔ ∃ i ∈ m.code, i.opcode = .constString ∧ i.string? = some s := by
  simp only [Loads, Instruction.loadedString?_eq_some_iff]

/-- The pool of a class is the union of the pools of its methods. -/
theorem ConstantPool.mem_ofClass_iff : s ∈ ofClass c ↔ ∃ m ∈ c.methods, s ∈ ofMethod m := by
  simp only [ofClass, ofMethod, mem_ofStrings, List.mem_flatMap]

namespace Fingerprint

/-! ### One list -/

/-- The entries are those of the methods that match. -/
theorem mem_findAll :
    e ∈ f.findAll p ↔ ∃ m, p.method? e.method = some m ∧ f.Matches m ∧
      ∃ c, p.class? e.method.owner = some c ∧ e = ⟨e.method, e.method.owner, c.type⟩ := by
  rw [findAll_eq, List.mem_filterMap]
  -- Both ways go through the one listed method that the entry was made of.
  constructor
  · rintro ⟨⟨id, m⟩, listed, here⟩
    obtain ⟨fits, c, declared, rfl⟩ := found?_eq_some_iff.mp here
    exact ⟨m, mem_methods.mp listed, fits, c, declared, rfl⟩
  · rintro ⟨m, there, fits, c, declared, same⟩
    exact ⟨(e.method, m), mem_methods.mpr there, found?_eq_some_iff.mpr ⟨fits, c, declared, same⟩⟩

/-- No match is lost when its class is looked up again. -/
theorem mem_map_method_findAll :
    id ∈ (f.findAll p).map FingerprintMatch.method ↔
      ∃ m, p.method? id = some m ∧ f.Matches m := by
  rw [List.mem_map]
  constructor
  · rintro ⟨e, member, rfl⟩
    obtain ⟨m, there, fits, _⟩ := mem_findAll.mp member
    exact ⟨m, there, fits⟩
  · rintro ⟨m, there, fits⟩
    obtain ⟨c, declared, _⟩ := method?_eq_some_iff.mp there
    exact ⟨⟨id, id.owner, c.type⟩, mem_findAll.mpr ⟨m, there, fits, c, declared, rfl⟩, rfl⟩

/-- The entries come in the order in which the methods are listed. -/
theorem map_method_findAll_sublist :
    ((f.findAll p).map FingerprintMatch.method).Sublist (p.methods.map Prod.fst) := by
  rw [findAll_eq]
  refine map_filterMap_sublist ?_ p.methods
  rintro ⟨id, m⟩ e here
  obtain ⟨_, c, _, rfl⟩ := found?_eq_some_iff.mp here
  rfl

/-- The class of a match has all required strings, since its method has them. -/
theorem containsAll_ofClass (fits : f.Matches m) (inside : m ∈ c.methods) :
    (ConstantPool.ofClass c).ContainsAll f.strings := fun s required =>
  ConstantPool.mem_ofClass_iff.mpr ⟨m, inside, fits.2 s required⟩

/-! ### Two lists -/

/-- The fingerprint asks for all that the other one asks for, and perhaps for more. -/
structure IsNarrower (g f : Fingerprint) : Prop where
  strings : f.strings ⊆ g.strings
  returns : ∀ type ∈ f.returns, type ∈ g.returns

theorem IsNarrower.matches (narrower : g.IsNarrower f) (fits : g.Matches m) : f.Matches m :=
  ⟨fun type required => fits.1 type (narrower.returns type required),
    fun s required => fits.2 s (narrower.strings required)⟩

/-- A narrower fingerprint finds less, in the same order. -/
theorem findAll_sublist (narrower : g.IsNarrower f) : (g.findAll p).Sublist (f.findAll p) := by
  refine List.Sublist.filterMap _ (List.monotone_filter_right p.methods ?_)
  rintro ⟨id, m⟩ fits
  exact decide_eq_true (narrower.matches (of_decide_eq_true fits))

/-- Two fingerprints that ask for the same find the same. -/
theorem findAll_congr (narrower : g.IsNarrower f) (wider : f.IsNarrower g) :
    g.findAll p = f.findAll p :=
  (findAll_sublist narrower).antisymm (findAll_sublist wider)

/-! ### All of it -/

/-- A fingerprint finds the methods that return the type asked for and load every required string,
each once and in the order of declaration; the first of them is what it finds if only one is asked
for. The order and the number of the required strings do not matter, asking for more only takes
matches away, and the class of a match has all the strings. -/
theorem findAll_complete_ordered (f : Fingerprint) (p : Program) :
    (∀ id, id ∈ (f.findAll p).map FingerprintMatch.method ↔
      ∃ m, p.method? id = some m ∧ (∀ type ∈ f.returns, m.ret = type) ∧
        ∀ s ∈ f.strings, ∃ i ∈ m.code, i.opcode = .constString ∧ i.string? = some s) ∧
      ((f.findAll p).map FingerprintMatch.method).Nodup ∧
      ((f.findAll p).map FingerprintMatch.method).Pairwise MethodId.IsBefore ∧
      (∀ e ∈ f.findAll p, e.owner = e.method.owner ∧ ∃ c, p.class? e.owner = some c ∧
        e.definingClass = c.type ∧ (ConstantPool.ofClass c).ContainsAll f.strings) ∧
      f.find? p = (f.findAll p).head? ∧ f.find? p = p.methods.findSome? (f.found? p) ∧
      (∀ g : Fingerprint, g.returns = f.returns → (∀ s, s ∈ g.strings ↔ s ∈ f.strings) →
        g.findAll p = f.findAll p) ∧
      ∀ g : Fingerprint, f.strings ⊆ g.strings → (∀ type ∈ f.returns, type ∈ g.returns) →
        (g.findAll p).Sublist (f.findAll p) := by
  refine ⟨fun id => ?_, map_method_findAll_sublist.nodup p.nodup_methods,
    p.pairwise_methods.sublist map_method_findAll_sublist, fun e member => ?_, rfl, find?_eq,
    fun g returns strings => ?_, fun g strings returns => findAll_sublist ⟨strings, returns⟩⟩
  · simp only [mem_map_method_findAll, matches_iff, MethodDecl.loads_iff]
  · -- The class that the entry names is the one that its method was found in.
    obtain ⟨m, there, fits, c, declared, same⟩ := mem_findAll.mp member
    obtain ⟨c', declared', inClass⟩ := method?_eq_some_iff.mp there
    obtain rfl := Option.some.inj (declared.symm.trans declared')
    rw [same]
    exact ⟨rfl, c, declared, rfl, containsAll_ofClass fits (List.mem_of_getElem? inClass)⟩
  · refine findAll_congr ⟨fun s required => ?_, fun type required => ?_⟩
      ⟨fun s required => ?_, fun type required => ?_⟩
    · exact (strings s).mpr required
    · rwa [returns]
    · exact (strings s).mp required
    · rwa [← returns]

/-- Two methods load both strings, and there is a class whose methods load one each. Asking for the
strings in another order and once more finds the same, and asking for a boolean only the second of
the two. -/
theorem findAll_complete_ordered_repeated_strings :
    let load (s : String) : Instruction := .constString ⟨0⟩ s
    let method (ret : TypeDesc) (code : List Instruction) : MethodDecl :=
      ⟨"run", [], ret, 0, some ⟨1, 0, code⟩⟩
    let split : ClassDecl := ⟨⟨"LSplit;"⟩, none, 0, [],
      [method .void [load "a", .retVoid], method .void [load "b", .retVoid]]⟩
    let whole : ClassDecl := ⟨⟨"LWhole;"⟩, none, 0, [],
      [method .void [load "b", load "a", .retVoid],
        method .boolean [load "a", load "b", .ret ⟨0⟩]]⟩
    let p : Program := ⟨none, [split, whole]⟩
    let f : Fingerprint := ⟨"both", ["a", "b"], none⟩
    let repeated : Fingerprint := ⟨"repeated", ["b", "a", "b"], none⟩
    let boolean : Fingerprint := ⟨"boolean", ["a", "b"], some .boolean⟩
    (f.findAll p).map FingerprintMatch.method = [⟨⟨1⟩, 0⟩, ⟨⟨1⟩, 1⟩] ∧
      repeated.findAll p = f.findAll p ∧ (boolean.findAll p).Sublist (f.findAll p) ∧
      boolean.find? p = some ⟨⟨⟨1⟩, 1⟩, ⟨1⟩, ⟨"LWhole;"⟩⟩ := by
  intro load method split whole p f repeated boolean
  have same (s : String) : s ∈ repeated.strings ↔ s ∈ f.strings := by
    simp only [repeated, f, List.mem_cons, List.not_mem_nil, or_false]
    tauto
  have any (type : TypeDesc) (required : type ∈ f.returns) : type ∈ boolean.returns :=
    absurd required (Option.not_mem_none type)
  obtain ⟨_, _, _, _, _, _, alike, narrower⟩ := findAll_complete_ordered f p
  exact ⟨by decide +zetaReduce, alike repeated rfl same,
    narrower boolean (List.Subset.refl f.strings) any, by decide +zetaReduce⟩

end Fingerprint

end DexPatch
