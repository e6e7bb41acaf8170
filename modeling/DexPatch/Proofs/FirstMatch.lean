import DexPatch.Proofs.MethodLists

/-!
# First matches

A search by fingerprint takes the first match that it comes across, so what it finds depends on
the order of the methods: classes as they are declared, and methods as they are declared in each
of them. No class before that of the first match has a match at all.

## Main definitions

* `MethodId.IsBefore` — the order of declaration
* `MethodDecl.Loads` — some instruction of a method loads a string
* `Program.IsFirstWith` — the first class that has a method with some property

## Main results

* `Program.pairwise_methods` — the methods are listed as they are declared
* `Fingerprint.matches_iff` — a match, said without the pool of strings
* `Fingerprint.find?_eq_none_iff`, `Fingerprint.isFirstWith_of_find?` — what a search finds
-/

namespace DexPatch

open Program

variable {p : Program} {id : MethodId} {m : MethodDecl} {s : String}

/-! ### The order of methods -/

/-- The method is declared before the other one. -/
def MethodId.IsBefore (id other : MethodId) : Prop :=
  id.owner.index < other.owner.index ∨ id.owner = other.owner ∧ id.index < other.index

/-- The methods are listed as they are declared. -/
theorem Program.pairwise_methods : (p.methods.map Prod.fst).Pairwise MethodId.IsBefore := by
  rw [methods, List.map_flatMap, List.pairwise_flatMap]
  have owner {c : ClassId} {id : MethodId} (listed : id ∈ (p.classMethods c).map Prod.fst) :
      id.owner = c := by
    obtain ⟨⟨_, m⟩, member, rfl⟩ := List.mem_map.mp listed
    exact (mem_classMethods.mp member).1
  -- By position inside a class, and by class across classes.
  constructor
  · intro c _
    refine (pairwise_classMethods c).imp_of_mem fun listed listed' before => ?_
    exact .inr ⟨(owner listed).trans (owner listed').symm, before⟩
  · have inOrder : p.classIds.Pairwise fun c d => c.index < d.index := by
      rw [classIds, List.pairwise_map]
      exact List.pairwise_lt_range
    refine inOrder.imp fun {c d} before id listed id' listed' => .inl ?_
    rwa [owner listed, owner listed']

/-- The class is declared at this position, some method of it has the property, and no method of
an earlier class has it. -/
structure Program.IsFirstWith (p : Program) (P : MethodDecl → Prop) (id : ClassId)
    (c : ClassDecl) : Prop where
  declared : p.class? id = some c
  has : ∃ m ∈ c.methods, P m
  earlier : ∀ other d, other.index < id.index → p.class? other = some d → ∀ m ∈ d.methods, ¬ P m

/-! ### Fingerprints -/

/-- Some instruction of the method loads the string. -/
def MethodDecl.Loads (m : MethodDecl) (s : String) : Prop :=
  ∃ i ∈ m.code, i.loadedString? = some s

instance (m : MethodDecl) (s : String) : Decidable (m.Loads s) :=
  inferInstanceAs (Decidable (∃ i ∈ m.code, _))

theorem ConstantPool.mem_ofMethod_iff : s ∈ ofMethod m ↔ m.Loads s := by
  rw [ofMethod, mem_ofStrings, List.mem_filterMap]
  rfl

namespace Fingerprint

variable {f : Fingerprint} {found : FingerprintMatch}

theorem matches_iff :
    f.Matches m ↔ (∀ type ∈ f.returns, m.ret = type) ∧ ∀ s ∈ f.strings, m.Loads s := by
  simp only [Matches, ConstantPool.ContainsAll, ConstantPool.mem_ofMethod_iff]

theorem find?_eq : f.find? p = p.methods.findSome? (f.found? p) := by
  rw [find?, findAll_eq, List.head?_filterMap]

theorem found?_eq_some_iff :
    f.found? p (id, m) = some found ↔
      f.Matches m ∧ ∃ c, p.class? id.owner = some c ∧ found = ⟨id, id.owner, c.type⟩ := by
  rw [found?]
  split_ifs with fits
  · simp only [Option.map_eq_some_iff, fits, true_and, eq_comm (a := found)]
  · simp [fits]

/-- A method that is declared is found if and only if it matches. -/
theorem found?_eq_none_iff (declared : (id, m) ∈ p.methods) :
    f.found? p (id, m) = none ↔ ¬ f.Matches m := by
  obtain ⟨c, inClass, _⟩ := method?_eq_some_iff.mp (mem_methods.mp declared)
  simp [found?, inClass]

theorem find?_eq_none_iff : f.find? p = none ↔ ∀ id m, p.method? id = some m → ¬ f.Matches m := by
  rw [find?_eq, List.findSome?_eq_none_iff]
  constructor
  · intro none id m there
    have listed := mem_methods.mpr there
    exact (found?_eq_none_iff listed).mp (none _ listed)
  · rintro none ⟨id, m⟩ listed
    exact (found?_eq_none_iff listed).mpr (none id m (mem_methods.mp listed))

/-- The class of the first match is the first class that has a match. -/
theorem isFirstWith_of_find? (first : f.find? p = some found) :
    ∃ c, p.IsFirstWith f.Matches found.owner c := by
  rw [find?_eq, List.findSome?_eq_some_iff] at first
  obtain ⟨before, ⟨id, m⟩, after, split, here, none⟩ := first
  have listed : (id, m) ∈ p.methods := by
    rw [split]
    simp
  obtain ⟨fits, c, declared, rfl⟩ := found?_eq_some_iff.mp here
  obtain ⟨c', declared', inClass⟩ := method?_eq_some_iff.mp (mem_methods.mp listed)
  obtain rfl := Option.some.inj (declared.symm.trans declared')
  refine ⟨c, declared, ⟨m, List.mem_of_getElem? inClass, fits⟩, ?_⟩
  intro other d earlier otherClass n inside fits'
  obtain ⟨k, position⟩ := List.mem_iff_getElem?.mp inside
  have listed' : (⟨other, k⟩, n) ∈ p.methods :=
    mem_methods.mpr (method?_eq_some_iff.mpr ⟨d, otherClass, position⟩)
  have side := listed'
  rw [split, List.mem_append, List.mem_cons] at side
  rcases side with before | same | after
  · exact (found?_eq_none_iff listed').mp (none _ before) fits'
  · obtain rfl := (Prod.mk.inj same).1
    exact Nat.lt_irrefl _ earlier
  · -- What is listed after the first match is not declared in an earlier class.
    have inOrder := p.pairwise_methods
    rw [split, List.map_append, List.map_cons, List.pairwise_append, List.pairwise_cons] at inOrder
    rcases inOrder.2.1.1 _ (List.mem_map_of_mem after) with owners | ⟨owners, _⟩
    · exact Nat.lt_asymm earlier owners
    · exact Nat.lt_irrefl _ (owners ▸ earlier)

end Fingerprint

end DexPatch
