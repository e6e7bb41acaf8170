import DexPatch.Proofs.Identity

/-!
# References of methods

A reference gives the class of a method and, apart from that, its signature: its name, its
parameters and its result. The checks compare the types of classes, and the names and types of the
fields of a class, but of a method they look at the body alone. So a reference always leads to one
class, and in this class to each of the methods with its signature. It names one method exactly if
the class declares the signature once, and whether it does is never asked.

## Main definitions

* `MethodDecl.signature` — what a reference says of a method besides its class

## Main results

* `Program.IsWellFormed.owner_eq_of_methodRef?` — a reference leads to one class
* `Program.IsWellFormed.existsUnique_methodRef?_iff` — which references name one method
* `Program.isWellFormed_mapMethods_iff` — the checks look at nothing but the bodies of methods
* `Program.methodRef_names_one_iff` — when the references of a program name one method each
* `Program.methodRef_names_two` — a reference of two methods with different code
-/

namespace DexPatch

/-- An element stands at one position of a list if it is counted once. -/
theorem existsUnique_getElem?_iff {α : Type} [BEq α] [LawfulBEq α] {list : List α} {a : α} :
    (∃! n : Nat, list[n]? = some a) ↔ list.count a = 1 := by
  induction list with
  | nil => simp
  | cons b rest ih =>
    by_cases here : b = a
    · -- The first position is one, and no other one may be.
      subst here
      rw [List.count_cons_self, Nat.add_eq_right, List.count_eq_zero]
      constructor
      · rintro ⟨n, _, only⟩ member
        obtain ⟨k, there⟩ := List.mem_iff_getElem?.mp member
        exact Nat.succ_ne_zero k ((only (k + 1) there).trans (only 0 rfl).symm)
      · intro fresh
        refine ⟨0, rfl, fun n there => ?_⟩
        cases n with
        | zero => rfl
        | succ k =>
          have later : rest[k]? = some b := there
          exact absurd (List.mem_of_getElem? later) fresh
    · rw [List.count_cons_of_ne here, ← ih]
      constructor
      · rintro ⟨n, there, only⟩
        cases n with
        | zero => exact absurd (Option.some.inj there) here
        | succ k => exact ⟨k, there, fun j also => Nat.succ.inj (only (j + 1) also)⟩
      · rintro ⟨k, there, only⟩
        refine ⟨k + 1, there, fun n also => ?_⟩
        cases n with
        | zero => exact absurd (Option.some.inj also) here
        | succ j => exact congrArg Nat.succ (only j also)

namespace MethodDecl

variable {m n : MethodDecl} {owner owner' : TypeDesc}

/-- What a reference says of a method besides its class. -/
def signature (m : MethodDecl) : String × List TypeDesc × TypeDesc := (m.name, m.params, m.ret)

theorem ref_eq_ref_iff :
    m.ref owner = n.ref owner' ↔ owner = owner' ∧ m.signature = n.signature := by
  simp [ref, signature]

end MethodDecl

namespace Program

variable {p : Program} {a b id : MethodId} {c : ClassDecl} {m : MethodDecl} {ref : MethodRef}

theorem methodRef?_eq_some_iff :
    p.methodRef? id = some ref ↔
      ∃ c m, p.class? id.owner = some c ∧ c.methods[id.index]? = some m ∧ m.ref c.type = ref := by
  simp only [methodRef?, locate?, Option.map_bind, Option.bind_eq_some_iff, Option.map_eq_some_iff,
    Function.comp_apply]
  constructor
  · rintro ⟨c, inside, _, ⟨m, there, rfl⟩, same⟩
    exact ⟨c, m, inside, there, same⟩
  · rintro ⟨c, m, inside, there, same⟩
    exact ⟨c, inside, _, ⟨m, there, rfl⟩, same⟩

namespace IsWellFormed

variable (wellFormed : p.IsWellFormed)
include wellFormed

/-- A reference leads to one class. -/
theorem owner_eq_of_methodRef? (first : p.methodRef? a = some ref)
    (second : p.methodRef? b = some ref) : a.owner = b.owner := by
  obtain ⟨c, m, inFirst, _, rfl⟩ := methodRef?_eq_some_iff.mp first
  obtain ⟨d, n, inSecond, _, same⟩ := methodRef?_eq_some_iff.mp second
  exact wellFormed.classId_eq inFirst inSecond (MethodDecl.ref_eq_ref_iff.mp same).1.symm

/-- A method of a class has its reference in common with the methods of this class that have the
same signature, and with no other. -/
theorem methodRef?_eq_ref_iff {k : ClassId} (declared : p.class? k = some c) :
    p.methodRef? id = some (m.ref c.type) ↔
      id.owner = k ∧ (c.methods.map MethodDecl.signature)[id.index]? = some m.signature := by
  rw [methodRef?_eq_some_iff, List.getElem?_map, Option.map_eq_some_iff]
  constructor
  · rintro ⟨d, n, inside, there, same⟩
    obtain ⟨types, signatures⟩ := MethodDecl.ref_eq_ref_iff.mp same
    have owner := wellFormed.classId_eq inside declared types
    obtain rfl := Option.some.inj (declared.symm.trans (owner ▸ inside))
    exact ⟨owner, n, there, signatures⟩
  · rintro ⟨rfl, n, there, signatures⟩
    exact ⟨c, n, declared, there, MethodDecl.ref_eq_ref_iff.mpr ⟨rfl, signatures⟩⟩

/-- The reference of a method names one method exactly if its class declares its signature once. -/
theorem existsUnique_methodRef?_iff (member : c ∈ p.classes) :
    (∃! id, p.methodRef? id = some (m.ref c.type)) ↔
      (c.methods.map MethodDecl.signature).count m.signature = 1 := by
  obtain ⟨k, declared⟩ : ∃ k, p.class? k = some c :=
    let ⟨k, there⟩ := List.mem_iff_getElem?.mp member
    ⟨⟨k⟩, there⟩
  rw [← existsUnique_getElem?_iff]
  constructor
  · rintro ⟨id, here, only⟩
    obtain ⟨rfl, there⟩ := (wellFormed.methodRef?_eq_ref_iff declared).mp here
    refine ⟨id.index, there, fun n also => ?_⟩
    have same := only ⟨id.owner, n⟩ ((wellFormed.methodRef?_eq_ref_iff declared).mpr ⟨rfl, also⟩)
    exact congrArg MethodId.index same
  · rintro ⟨n, there, only⟩
    refine ⟨⟨k, n⟩, (wellFormed.methodRef?_eq_ref_iff declared).mpr ⟨rfl, there⟩, fun id also => ?_⟩
    obtain ⟨rfl, here⟩ := (wellFormed.methodRef?_eq_ref_iff declared).mp also
    rw [← only id.index here]

/-- All references name one method exactly if no class declares a signature twice. -/
theorem methodRef?_injective_iff :
    (∀ a b ref, p.methodRef? a = some ref → p.methodRef? b = some ref → a = b) ↔
      ∀ c ∈ p.classes, (c.methods.map MethodDecl.signature).Nodup := by
  constructor
  · intro injective c member
    rw [List.nodup_iff_count_eq_one]
    intro s hs
    obtain ⟨m, declared, rfl⟩ := List.mem_map.mp hs
    rw [← wellFormed.existsUnique_methodRef?_iff member]
    obtain ⟨k, inside⟩ := List.mem_iff_getElem?.mp member
    obtain ⟨n, there⟩ := List.mem_iff_getElem?.mp declared
    have here : p.methodRef? ⟨⟨k⟩, n⟩ = some (m.ref c.type) :=
      methodRef?_eq_some_iff.mpr ⟨c, m, inside, there, rfl⟩
    exact ⟨⟨⟨k⟩, n⟩, here, fun id also => injective id _ _ also here⟩
  · intro distinct a b ref first second
    obtain ⟨c, m, inside, there, rfl⟩ := methodRef?_eq_some_iff.mp first
    have member : c ∈ p.classes := List.mem_of_getElem? inside
    have listed : m.signature ∈ c.methods.map MethodDecl.signature :=
      List.mem_map_of_mem (List.mem_of_getElem? there)
    have once := List.count_eq_one_of_mem (distinct c member) listed
    exact ((wellFormed.existsUnique_methodRef?_iff member).mpr once).unique first second

end IsWellFormed

/-! ### What is not checked -/

/-- The checks look at nothing but the bodies of methods. -/
theorem isWellFormed_mapMethods_iff {f : MethodDecl → MethodDecl}
    (keeps : ∀ m, (f m).body = m.body) : (p.mapMethods f).IsWellFormed ↔ p.IsWellFormed := by
  have types : (p.mapMethods f).classes.map ClassDecl.type = p.classes.map ClassDecl.type := by
    rw [mapMethods, List.map_map]
    rfl
  constructor
  · intro checked
    have kept {c : ClassDecl} (member : c ∈ p.classes) :
        { c with methods := c.methods.map f } ∈ (p.mapMethods f).classes :=
      List.mem_map.mpr ⟨c, member, rfl⟩
    refine ⟨types ▸ checked.types, fun c member => ?_, fun c member m declared b has => ?_⟩
    · have distinct := checked.fields _ (kept member)
      exact distinct
    · exact checked.bodies _ (kept member) (f m) (List.mem_map_of_mem declared) b (keeps m ▸ has)
  · intro checked
    refine ⟨types ▸ checked.types, fun c member => ?_, fun c member m declared b has => ?_⟩
    · obtain ⟨d, inside, rfl⟩ := List.mem_map.mp member
      exact checked.fields d inside
    · obtain ⟨d, inside, rfl⟩ := List.mem_map.mp member
      obtain ⟨n, there, rfl⟩ := List.mem_map.mp declared
      exact checked.bodies d inside n there b (keeps n ▸ has)

/-- In a program that passes its checks a reference leads to one class, and it names one method
exactly if the class declares the signature once. So the references of a program name one method
each exactly if no class declares a signature twice. The checks do not see to that: whatever is made
of the names, the parameters and the results of the methods, the program passes all the same. -/
theorem methodRef_names_one_iff {package : Option String} {classes : List ClassDecl}
    (accepted : ofClasses package classes = .ok p) :
    (∀ a b ref, p.methodRef? a = some ref → p.methodRef? b = some ref → a.owner = b.owner) ∧
      (∀ c ∈ p.classes, ∀ m ∈ c.methods, (∃! id, p.methodRef? id = some (m.ref c.type)) ↔
        (c.methods.map MethodDecl.signature).count m.signature = 1) ∧
      ((∀ a b ref, p.methodRef? a = some ref → p.methodRef? b = some ref → a = b) ↔
        ∀ c ∈ p.classes, (c.methods.map MethodDecl.signature).Nodup) ∧
      ∀ f : MethodDecl → MethodDecl, (∀ m, (f m).body = m.body) →
        ofClasses package (p.mapMethods f).classes = .ok (p.mapMethods f) := by
  obtain ⟨rfl, wellFormed⟩ := ofClasses_eq_ok_iff.mp accepted
  exact ⟨fun a b ref first second => wellFormed.owner_eq_of_methodRef? first second,
    fun c member m _ => wellFormed.existsUnique_methodRef?_iff member,
    wellFormed.methodRef?_injective_iff,
    fun f keeps =>
      ofClasses_eq_ok_iff.mpr ⟨rfl, (isWellFormed_mapMethods_iff keeps).mpr wellFormed⟩⟩

/-- A getter for each of two results, and a class with two getters for one result. -/
theorem methodRef_names_one_iff_overloads :
    let getter (ret : TypeDesc) : MethodDecl :=
      ⟨"get", [], ret, 0, some ⟨1, 0, [.constZero ⟨0⟩, .ret ⟨0⟩]⟩⟩
    let single : ClassDecl := ⟨⟨"LA;"⟩, none, 0, [], [getter .int, getter .boolean]⟩
    let double : ClassDecl := ⟨⟨"LB;"⟩, none, 0, [], [getter .int, getter .int]⟩
    let p : Program := ⟨none, [single, double]⟩
    let unnamed (m : MethodDecl) : MethodDecl := { m with name := "" }
    ofClasses p.package p.classes = .ok p ∧
      (∃! id, p.methodRef? id = some ((getter .int).ref ⟨"LA;"⟩)) ∧
      (¬ ∃! id, p.methodRef? id = some ((getter .int).ref ⟨"LB;"⟩)) ∧
      (∀ m, (unnamed m).body = m.body) ∧
      ofClasses none (p.mapMethods unnamed).classes = .ok (p.mapMethods unnamed) := by
  intro getter single double p unnamed
  have accepted : ofClasses p.package p.classes = .ok p := rfl
  obtain ⟨_, named, _, unchecked⟩ := methodRef_names_one_iff accepted
  refine ⟨accepted, (named single (by decide) (getter .int) (by decide)).mpr (by decide),
    fun one => ?_, fun m => rfl, unchecked unnamed fun m => rfl⟩
  have once := (named double (by decide) (getter .int) (by decide)).mp one
  exact absurd once (by decide)

/-- A class declares one method twice, with different code, and the program is accepted. -/
theorem methodRef_names_two :
    let answer (value : Int32) : MethodDecl :=
      ⟨"m", [], .boolean, 0, some ⟨1, 0, [.constInt ⟨0⟩ value, .ret ⟨0⟩]⟩⟩
    let p : Program := ⟨none, [⟨⟨"LA;"⟩, none, 0, [], [answer 0, answer 1]⟩]⟩
    let ref : MethodRef := ⟨⟨"LA;"⟩, "m", [], .boolean⟩
    ofClasses p.package p.classes = .ok p ∧
      p.methodRef? ⟨⟨0⟩, 0⟩ = some ref ∧ p.methodRef? ⟨⟨0⟩, 1⟩ = some ref ∧
      p.method? ⟨⟨0⟩, 0⟩ ≠ p.method? ⟨⟨0⟩, 1⟩ ∧
      ¬ ∀ a b ref, p.methodRef? a = some ref → p.methodRef? b = some ref → a = b := by
  intro answer p ref
  refine ⟨rfl, rfl, rfl, by decide +zetaReduce, fun injective => ?_⟩
  exact absurd (injective ⟨⟨0⟩, 0⟩ ⟨⟨0⟩, 1⟩ ref rfl rfl) (by decide)

end Program

end DexPatch
