import DexPatch.Proofs.EditHistory
import DexPatch.Proofs.TierField

/-!
# Identities

A class is named by its type and a field by its owner, its name and its type. The checks compare
the types of all classes, but the fields of one class only with each other, by name and type. That
is enough: fields of two classes differ in their owner. So a type leads back to the one class that
has it, and a reference to the one field that is declared with it, in the whole program and however
its code has been edited.

## Main definitions

* `Program.fieldRef?` — the reference of the field at a position of a class

## Main results

* `Program.IsWellFormed.classByType?_eq` — looking up the type of a class finds this class
* `Program.IsWellFormed.nodup_fieldRefs` — no two declared fields have the same reference
* `Program.IsWellFormed.fieldRef?_injective` — a reference has one place at most
* `Program.identities_unique` — the same after any history of edits
-/

namespace DexPatch

namespace Program

variable {p : Program} {a b id : ClassId} {c d : ClassDecl} {j k : Nat} {ref : FieldRef}

/-- The reference of the field at a position of a class. -/
def fieldRef? (p : Program) (id : ClassId) (k : Nat) : Option FieldRef :=
  (p.class? id).bind fun c => c.fieldRefs[k]?

theorem fieldRef?_eq_some_iff :
    p.fieldRef? id k = some ref ↔ ∃ c, p.class? id = some c ∧ c.fieldRefs[k]? = some ref :=
  Option.bind_eq_some_iff

theorem owner_of_mem_fieldRefs (member : ref ∈ c.fieldRefs) : ref.owner = c.type := by
  obtain ⟨f, _, rfl⟩ := List.mem_map.mp member
  rfl

namespace IsWellFormed

variable (wellFormed : p.IsWellFormed)
include wellFormed

/-- Two classes have two types. -/
theorem classId_eq (first : p.class? a = some c) (second : p.class? b = some d)
    (same : c.type = d.type) : a = b := by
  obtain ⟨i⟩ := a
  obtain ⟨j⟩ := b
  have types : (p.classes.map ClassDecl.type)[i]? = (p.classes.map ClassDecl.type)[j]? := by
    rw [class?] at first second
    rw [List.getElem?_map, List.getElem?_map, first, second, Option.map_some, Option.map_some, same]
  have inside : i < (p.classes.map ClassDecl.type).length := by
    rw [List.length_map]
    exact (List.getElem?_eq_some_iff.mp first).1
  rw [(List.getElem?_inj inside wellFormed.types).mp types]

/-- Looking up the type of a class finds this class and no other. -/
theorem classByType?_eq (declared : p.class? id = some c) :
    p.classByType? c.type = some (id, c) := by
  have member : c ∈ p.classes := List.mem_of_getElem? declared
  -- The search stops at some class of this type, and there is one only.
  obtain ⟨i, first⟩ : ∃ i, p.classes.findIdx? (·.type == c.type) = some i :=
    ⟨_, List.findIdx?_eq_some_of_exists ⟨c, member, beq_self_eq_true _⟩⟩
  obtain ⟨inside, same, _⟩ := List.findIdx?_eq_some_iff_getElem.mp first
  have there : p.class? ⟨i⟩ = some p.classes[i] := List.getElem?_eq_getElem inside
  obtain rfl := wellFormed.classId_eq there declared (beq_iff_eq.mp same)
  rw [classByType?, first, Option.bind_some, declared, Option.map_some]

/-- No two fields of one class have the same reference. -/
theorem nodup_classFieldRefs (member : c ∈ p.classes) : c.fieldRefs.Nodup := by
  have keys : c.fieldRefs.map (fun ref => (ref.name, ref.type)) =
      c.fields.map fun f => (f.name, f.type) := by
    rw [ClassDecl.fieldRefs, List.map_map]
    rfl
  exact .of_map _ (keys ▸ wellFormed.fields c member)

/-- No two declared fields have the same reference. -/
theorem nodup_fieldRefs : (p.classes.flatMap ClassDecl.fieldRefs).Nodup := by
  refine List.nodup_flatMap.mpr ⟨fun c member => wellFormed.nodup_classFieldRefs member, ?_⟩
  -- Fields of two classes have different owners.
  refine (List.pairwise_map.mp wellFormed.types).imp fun different ref first second => ?_
  exact different ((owner_of_mem_fieldRefs first).symm.trans (owner_of_mem_fieldRefs second))

/-- A reference has one place at most. -/
theorem fieldRef?_injective (first : p.fieldRef? a j = some ref)
    (second : p.fieldRef? b k = some ref) : a = b ∧ j = k := by
  -- The owner leads to the class, and name and type lead to the position.
  obtain ⟨c, inFirst, there⟩ := fieldRef?_eq_some_iff.mp first
  obtain ⟨d, inSecond, there'⟩ := fieldRef?_eq_some_iff.mp second
  have types : c.type = d.type := by
    rw [← owner_of_mem_fieldRefs (List.mem_of_getElem? there),
      ← owner_of_mem_fieldRefs (List.mem_of_getElem? there')]
  obtain rfl := wellFormed.classId_eq inFirst inSecond types
  obtain rfl := Option.some.inj (inFirst.symm.trans inSecond)
  obtain ⟨inside, _⟩ := List.getElem?_eq_some_iff.mp there
  have distinct := wellFormed.nodup_classFieldRefs (List.mem_of_getElem? inFirst)
  exact ⟨rfl, (List.getElem?_inj inside distinct).mp (there.trans there'.symm)⟩

/-- A type that singles out a field of a class singles out one place of the program. -/
theorem existsUnique_place_of_fieldByUniqueType {type : TypeDesc} (declared : p.class? id = some c)
    (found : c.fieldByUniqueType type = .ok ref) :
    ∃! place : ClassId × Nat, p.fieldRef? place.1 place.2 = some ref := by
  obtain ⟨f, only, rfl⟩ := ClassDecl.fieldByUniqueType_eq_ok_iff.mp found
  have member : f ∈ c.fields := List.mem_of_mem_filter (only ▸ List.mem_singleton_self f)
  obtain ⟨k, there⟩ := List.mem_iff_getElem?.mp (List.mem_map_of_mem (f := (·.ref c.type)) member)
  have here : p.fieldRef? id k = some (f.ref c.type) :=
    fieldRef?_eq_some_iff.mpr ⟨c, declared, there⟩
  refine ⟨(id, k), here, fun place also => ?_⟩
  obtain ⟨sameClass, sameIndex⟩ := wellFormed.fieldRef?_injective also here
  exact Prod.ext sameClass sameIndex

end IsWellFormed

/-- However a program has been edited, the type of a class leads back to this class, no two of all
the declared fields have the same reference, and a field that a type singles out is the only one in
the program with its reference. -/
theorem identities_unique {package : Option String} {classes : List ClassDecl}
    (accepted : ofClasses package classes = .ok p) (history : List Operation) :
    let q := replay history p
    (∀ id c, q.class? id = some c → q.classByType? c.type = some (id, c)) ∧
      (q.classes.flatMap ClassDecl.fieldRefs).Nodup ∧
      (∀ a j b k ref, q.fieldRef? a j = some ref → q.fieldRef? b k = some ref → a = b ∧ j = k) ∧
      ∀ id c type ref, q.class? id = some c → c.fieldByUniqueType type = .ok ref →
        ∃! place : ClassId × Nat, q.fieldRef? place.1 place.2 = some ref := by
  intro q
  have wellFormed : q.IsWellFormed :=
    (replay_editsTo history p).isWellFormed (ofClasses_eq_ok_iff.mp accepted).2
  exact ⟨fun id c declared => wellFormed.classByType?_eq declared, wellFormed.nodup_fieldRefs,
    fun a j b k ref first second => wellFormed.fieldRef?_injective first second,
    fun id c type ref declared found =>
      wellFormed.existsUnique_place_of_fieldByUniqueType declared found⟩

/-- Two classes with a field of the same name and type, one of which has a getter that is forced. -/
theorem identities_unique_same_name :
    let tier : FieldDecl := ⟨"tier", .boxedInteger, 0⟩
    let getter : MethodDecl := ⟨"get", [], .boolean, 0, some ⟨1, 0, [.constZero ⟨0⟩, .ret ⟨0⟩]⟩⟩
    let first : ClassDecl := ⟨⟨"LA;"⟩, none, 0, [tier, ⟨"tier", .int, 0⟩], []⟩
    let second : ClassDecl := ⟨⟨"LB;"⟩, none, 0, [tier], [getter]⟩
    let p : Program := ⟨none, [first, second]⟩
    let history : List Operation := [.forceReturn ⟨⟨1⟩, 0⟩ (.boolean true)]
    let q := replay history p
    ofClasses p.package p.classes = .ok p ∧ q ≠ p ∧
      q.classByType? ⟨"LA;"⟩ = some (⟨0⟩, first) ∧
      (q.classes.flatMap ClassDecl.fieldRefs).Nodup ∧
      ∃! place : ClassId × Nat, q.fieldRef? place.1 place.2 = some (tier.ref ⟨"LA;"⟩) := by
  intro tier getter first second p history q
  have accepted : ofClasses p.package p.classes = .ok p := rfl
  obtain ⟨lookup, distinct, _, single⟩ := identities_unique accepted history
  have declared : q.class? ⟨0⟩ = some first := rfl
  exact ⟨accepted, by decide, lookup ⟨0⟩ first declared, distinct,
    single ⟨0⟩ first .boxedInteger _ declared rfl⟩

end Program

end DexPatch
