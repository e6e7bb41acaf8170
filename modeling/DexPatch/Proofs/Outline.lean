import DexPatch.Edit
import DexPatch.Proofs.WellFormed
import Mathlib.Data.List.Nodup

/-!
# Outlines

No edit adds, drops or renames anything: what is left of a program when the code of every
body is forgotten never changes. A program is its outline together with the method found
at each position, so an edit is known once both are.

## Main definitions

* `Program.mapMethods` — the same change made to every method
* `Program.outline` — the program with all code forgotten
* `Program.modifyEach` — changes made to some methods in turn

## Main results

* `Program.eq_of_outline_eq` — a program is its outline and its methods by position
* `Program.mem_methods`, `Program.nodup_methods` — the list of methods is the methods by
  position, each once
* `Program.method?_modifyMethod`, `Program.outline_modifyMethod` — what a change of one
  method does
* `Program.modifyMethod_comm` — changes to two methods may be made in either order
* `Program.method?_modifyEach_of_mem`, `Program.outline_modifyEach` — the same for several
* `Program.IsWellFormed.of_outline_eq` — apart from the bodies, being well-formed is a
  matter of the outline
-/

namespace DexPatch

/-- What is made of some elements of a list comes in the order of the list, if it keeps the
key of the element that it is made of. -/
theorem map_filterMap_sublist {α β κ : Type} {select : α → Option β} {key : α → κ} {key' : β → κ}
    (keeps : ∀ a b, select a = some b → key' b = key a) (list : List α) :
    ((list.filterMap select).map key').Sublist (list.map key) := by
  induction list with
  | nil => exact .slnil
  | cons a rest ih =>
    rw [List.filterMap_cons, List.map_cons]
    cases selected : select a with
    | none => exact ih.cons (key a)
    | some b =>
      rw [List.map_cons, keeps a b selected]
      exact ih.cons_cons (key a)

/-- The declaration with its code forgotten, but not that it had any. -/
def MethodDecl.outline (m : MethodDecl) : MethodDecl :=
  { m with body := m.body.map fun _ => ⟨0, 0, []⟩ }

namespace MethodDecl

variable {m n : MethodDecl}

theorem returnKind_eq_of_outline_eq (same : m.outline = n.outline) :
    m.returnKind = n.returnKind := by
  have ret : m.ret = n.ret := congrArg (·.ret) same
  rw [returnKind, returnKind, ret]

theorem isSome_body_eq_of_outline_eq (same : m.outline = n.outline) :
    m.body.isSome = n.body.isSome := by
  simpa [outline] using congrArg (·.body.isSome) same

theorem outline_setBody {b : Body} (has : m.body.isSome) :
    MethodDecl.outline { m with body := some b } = m.outline := by
  obtain ⟨previous, h⟩ := Option.isSome_iff_exists.mp has
  simp [outline, h]

theorem isSome_body_of_mem_code {i : Instruction} (hi : i ∈ m.code) : m.body.isSome := by
  cases h : m.body with
  | none => simp [code, h] at hi
  | some b => rfl

theorem code_eq {b : Body} (h : m.body = some b) : m.code = b.instructions := by
  rw [code, h]

end MethodDecl

namespace Program

variable {p q : Program} {id other : MethodId} {m : MethodDecl} {f g : MethodDecl → MethodDecl}

/-! ### Methods by position -/

theorem method?_eq : p.method? id = (p.class? id.owner).bind fun c => c.methods[id.index]? := by
  rw [method?, locate?]
  cases p.class? id.owner with
  | none => rfl
  | some c => simp [Option.map_map, Function.comp_def]

/-- A method is found in its class. -/
theorem method?_eq_some_iff :
    p.method? id = some m ↔ ∃ c, p.class? id.owner = some c ∧ c.methods[id.index]? = some m := by
  rw [method?_eq, Option.bind_eq_some_iff]

/-- A method and the type of its class are found apart. -/
theorem locate?_eq :
    p.locate? id = (p.method? id).bind fun m =>
      ((p.classes.map ClassDecl.type)[id.owner.index]?).map (·, m) := by
  rw [method?_eq, locate?, List.getElem?_map, class?]
  cases p.classes[id.owner.index]? with
  | none => rfl
  | some c => cases there : c.methods[id.index]? <;> simp [there]

/-- A method that is found is found together with the type of its class. -/
theorem exists_locate?_of_method? (found : p.method? id = some m) :
    ∃ owner, p.locate? id = some (owner, m) := by
  rw [method?, Option.map_eq_some_iff] at found
  obtain ⟨⟨owner, n⟩, located, rfl⟩ := found
  exact ⟨owner, located⟩

theorem method?_of_locate? {owner : TypeDesc} (located : p.locate? id = some (owner, m)) :
    p.method? id = some m := by
  rw [method?, located]
  rfl

/-- The declared methods are those found at some position. -/
theorem exists_method?_iff :
    (∃ id, p.method? id = some m) ↔ ∃ c ∈ p.classes, m ∈ c.methods := by
  constructor
  · rintro ⟨id, found⟩
    obtain ⟨c, hc, hm⟩ := method?_eq_some_iff.mp found
    exact ⟨c, List.mem_of_getElem? hc, List.mem_of_getElem? hm⟩
  · rintro ⟨c, hc, hm⟩
    obtain ⟨k, hk⟩ := List.mem_iff_getElem?.mp hc
    obtain ⟨n, hn⟩ := List.mem_iff_getElem?.mp hm
    exact ⟨⟨⟨k⟩, n⟩, method?_eq_some_iff.mpr ⟨c, hk, hn⟩⟩

theorem mem_classMethods {c : ClassId} :
    (id, m) ∈ p.classMethods c ↔ id.owner = c ∧ p.method? id = some m := by
  rw [classMethods, method?_eq]
  constructor
  · intro member
    cases hc : p.class? c with
    | none => simp [hc] at member
    | some d =>
      rw [hc] at member
      obtain ⟨k, hk, same⟩ := List.mem_mapIdx.mp member
      obtain ⟨rfl, rfl⟩ := Prod.mk.inj same
      exact ⟨rfl, by simp [hc]⟩
  · rintro ⟨rfl, found⟩
    obtain ⟨d, hd, hm⟩ := Option.bind_eq_some_iff.mp found
    rw [hd]
    obtain ⟨hk, rfl⟩ := List.getElem?_eq_some_iff.mp hm
    exact List.mem_mapIdx.mpr ⟨id.index, hk, rfl⟩

/-- The list of methods holds what is found at each position. -/
theorem mem_methods : (id, m) ∈ p.methods ↔ p.method? id = some m := by
  simp only [methods, classIds, List.mem_flatMap, List.mem_map, List.mem_range, mem_classMethods]
  constructor
  · rintro ⟨_, _, _, found⟩
    exact found
  · intro found
    refine ⟨id.owner, ⟨id.owner.index, ?_, rfl⟩, rfl, found⟩
    obtain ⟨c, hc, _⟩ := method?_eq_some_iff.mp found
    exact (List.getElem?_eq_some_iff.mp hc).1

/-- The positions in one class, in order. -/
theorem map_fst_classMethods {c : ClassId} {d : ClassDecl} (found : p.class? c = some d) :
    (p.classMethods c).map Prod.fst = (List.range d.methods.length).map (MethodId.mk c) := by
  rw [classMethods, found]
  apply List.ext_getElem?
  intro k
  by_cases hk : k < d.methods.length <;> simp [hk]

/-- The methods of a class are listed as they are declared. -/
theorem pairwise_classMethods (c : ClassId) :
    ((p.classMethods c).map Prod.fst).Pairwise fun id id' => id.index < id'.index := by
  cases found : p.class? c with
  | none => simp [classMethods, found]
  | some d =>
    rw [map_fst_classMethods found, List.pairwise_map]
    exact List.pairwise_lt_range

theorem nodup_classMethods (c : ClassId) : ((p.classMethods c).map Prod.fst).Nodup :=
  (pairwise_classMethods c).imp fun before same => Nat.ne_of_lt before (congrArg _ same)

/-- Every position is listed once. -/
theorem nodup_methods : (p.methods.map Prod.fst).Nodup := by
  rw [methods, List.map_flatMap, List.nodup_flatMap]
  refine ⟨fun c _ => nodup_classMethods c, ?_⟩
  have distinct : p.classIds.Nodup := List.nodup_range.map fun a b same => ClassId.mk.inj same
  refine distinct.imp fun {c d} different => ?_
  -- A position names its class, so two classes have none in common.
  intro id inFirst inSecond
  obtain ⟨⟨_, m⟩, hm, rfl⟩ := List.mem_map.mp inFirst
  obtain ⟨⟨_, n⟩, hn, same⟩ := List.mem_map.mp inSecond
  simp only at same
  subst same
  exact different ((mem_classMethods.mp hm).1.symm.trans (mem_classMethods.mp hn).1)

/-! ### One change to every method -/

/-- The program with every method replaced by what `f` makes of it. -/
def mapMethods (f : MethodDecl → MethodDecl) (p : Program) : Program :=
  { p with classes := p.classes.map fun c => { c with methods := c.methods.map f } }

/-- The program with all code forgotten. -/
def outline (p : Program) : Program := p.mapMethods MethodDecl.outline

theorem class?_mapMethods (c : ClassId) :
    (p.mapMethods f).class? c =
      (p.class? c).map fun d => { d with methods := d.methods.map f } := by
  simp [class?, mapMethods]

theorem method?_mapMethods (id : MethodId) :
    (p.mapMethods f).method? id = (p.method? id).map f := by
  rw [method?_eq, method?_eq, class?_mapMethods]
  cases p.class? id.owner with
  | none => rfl
  | some c => simp

theorem mapMethods_mapMethods : (p.mapMethods g).mapMethods f = p.mapMethods (f ∘ g) := by
  simp [mapMethods, Function.comp_def]

/-- Only what happens to the methods that are there counts. -/
theorem mapMethods_congr (same : ∀ id m, p.method? id = some m → f m = g m) :
    p.mapMethods f = p.mapMethods g := by
  simp only [mapMethods, Program.mk.injEq, true_and]
  refine List.map_congr_left fun c hc => ?_
  have methods : c.methods.map f = c.methods.map g := List.map_congr_left fun m hm => by
    obtain ⟨id, found⟩ := exists_method?_iff.mpr ⟨c, hc, hm⟩
    exact same id m found
  rw [methods]

/-! ### Outlines -/

theorem outline_mapMethods (keeps : ∀ id m, p.method? id = some m → (f m).outline = m.outline) :
    (p.mapMethods f).outline = p.outline := by
  rw [outline, mapMethods_mapMethods]
  exact mapMethods_congr keeps

/-- A program is its outline together with its methods by position. -/
theorem eq_of_outline_eq (same : p.outline = q.outline)
    (methods : ∀ id, p.method? id = q.method? id) : p = q := by
  obtain ⟨package, classes⟩ := p
  obtain ⟨package', classes'⟩ := q
  simp only [outline, mapMethods, Program.mk.injEq] at same
  obtain ⟨rfl, same⟩ := same
  congr 1
  -- Class by class: the outline fixes all of it but the code, the positions its methods.
  apply List.ext_getElem?
  intro k
  have outlines := congrArg (·[k]?) same
  simp only [List.getElem?_map] at outlines
  cases hc : classes[k]? with
  | none =>
    rw [hc] at outlines
    exact (Option.map_eq_none_iff.mp outlines.symm).symm
  | some c =>
    rw [hc] at outlines
    obtain ⟨d, hd, shell⟩ := Option.map_eq_some_iff.mp outlines.symm
    have inside : c.methods = d.methods := by
      apply List.ext_getElem?
      intro n
      simpa [method?_eq, class?, hc, hd] using methods ⟨⟨k⟩, n⟩
    rw [hd]
    congr 1
    cases c
    cases d
    simp_all

/-! ### A change to one method -/

theorem method?_modifyMethod :
    (p.modifyMethod id f).method? other =
      if other = id then (p.method? id).map f else p.method? other := by
  obtain ⟨⟨k⟩, n⟩ := id
  obtain ⟨⟨k'⟩, n'⟩ := other
  simp only [method?_eq, class?, modifyMethod, List.getElem?_modify, MethodId.mk.injEq,
    ClassId.mk.injEq]
  by_cases hk : k = k'
  · subst hk
    cases p.classes[k]? with
    | none => simp
    | some c =>
      by_cases hn : n = n'
      · subst hn
        simp
      · simp [hn, Ne.symm hn]
  · have hk' : k' ≠ k := Ne.symm hk
    cases p.classes[k']? <;> simp [hk, hk']

theorem method?_modifyMethod_self : (p.modifyMethod id f).method? id = (p.method? id).map f := by
  rw [method?_modifyMethod, if_pos rfl]

theorem method?_modifyMethod_of_ne (different : other ≠ id) :
    (p.modifyMethod id f).method? other = p.method? other := by
  rw [method?_modifyMethod, if_neg different]

theorem map_type_modifyMethod :
    (p.modifyMethod id f).classes.map ClassDecl.type = p.classes.map ClassDecl.type := by
  ext k
  by_cases hk : id.owner.index = k <;> simp [modifyMethod, hk]

/-- Another method is found where it was, in a class of the same type. -/
theorem locate?_modifyMethod_of_ne (different : other ≠ id) :
    (p.modifyMethod id f).locate? other = p.locate? other := by
  rw [locate?_eq, locate?_eq, map_type_modifyMethod, method?_modifyMethod_of_ne different]

theorem locate?_modifyMethod_self :
    (p.modifyMethod id f).locate? id = (p.locate? id).map fun found => (found.1, f found.2) := by
  rw [locate?_eq, locate?_eq, map_type_modifyMethod, method?_modifyMethod_self]
  cases p.method? id with
  | none => rfl
  | some m => simp [Option.map_map, Function.comp_def]

/-- A change to one element of a list shows in another list only as far as it shows there in
that element. -/
private theorem map_modify_congr {α β : Type} {l : List α} {n : Nat} {f g : α → α} {h : α → β}
    (same : ∀ a, l[n]? = some a → h (f a) = h (g a)) :
    (l.modify n f).map h = (l.modify n g).map h := by
  apply List.ext_getElem?
  intro k
  rw [List.getElem?_map, List.getElem?_map, List.getElem?_modify, List.getElem?_modify]
  cases there : l[k]? with
  | none => rfl
  | some a =>
    by_cases hk : n = k
    · subst hk
      simp [same a there]
    · simp [hk]

private theorem map_modify_of_keeps {α β : Type} {l : List α} {n : Nat} {f : α → α} {h : α → β}
    (keeps : ∀ a, l[n]? = some a → h (f a) = h a) : (l.modify n f).map h = l.map h := by
  rw [map_modify_congr (g := id) keeps, List.modify_id]

private theorem modify_congr {α : Type} {l : List α} {n : Nat} {f g : α → α}
    (same : ∀ a, l[n]? = some a → f a = g a) : l.modify n f = l.modify n g := by
  simpa using map_modify_congr (h := id) same

theorem outline_modifyMethod (keeps : ∀ m, p.method? id = some m → (f m).outline = m.outline) :
    (p.modifyMethod id f).outline = p.outline := by
  simp only [outline, mapMethods, modifyMethod, Program.mk.injEq, true_and]
  refine map_modify_of_keeps fun c hc => ?_
  have inside : (c.methods.modify id.index f).map MethodDecl.outline =
      c.methods.map MethodDecl.outline :=
    map_modify_of_keeps fun m hm => keeps m (by simp [method?_eq, class?, hc, hm])
  simp only [inside]

theorem modifyMethod_congr (same : ∀ m, p.method? id = some m → f m = g m) :
    p.modifyMethod id f = p.modifyMethod id g := by
  simp only [modifyMethod, Program.mk.injEq, true_and]
  refine modify_congr fun c hc => ?_
  have inside : c.methods.modify id.index f = c.methods.modify id.index g :=
    modify_congr fun m hm => same m (by simp [method?_eq, class?, hc, hm])
  rw [inside]

theorem modifyMethod_eq_self (same : ∀ m, p.method? id = some m → f m = m) :
    p.modifyMethod id f = p := by
  refine eq_of_outline_eq (outline_modifyMethod fun m found => by rw [same m found]) ?_
  intro other
  rw [method?_modifyMethod]
  split
  · rename_i h
    subst h
    cases found : p.method? other with
    | none => rfl
    | some m => rw [Option.map_some, same m found]
  · rfl

theorem modifyMethod_eq_self_iff (found : p.method? id = some m) :
    p.modifyMethod id f = p ↔ f m = m := by
  constructor
  · intro same
    have after := congrArg (·.method? id) same
    simp only [method?_modifyMethod_self, found, Option.map_some] at after
    exact Option.some.inj after
  · intro same
    refine modifyMethod_eq_self fun n hn => ?_
    rwa [← Option.some.inj (found.symm.trans hn)]

theorem modifyMethod_modifyMethod :
    (p.modifyMethod id g).modifyMethod id f = p.modifyMethod id (f ∘ g) := by
  simp only [modifyMethod, List.modify_modify_eq, Program.mk.injEq, true_and]
  congr 1
  funext c
  simp [List.modify_modify_eq]

/-- Changes to two methods may be made in either order. -/
theorem modifyMethod_comm (different : other ≠ id) :
    (p.modifyMethod id f).modifyMethod other g = (p.modifyMethod other g).modifyMethod id f := by
  obtain ⟨⟨k⟩, n⟩ := id
  obtain ⟨⟨k'⟩, n'⟩ := other
  simp only [modifyMethod, Program.mk.injEq, true_and]
  by_cases hk : k = k'
  · -- Both are methods of one class, so they have different positions there.
    subst hk
    have apart : n ≠ n' := fun hn => different (by rw [hn])
    rw [List.modify_modify_eq, List.modify_modify_eq]
    congr 1
    funext c
    simp [List.modify_modify_ne _ _ _ apart]
  · exact List.modify_modify_ne _ _ _ hk

/-! ### Changes to several methods -/

variable {changes : List (MethodId × (MethodDecl → MethodDecl))}

/-- The program with changes made to some of its methods, one after the other. -/
def modifyEach (changes : List (MethodId × (MethodDecl → MethodDecl))) (p : Program) : Program :=
  changes.foldl (fun q change => q.modifyMethod change.1 change.2) p

@[simp]
theorem modifyEach_nil : p.modifyEach [] = p := rfl

@[simp]
theorem modifyEach_cons :
    p.modifyEach ((id, f) :: changes) = (p.modifyMethod id f).modifyEach changes := rfl

theorem method?_modifyEach_of_notMem (untouched : id ∉ changes.map Prod.fst) :
    (p.modifyEach changes).method? id = p.method? id := by
  induction changes generalizing p with
  | nil => rfl
  | cons change rest ih =>
    rw [List.map_cons, List.mem_cons, not_or] at untouched
    rw [modifyEach_cons, ih untouched.2, method?_modifyMethod_of_ne untouched.1]

/-- A method that is named once undergoes its own change and no other. -/
theorem method?_modifyEach_of_mem (distinct : (changes.map Prod.fst).Nodup)
    (member : (id, f) ∈ changes) : (p.modifyEach changes).method? id = (p.method? id).map f := by
  induction changes generalizing p with
  | nil => simp at member
  | cons change rest ih =>
    rw [List.map_cons, List.nodup_cons] at distinct
    rcases List.mem_cons.mp member with rfl | later
    · rw [modifyEach_cons, method?_modifyEach_of_notMem distinct.1, method?_modifyMethod_self]
    · have different : id ≠ change.1 := fun same =>
        distinct.1 (same ▸ List.mem_map_of_mem (f := Prod.fst) later)
      rw [modifyEach_cons, ih distinct.2 later, method?_modifyMethod_of_ne different]

theorem outline_modifyEach (keeps : ∀ change ∈ changes, ∀ m, (change.2 m).outline = m.outline) :
    (p.modifyEach changes).outline = p.outline := by
  induction changes generalizing p with
  | nil => rfl
  | cons change rest ih =>
    obtain ⟨first, others⟩ := List.forall_mem_cons.mp keeps
    rw [modifyEach_cons, ih others, outline_modifyMethod fun m _ => first m]

/-! ### Well-formed programs -/

theorem IsWellFormed.body {b : Body} (wellFormed : p.IsWellFormed)
    (found : p.method? id = some m) (has : m.body = some b) : b.IsWellFormed := by
  obtain ⟨c, hc, hm⟩ := exists_method?_iff.mp ⟨id, found⟩
  exact wellFormed.bodies c hc m hm b has

/-- Apart from the bodies, being well-formed is a matter of the outline. -/
theorem IsWellFormed.of_outline_eq (wellFormed : p.IsWellFormed) (same : p.outline = q.outline)
    (bodies : ∀ id m b, q.method? id = some m → m.body = some b → b.IsWellFormed) :
    q.IsWellFormed := by
  -- Types and fields can be read off the outline.
  have classes := congrArg Program.classes same
  simp only [outline, mapMethods] at classes
  have types := congrArg (List.map ClassDecl.type) classes
  have fields := congrArg (List.map ClassDecl.fields) classes
  simp only [List.map_map, Function.comp_def] at types fields
  refine ⟨types ▸ wellFormed.types, ?_, ?_⟩
  · intro c hc
    have member : c.fields ∈ p.classes.map ClassDecl.fields :=
      fields ▸ List.mem_map_of_mem hc
    obtain ⟨d, hd, agree⟩ := List.mem_map.mp member
    exact agree ▸ wellFormed.fields d hd
  · intro c hc m hm b hb
    obtain ⟨id, found⟩ := exists_method?_iff.mpr ⟨c, hc, hm⟩
    exact bodies id m b found hb

end Program

end DexPatch
