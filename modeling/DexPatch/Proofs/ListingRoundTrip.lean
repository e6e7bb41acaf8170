import DexPatch.Listing.Program
import DexPatch.Proofs.FlatForm

/-!
# Listings that read back

What is written of a program leaves things out: a package that is not known, a super class, a
body, the payloads that an instruction does not have, an empty list of registers. Reading asks
for each key by itself and puts a usual value where it finds none. A program that passes its
checks reads back from its listing as it was, with each instruction and the program checked
again on the way.

## Main definitions

* `Node.keys` — the keys of a map
* `PayloadKind.key?` — the key under which a payload is listed

## Main results

* `Record.find_entry_append_self`, `Record.optional_ok`, … — a key that is left out reads as an
  absent value, and one that is written reads as what was written
* `Instruction.ofNode_toNode` — instructions read back, each with the one payload that it has
* `Program.ofNode_toNode` — well-formed programs read back
* `Program.listing_roundTrip` — reading and writing in either order
-/

namespace DexPatch

/-- The keys of a map. -/
def Node.keys : Node → List String
  | .map entries => entries.map Prod.fst
  | _ => []

/-- The key under which a payload is listed. -/
def PayloadKind.key? : PayloadKind → Option String
  | .empty => none
  | .literal => some "literal"
  | .string => some "string"
  | .field => some "field"
  | .method => some "method"
  | .type => some "type"
  | .target => some "target"

variable {α : Type} {entries : Entries} {key other : String} {n : Node} {a : α}
  {write : α → Node} {read : Node → Except ListingError α}

/-! ### Keys -/

namespace Record

theorem filter_eq_nil_of_find (fresh : find entries key = .ok none) :
    entries.filter (fun (k, _) => k = key) = [] := by
  rw [find] at fresh
  split at fresh
  · assumption
  · cases fresh
  · cases fresh

@[simp] theorem find_nil : find [] key = .ok none := by simp [find]

@[simp] theorem find_cons_of_ne (different : other ≠ key) :
    find ((other, n) :: entries) key = find entries key := by
  simp [find, different]

@[simp] theorem find_cons_self (fresh : find entries key = .ok none) :
    find ((key, n) :: entries) key = .ok (some n) := by
  simp [find, filter_eq_nil_of_find fresh]

@[simp] theorem find_entry_append_of_ne (different : other ≠ key) (value : Option α) :
    find (FlatInstruction.entry other write value ++ entries) key = find entries key := by
  cases value <;> simp [FlatInstruction.entry, different]

/-- The entry of an optional value gives the value, or nothing if it was left out. -/
@[simp] theorem find_entry_append_self (fresh : find entries key = .ok none) (value : Option α) :
    find (FlatInstruction.entry key write value ++ entries) key = .ok (value.map write) := by
  cases value <;> simp [FlatInstruction.entry, fresh]

@[simp] theorem find_entry_of_ne (different : other ≠ key) (value : Option α) :
    find (FlatInstruction.entry other write value) key = .ok none := by
  rw [← List.append_nil (FlatInstruction.entry other write value),
    find_entry_append_of_ne different, find_nil]

@[simp] theorem find_entry_self (value : Option α) :
    find (FlatInstruction.entry key write value) key = .ok (value.map write) := by
  rw [← List.append_nil (FlatInstruction.entry key write value), find_entry_append_self find_nil]

/-! ### Readings -/

theorem required_ok (found : find entries key = .ok (some n)) (reads : read n = .ok a) :
    required key read entries = .ok a := by
  simp only [required, entry, found, reads]
  rfl

theorem defaulted_ok {usual : α} (found : find entries key = .ok (some n))
    (reads : read n = .ok a) : defaulted key usual read entries = .ok a := by
  simp only [defaulted, entry, found, reads]
  rfl

theorem defaulted_absent {usual : α} (missing : find entries key = .ok none) :
    defaulted key usual read entries = .ok usual := by
  simp only [defaulted, entry, missing]
  rfl

/-- An optional value reads back from its entry, there or not, if nothing written stands for an
absent value. -/
theorem optional_ok {value : Option α} (found : find entries key = .ok (value.map write))
    (reads : ∀ a ∈ value, ¬ (write a).IsAbsent ∧ read (write a) = .ok a) :
    optional key read entries = .ok value := by
  cases value with
  | none =>
    simp only [optional, entry, found]
    rfl
  | some a =>
    obtain ⟨there, back⟩ := reads a rfl
    simp only [optional, entry, found, Option.map_some, there, if_false, back]
    rfl

theorem ofNode_map {keys : List String} {record : Record α} (reads : record entries = .ok a) :
    ofNode keys record (.map entries) = .ok a := by
  simp only [ofNode, ofNode.read, reads]
  rfl

end Record

/-! ### Values -/

namespace Node

theorem asText_text (value : String) : asText (.text value) = .ok value := rfl

theorem asUInt16_integer (value : UInt16) : asUInt16 (.integer value.toNat) = .ok value := by
  have bounded : asNatural UInt16.size (.integer value.toNat) = .ok value.toNat :=
    if_pos value.toNat_lt_size
  rw [asUInt16, bounded]
  exact congrArg Except.ok UInt16.ofNat_toNat

theorem asUInt32_integer (value : UInt32) : asUInt32 (.integer value.toNat) = .ok value := by
  have bounded : asNatural UInt32.size (.integer value.toNat) = .ok value.toNat :=
    if_pos value.toNat_lt_size
  rw [asUInt32, bounded]
  exact congrArg Except.ok UInt32.ofNat_toNat

theorem asInt64_integer {value : Int} (fits : Instruction.LiteralFits 64 value) :
    asInt64 (.integer value) = .ok value :=
  if_pos fits

/-- A list reads back if each of its items does. -/
theorem asList_map {items : List α} (reads : ∀ a ∈ items, read (write a) = .ok a) :
    asList read (.list (items.map write)) = .ok items := by
  change (items.map write).mapM read = .ok items
  induction items with
  | nil => rfl
  | cons a rest ih =>
    rw [List.forall_mem_cons] at reads
    rw [List.map_cons, List.mapM_cons, reads.1, ih reads.2]
    rfl

end Node

/-! ### Operands -/

theorem TypeDesc.ofNode_toNode (t : TypeDesc) : ofNode t.toNode = .ok t := rfl

theorem FieldRef.ofNode_toNode (f : FieldRef) : ofNode f.toNode = .ok f := by
  refine Record.ofNode_map (Record.seq_ok (Record.seq_ok (Record.map_ok _ ?owner) ?name) ?type)
  case owner => exact Record.required_ok rfl f.owner.ofNode_toNode
  case name => exact Record.required_ok rfl (Node.asText_text _)
  case type => exact Record.required_ok rfl f.type.ofNode_toNode

theorem MethodRef.ofNode_toNode (m : MethodRef) : ofNode m.toNode = .ok m := by
  refine Record.ofNode_map <| Record.seq_ok
    (Record.seq_ok (Record.seq_ok (Record.map_ok _ ?owner) ?name) ?params) ?ret
  case owner => exact Record.required_ok rfl m.owner.ofNode_toNode
  case name => exact Record.required_ok rfl (Node.asText_text _)
  case params =>
    exact Record.defaulted_ok rfl (Node.asList_map fun t _ => TypeDesc.ofNode_toNode t)
  case ret => exact Record.required_ok rfl m.ret.ofNode_toNode

theorem Reg.ofNode_toNode (r : Reg) : ofNode r.toNode = .ok r := by
  rw [ofNode, toNode, Node.asUInt16_integer]
  rfl

theorem Label.ofNode_toNode (l : Label) : ofNode l.toNode = .ok l := by
  rw [ofNode, toNode, Node.asUInt32_integer]
  rfl

theorem Opcode.ofNode_mnemonic (op : Opcode) : ofNode (.text op.mnemonic) = .ok op := by
  simp only [ofNode, Node.asText, bind, Except.bind, ofMnemonic?_mnemonic]

/-! ### Instructions -/

namespace FlatInstruction

variable {f : FlatInstruction}

/-- The registers are listed like an optional value, which an empty list does not have. -/
theorem toNode_eq (f : FlatInstruction) : f.toNode = .map (("op", .text f.opcode.mnemonic) ::
    (entry "regs" (fun regs => .list (regs.map Reg.toNode))
      (if f.regs = [] then none else some f.regs) ++
    (entry "literal" .integer f.literal ++ (entry "string" .text f.string ++
    (entry "field" FieldRef.toNode f.field ++ (entry "method" MethodRef.toNode f.method ++
    (entry "type" TypeDesc.toNode f.type ++
    entry "target" Label.toNode f.target))))))) := by
  simp only [toNode, List.isEmpty_iff, List.append_assoc, List.cons_append, List.nil_append]
  split <;> rfl

/-- A record reads back if a literal in it has 64 bits at most. -/
theorem ofNode_toNode (fits : ∀ v ∈ f.literal, Instruction.LiteralFits 64 v) :
    ofNode f.toNode = .ok f := by
  rw [toNode_eq]
  -- One goal for each key. What stands for an absent value is never written.
  refine Record.ofNode_map <| Record.seq_ok (Record.seq_ok (Record.seq_ok (Record.seq_ok
    (Record.seq_ok (Record.seq_ok (Record.seq_ok (Record.map_ok _ ?op) ?regs) ?literal) ?string)
    ?field) ?method) ?type) ?target
  case op => exact Record.required_ok (by simp) f.opcode.ofNode_mnemonic
  case regs =>
    by_cases empty : f.regs = []
    · rw [empty]
      exact Record.defaulted_absent (by simp)
    · exact Record.defaulted_ok (by simp [empty])
        (Node.asList_map fun r _ => Reg.ofNode_toNode r)
  case literal =>
    exact Record.optional_ok (by simp) fun v there => ⟨id, Node.asInt64_integer (fits v there)⟩
  case string => exact Record.optional_ok (by simp) fun s _ => ⟨id, Node.asText_text s⟩
  case field => exact Record.optional_ok (by simp) fun ref _ => ⟨id, ref.ofNode_toNode⟩
  case method => exact Record.optional_ok (by simp) fun ref _ => ⟨id, ref.ofNode_toNode⟩
  case type => exact Record.optional_ok (by simp) fun desc _ => ⟨id, desc.ofNode_toNode⟩
  case target => exact Record.optional_ok (by simp) fun label _ => ⟨id, label.ofNode_toNode⟩

end FlatInstruction

namespace Instruction

variable {i : Instruction}

/-- A wider word holds what a narrow one does. -/
theorem LiteralFits.mono {few many : Nat} {value : Int} (fits : LiteralFits few value)
    (wider : few ≤ many) : LiteralFits many value := by
  have bound : (1 <<< (few - 1) : Nat) ≤ 1 <<< (many - 1) := by
    simp only [Nat.one_shiftLeft]
    exact Nat.pow_le_pow_right Nat.two_pos (Nat.sub_le_sub_right wider 1)
  obtain ⟨low, high⟩ := fits
  constructor <;> simp only [Int.ofNat_eq_natCast] at * <;> omega

/-- No opcode takes a literal of more than 32 bits. -/
theorem IsWellFormed.literal_fits (wellFormed : i.IsWellFormed) {value : Int}
    (carried : i.payload = .literal value) : LiteralFits 32 value := by
  obtain ⟨bits, format, narrow⟩ : ∃ bits, i.opcode.format.payload = .literal bits ∧ bits ≤ 32 := by
    -- Opcodes without a literal do not admit the payload at all.
    have kind := wellFormed.payload
    rw [carried] at kind
    cases op : i.opcode <;> simp [op, Opcode.format, PayloadFormat.Accepts, PayloadFormat.kind,
      Payload.kind] at kind ⊢
  have accepts := wellFormed.payload
  rw [carried, format] at accepts
  exact LiteralFits.mono accepts narrow

/-- An instruction whose operands fit reads back. -/
theorem ofNode_toNode (wellFormed : i.IsWellFormed) : ofNode i.toNode = .ok i := by
  have fits : ∀ v ∈ i.flat.literal, LiteralFits 64 v := by
    intro v there
    refine (wellFormed.literal_fits ?_).mono (by decide)
    cases carried : i.payload <;> simp_all [flat]
  rw [ofNode, toNode, FlatInstruction.ofNode_toNode fits]
  change i.flat.instruction.mapError ListingError.instruction = .ok i
  rw [FlatInstruction.instruction_flat (check_eq_ok_iff.mpr wellFormed)]
  rfl

end Instruction

/-! ### What is left out -/

theorem FlatInstruction.map_fst_entry (key : String) (write : α → Node) (value : Option α) :
    (entry key write value).map Prod.fst = (value.map fun _ => key).toList := by
  cases value <;> rfl

/-- Of an instruction are listed its opcode, its registers if it has any, and its payload. -/
theorem Instruction.keys_toNode (i : Instruction) : i.toNode.keys =
    "op" :: ((if i.regs = [] then [] else ["regs"]) ++ i.payload.kind.key?.toList) := by
  rw [toNode, FlatInstruction.toNode_eq]
  obtain ⟨op, regs, payload⟩ := i
  by_cases empty : regs = [] <;> cases payload <;>
    simp [Node.keys, FlatInstruction.map_fst_entry, flat, empty, Payload.kind, PayloadKind.key?]

theorem MethodDecl.body_mem_keys_toNode (m : MethodDecl) :
    "body" ∈ m.toNode.keys ↔ m.body.isSome := by
  cases body : m.body <;> simp [toNode, Node.keys, FlatInstruction.map_fst_entry, body]

theorem ClassDecl.superClass_mem_keys_toNode (c : ClassDecl) :
    "super_class" ∈ c.toNode.keys ↔ c.superClass.isSome := by
  cases super : c.superClass <;> simp [toNode, Node.keys, FlatInstruction.map_fst_entry, super]

theorem Program.package_mem_keys_toNode (p : Program) :
    "package" ∈ p.toNode.keys ↔ p.package.isSome := by
  cases package : p.package <;> simp [toNode, Node.keys, FlatInstruction.map_fst_entry, package]

/-! ### Declarations -/

theorem Body.ofNode_toNode {b : Body} (wellFormed : b.IsWellFormed) : ofNode b.toNode = .ok b := by
  refine Record.ofNode_map (Record.seq_ok (Record.seq_ok (Record.map_ok _ ?registers) ?ins) ?code)
  case registers => exact Record.required_ok rfl (Node.asUInt16_integer _)
  case ins => exact Record.defaulted_ok rfl (Node.asUInt16_integer _)
  case code =>
    exact Record.required_ok rfl (Node.asList_map fun i member =>
      Instruction.ofNode_toNode (wellFormed.admits i member).operands)

theorem FieldDecl.ofNode_toNode (f : FieldDecl) : ofNode f.toNode = .ok f := by
  refine Record.ofNode_map (Record.seq_ok (Record.seq_ok (Record.map_ok _ ?name) ?type) ?flags)
  case name => exact Record.required_ok rfl (Node.asText_text _)
  case type => exact Record.required_ok rfl f.type.ofNode_toNode
  case flags => exact Record.defaulted_ok rfl (Node.asUInt32_integer _)

theorem MethodDecl.ofNode_toNode {m : MethodDecl} (wellFormed : ∀ b ∈ m.body, b.IsWellFormed) :
    ofNode m.toNode = .ok m := by
  refine Record.ofNode_map <| Record.seq_ok (Record.seq_ok (Record.seq_ok (Record.seq_ok
    (Record.map_ok _ ?name) ?params) ?ret) ?flags) ?body
  -- The last entry may be missing, so the others are found by lemma and not by evaluation.
  case name => exact Record.required_ok (by simp) (Node.asText_text _)
  case params =>
    exact Record.defaulted_ok (by simp) (Node.asList_map fun t _ => TypeDesc.ofNode_toNode t)
  case ret => exact Record.required_ok (by simp) m.ret.ofNode_toNode
  case flags => exact Record.defaulted_ok (by simp) (Node.asUInt32_integer _)
  case body =>
    exact Record.optional_ok (by simp) fun b there => ⟨id, Body.ofNode_toNode (wellFormed b there)⟩

theorem ClassDecl.ofNode_toNode {c : ClassDecl}
    (wellFormed : ∀ m ∈ c.methods, ∀ b ∈ m.body, b.IsWellFormed) : ofNode c.toNode = .ok c := by
  refine Record.ofNode_map <| Record.seq_ok (Record.seq_ok (Record.seq_ok (Record.seq_ok
    (Record.map_ok _ ?type) ?superClass) ?flags) ?fields) ?methods
  case type => exact Record.required_ok (by simp) c.type.ofNode_toNode
  case superClass => exact Record.optional_ok (by simp) fun t _ => ⟨id, t.ofNode_toNode⟩
  case flags => exact Record.defaulted_ok (by simp) (Node.asUInt32_integer _)
  case fields =>
    exact Record.defaulted_ok (by simp) (Node.asList_map fun f _ => FieldDecl.ofNode_toNode f)
  case methods =>
    exact Record.defaulted_ok (by simp) (Node.asList_map fun m member =>
      MethodDecl.ofNode_toNode (wellFormed m member))

/-! ### Programs -/

namespace Program

variable {p : Program} {package : Option String} {classes : List ClassDecl}

theorem partsOfNode_toNode (wellFormed : p.IsWellFormed) :
    partsOfNode p.toNode = .ok (p.package, p.classes) := by
  refine Record.ofNode_map (Record.seq_ok (Record.map_ok _ ?package) ?classes)
  case package =>
    exact Record.optional_ok (by simp) fun s _ => ⟨id, Node.asText_text s⟩
  case classes =>
    exact Record.defaulted_ok (by simp) (Node.asList_map fun c member =>
      ClassDecl.ofNode_toNode (wellFormed.bodies c member))

/-- A well-formed program reads back from its listing. -/
theorem ofNode_toNode (wellFormed : p.IsWellFormed) : ofNode p.toNode = .ok p := by
  rw [ofNode, partsOfNode_toNode wellFormed]
  change (ofClasses p.package p.classes).mapError LoadError.program = .ok p
  rw [ofClasses_eq_ok_iff.mpr ⟨rfl, wellFormed⟩]
  rfl

/-- Whatever is read has passed the checks. -/
theorem isWellFormed_of_ofNode (loaded : ofNode n = .ok p) : p.IsWellFormed := by
  rw [ofNode] at loaded
  cases parts : partsOfNode n with
  | error cause => simp [parts] at loaded
  | ok found =>
    simp only [parts] at loaded
    cases accepted : ofClasses found.1 found.2 with
    | error cause =>
      rw [accepted] at loaded
      cases loaded
    | ok q =>
      rw [accepted] at loaded
      cases loaded
      exact (ofClasses_eq_ok_iff.mp accepted).2

/-- A program that passes its checks reads back from its listing. Whatever listing a program was
read from, its own listing reads back to it and is written again as it was. Listings have no
keys for what is absent. -/
theorem listing_roundTrip :
    (∀ package classes p, ofClasses package classes = .ok p → ofNode p.toNode = .ok p) ∧
    (∀ n p, ofNode n = .ok p →
      ofNode p.toNode = .ok p ∧ (ofNode p.toNode).map toNode = .ok p.toNode) ∧
    (∀ p : Program, "package" ∈ p.toNode.keys ↔ p.package.isSome) ∧
    (∀ c : ClassDecl, "super_class" ∈ c.toNode.keys ↔ c.superClass.isSome) ∧
    (∀ m : MethodDecl, "body" ∈ m.toNode.keys ↔ m.body.isSome) ∧
    ∀ i : Instruction, i.toNode.keys =
      "op" :: ((if i.regs = [] then [] else ["regs"]) ++ i.payload.kind.key?.toList) := by
  refine ⟨fun package classes p accepted => ?_, fun n p loaded => ?_, package_mem_keys_toNode,
    ClassDecl.superClass_mem_keys_toNode, MethodDecl.body_mem_keys_toNode, Instruction.keys_toNode⟩
  · exact ofNode_toNode (ofClasses_eq_ok_iff.mp accepted).2
  · have back := ofNode_toNode (isWellFormed_of_ofNode loaded)
    exact ⟨back, by rw [back]; rfl⟩

/-- A program with and without each optional part, and a short listing of an empty class. -/
theorem listing_roundTrip_parts_left_out :
    let log : MethodRef := ⟨⟨"LLog;"⟩, "d", [⟨"Ljava/lang/String;"⟩], .void⟩
    let p : Program := ⟨some "null", [
      ⟨⟨"LA;"⟩, some .object, 1, [⟨"on", .boolean, 8⟩], [
        ⟨"start", [.int], .void, 9, some ⟨2, 1, [⟨.constString, [⟨0⟩], .string "- 1: ~"⟩,
          ⟨.invoke .static, [⟨0⟩], .method log⟩, ⟨.const16, [⟨0⟩], .literal (-300)⟩,
          ⟨.goto, [], .target ⟨0⟩⟩]⟩⟩,
        ⟨"stop", [], .void, 0x400, none⟩]⟩,
      ⟨⟨"LB;"⟩, none, 0, [], []⟩]⟩
    let n : Node := .map [("classes", .list [.row [.plain "LC;"]])]
    let q : Program := ⟨none, [⟨⟨"LC;"⟩, none, 0, [], []⟩]⟩
    Program.ofClasses p.package p.classes = .ok p ∧ ofNode p.toNode = .ok p ∧
      ofNode n = .ok q ∧ (ofNode q.toNode).map toNode = .ok q.toNode := by
  intro log p n q
  have accepted : Program.ofClasses p.package p.classes = .ok p := rfl
  have loaded : ofNode n = .ok q := rfl
  exact ⟨accepted, listing_roundTrip.1 _ _ p accepted, loaded,
    (listing_roundTrip.2.1 n q loaded).2⟩

end Program

end DexPatch
