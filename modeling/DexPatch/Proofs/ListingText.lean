import DexPatch.Instruction.Make
import DexPatch.Proofs.QuotedText
import DexPatch.Proofs.WellFormed
import Mathlib.Data.List.Infix
import Mathlib.Data.List.TakeWhile

/-!
# Listing texts

The text of an instruction shows its opcode and its operands, and it tells the instruction apart
from every other one that passes its check. The first word is the mnemonic, which gives the opcode.
The opcode says how many registers there are and what comes after them. A register is written
without a comma, so the operands can be divided where the separators are, and what is left is to
read each operand back.

This works for all payloads but two. The parameters of a call are written without anything between
them, and an arrow in the owner of a field or a colon in its name can be taken for the one that
ends it.

## Main definitions

* `FieldRef.IsLegible`, `Payload.IsLegible` — the written form can be taken apart

## Main results

* `Text.append_separator_inj`, `Text.intercalate_inj` — what separators divide
* `Instruction.opcode_eq_of_text_eq`, `Instruction.operandTexts_eq_of_text_eq` — a text gives the
  opcode, and with as many operands the operands
* `FieldRef.text_inj`, `Payload.text?_inj` — an operand can be read back
* `Instruction.text_identifies` — a text gives the instruction
-/

namespace DexPatch

namespace Text

/-! ### Separators -/

section Separator

variable {α : Type} {c : α} {rest a b s t : List α}

/-- A separator that starts with a character of its own does not overlap with itself. -/
theorem eq_nil_of_separator_append {r : List α} (own : c ∉ rest) (free : ¬ c :: rest <:+: r)
    (same : c :: rest ++ s = r ++ (c :: rest ++ t)) : r = [] := by
  cases r with
  | nil => rfl
  | cons d r =>
    obtain ⟨rfl, tails⟩ := List.cons_eq_cons.mp same
    rcases List.append_eq_append_iff.mp tails with ⟨u, rfl, _⟩ | ⟨u, split, late⟩
    · exact absurd (List.prefix_append (c :: rest) u).isInfix free
    · cases u with
      | nil =>
        rw [List.append_nil] at split
        exact absurd (split ▸ List.infix_rfl) free
      | cons d u =>
        obtain ⟨rfl, _⟩ := List.cons_eq_cons.mp late
        exact absurd (split ▸ List.mem_append_right r List.mem_cons_self) own

/-- Up to its first separator a text can be told from the rest. -/
theorem append_separator_inj (own : c ∉ rest) (ha : ¬ c :: rest <:+: a)
    (hb : ¬ c :: rest <:+: b) :
    a ++ (c :: rest ++ s) = b ++ (c :: rest ++ t) ↔ a = b ∧ s = t := by
  have free {x r : List α} (hx : ¬ c :: rest <:+: x ++ r) : ¬ c :: rest <:+: r := fun inside =>
    hx (inside.trans (List.suffix_append x r).isInfix)
  constructor
  · intro same
    -- One of the two first parts starts with the other, and what it has more is nothing.
    obtain rfl : a = b := by
      rcases List.append_eq_append_iff.mp same with ⟨r, rfl, late⟩ | ⟨r, rfl, late⟩
      · rw [eq_nil_of_separator_append own (free hb) late, List.append_nil]
      · rw [eq_nil_of_separator_append own (free ha) late, List.append_nil]
    exact ⟨rfl, List.append_cancel_left (List.append_cancel_left same)⟩
  · rintro ⟨rfl, rfl⟩
    rfl

/-- The case of a single character. -/
theorem append_cons_inj (ha : c ∉ a) (hb : c ∉ b) : a ++ c :: s = b ++ c :: t ↔ a = b ∧ s = t := by
  have free {x : List α} (hx : c ∉ x) : ¬ [c] <:+: x := fun inside =>
    hx (inside.subset List.mem_cons_self)
  exact append_separator_inj List.not_mem_nil (free ha) (free hb)

end Separator

/-- Entries divided by a separator can be told apart if only the last may contain it. -/
theorem intercalate_inj {α : Type} {c : α} {rest : List α} (own : c ∉ rest)
    {xs ys : List (List α)} (number : xs.length = ys.length)
    (hx : ∀ x ∈ xs.dropLast, ¬ c :: rest <:+: x) (hy : ∀ y ∈ ys.dropLast, ¬ c :: rest <:+: y)
    (same : (c :: rest).intercalate xs = (c :: rest).intercalate ys) : xs = ys := by
  induction xs generalizing ys with
  | nil => exact (List.length_eq_zero_iff.mp number.symm).symm
  | cons x xs ih =>
    obtain ⟨y, ys, rfl⟩ := List.exists_cons_of_length_eq_add_one number.symm
    have others : xs.length = ys.length := Nat.succ.inj number
    cases xs with
    | nil =>
      obtain rfl := List.length_eq_zero_iff.mp others.symm
      rw [List.intercalate_singleton, List.intercalate_singleton] at same
      rw [same]
    | cons x' xs =>
      obtain ⟨y', ys, rfl⟩ := List.exists_cons_of_length_eq_add_one others.symm
      rw [List.dropLast_cons_cons, List.forall_mem_cons] at hx hy
      rw [List.intercalate_cons_cons, List.intercalate_cons_cons, List.append_assoc,
        List.append_assoc, append_separator_inj own hx.1 hy.1] at same
      rw [same.1, ih others hx.2 hy.2 same.2]

end Text

/-! ### Mnemonics -/

/-- A mnemonic is one word. -/
theorem Opcode.space_notMem_mnemonic (op : Opcode) : ' ' ∉ op.mnemonic.toList := by
  have words : ∀ op ∈ all, ' ' ∉ op.mnemonic.toList := by decide +kernel
  exact words op (mem_all op)

namespace Instruction

variable {i j : Instruction}

theorem takeWhile_text (i : Instruction) :
    i.text.toList.takeWhile (· ≠ ' ') = i.opcode.mnemonic.toList := by
  have word : ∀ c ∈ i.opcode.mnemonic.toList, decide (c ≠ ' ') = true := fun c member =>
    decide_eq_true fun space => i.opcode.space_notMem_mnemonic (space ▸ member)
  unfold text
  split
  · exact List.takeWhile_eq_self_iff.mpr word
  · rw [String.toList_append, String.toList_append, List.append_assoc,
      List.takeWhile_append_of_pos word]
    simp

/-- The first word of a text is the mnemonic. -/
theorem opcode_eq_of_text_eq (same : i.text = j.text) : i.opcode = j.opcode := by
  apply Opcode.mnemonic_injective
  apply String.toList_injective
  rw [← takeWhile_text, ← takeWhile_text, same]

end Instruction

/-! ### Operands -/

theorem Reg.text_injective : Function.Injective Reg.text := by
  rintro ⟨x⟩ ⟨y⟩ same
  obtain rfl : x = y := UInt16.toNat_inj.mp (Text.append_toString_injective "v" same)
  rfl

theorem Label.text_injective : Function.Injective Label.text := by
  rintro ⟨x⟩ ⟨y⟩ same
  obtain rfl : x = y := UInt32.toNat_inj.mp (Text.append_toString_injective "@" same)
  rfl

theorem TypeDesc.text_injective : Function.Injective TypeDesc.text := by
  rintro ⟨s⟩ ⟨t⟩ rfl
  rfl

/-- A register is written without a comma. -/
theorem Reg.comma_notMem_text (r : Reg) : ',' ∉ r.text.toList := by
  intro member
  rw [Reg.text, String.toList_append, List.mem_append, Nat.toString_eq_repr,
    Nat.toList_repr] at member
  rcases member with letter | digit
  · exact absurd letter (by decide)
  · exact absurd (Nat.isDigit_of_mem_toDigits (by decide) (by decide) digit) (by decide)

/-! ### Field references -/

/-- The written form can be taken apart: there is no arrow in the owner and no colon in the name. -/
def FieldRef.IsLegible (f : FieldRef) : Prop :=
  ¬ ['-', '>'] <:+: f.owner.text.toList ∧ ':' ∉ f.name.toList

instance (f : FieldRef) : Decidable f.IsLegible :=
  inferInstanceAs (Decidable (_ ∧ _))

theorem FieldRef.toList_text (f : FieldRef) :
    f.text.toList = f.owner.text.toList ++
      (['-', '>'] ++ (f.name.toList ++ ':' :: f.type.text.toList)) := by
  simp [text]

/-- Two legible references have two written forms. -/
theorem FieldRef.text_inj {f g : FieldRef} (hf : f.IsLegible) (hg : g.IsLegible)
    (same : f.text = g.text) : f = g := by
  have letters := congrArg String.toList same
  rw [toList_text, toList_text, Text.append_separator_inj (by decide) hf.1 hg.1,
    Text.append_cons_inj hf.2 hg.2] at letters
  obtain ⟨owners, names, types⟩ := letters
  obtain ⟨owner, name, type⟩ := f
  obtain ⟨owner', name', type'⟩ := g
  obtain rfl := TypeDesc.text_injective (String.toList_injective owners)
  obtain rfl := String.toList_injective names
  obtain rfl := TypeDesc.text_injective (String.toList_injective types)
  rfl

/-- Owner and name of an illegible reference can be divided in another way. -/
example : FieldRef.text ⟨⟨"A->b"⟩, "c", .int⟩ = FieldRef.text ⟨⟨"A"⟩, "b->c", .int⟩ := rfl

/-! ### Payloads -/

/-- The written form of the payload can be taken apart. Calls are left out, since nothing stands
between the types of the parameters. -/
def Payload.IsLegible : Payload → Prop
  | .field ref => ref.IsLegible
  | .method _ => False
  | _ => True

instance : (p : Payload) → Decidable p.IsLegible
  | .field ref => inferInstanceAs (Decidable ref.IsLegible)
  | .method _ => inferInstanceAs (Decidable False)
  | .empty | .literal _ | .string _ | .type _ | .target _ => inferInstanceAs (Decidable True)

namespace Payload

variable {p q : Payload}

/-- Any payload is one operand text, if there is something to write. -/
theorem length_text? (p : Payload) : p.text?.toList.length = if p.kind = .empty then 0 else 1 := by
  cases p <;> rfl

/-- Two legible payloads of one kind have two written forms. -/
theorem text?_inj (kinds : p.kind = q.kind) (hp : p.IsLegible) (hq : q.IsLegible)
    (same : p.text? = q.text?) : p = q := by
  cases p with
  | empty => cases q <;> first | rfl | contradiction
  | literal m =>
    cases q with
    | literal n => rw [Text.signedHex_injective (Option.some.inj same)]
    | _ => contradiction
  | string s =>
    cases q with
    | string t => rw [Text.quote_injective (Option.some.inj same)]
    | _ => contradiction
  | field f =>
    cases q with
    | field g => rw [FieldRef.text_inj hp hq (Option.some.inj same)]
    | _ => contradiction
  | method _ => exact hp.elim
  | type s =>
    cases q with
    | type t => rw [TypeDesc.text_injective (Option.some.inj same)]
    | _ => contradiction
  | target a =>
    cases q with
    | target b => rw [Label.text_injective (Option.some.inj same)]
    | _ => contradiction

end Payload

/-! ### Instructions -/

theorem Opcode.exists_regs_eq_exactly {op : Opcode} (noCall : op.format.payload ≠ .method) :
    ∃ k, op.format.regs = .exactly k := by
  cases op with
  | invoke _ => exact absurd rfl noCall
  | _ => exact ⟨_, rfl⟩

namespace Instruction

variable {i j : Instruction}

theorem toList_text (given : i.operandTexts ≠ []) :
    i.text.toList = i.opcode.mnemonic.toList ++
      (' ' :: [',', ' '].intercalate (i.operandTexts.map String.toList)) := by
  unfold text
  split
  · contradiction
  · simp

/-- The operands before the last are registers. -/
theorem exists_reg_of_mem_dropLast {operand : String} (member : operand ∈ i.operandTexts.dropLast) :
    ∃ r ∈ i.regs, r.text = operand := by
  rw [← List.mem_map]
  unfold operandTexts at member
  cases written : i.payload.text? with
  | none =>
    rw [written, Option.toList_none, List.append_nil] at member
    exact List.mem_of_mem_dropLast member
  | some last => rwa [written, Option.toList_some, List.dropLast_concat] at member

theorem separator_notInfix_of_mem_dropLast {operand : List Char}
    (member : operand ∈ (i.operandTexts.map String.toList).dropLast) :
    ¬ [',', ' '] <:+: operand := by
  rw [← List.map_dropLast] at member
  obtain ⟨written, early, rfl⟩ := List.mem_map.mp member
  obtain ⟨r, _, rfl⟩ := exists_reg_of_mem_dropLast early
  exact fun inside => r.comma_notMem_text (inside.subset List.mem_cons_self)

/-- The texts of instructions with one opcode and as many operands have the same operands. -/
theorem operandTexts_eq_of_text_eq (opcodes : i.opcode = j.opcode)
    (number : i.operandTexts.length = j.operandTexts.length) (same : i.text = j.text) :
    i.operandTexts = j.operandTexts := by
  rcases eq_or_ne i.operandTexts [] with none | given
  · rw [none, List.length_nil] at number
    rw [none, List.length_eq_zero_iff.mp number.symm]
  · have given' : j.operandTexts ≠ [] := by
      rwa [← List.length_pos_iff, ← number, List.length_pos_iff]
    have letters := congrArg String.toList same
    rw [toList_text given, toList_text given', opcodes] at letters
    have joined := List.cons_injective (List.append_cancel_left letters)
    have distinct : Function.Injective String.toList := fun _ _ => String.toList_injective
    apply List.map_injective_iff.mpr distinct
    refine Text.intercalate_inj (by decide) ?_ ?_ ?_ joined
    · rw [List.length_map, List.length_map, number]
    · exact fun operand => separator_notInfix_of_mem_dropLast
    · exact fun operand => separator_notInfix_of_mem_dropLast

theorem IsWellFormed.format_ne_method (hi : i.IsWellFormed) (legible : i.payload.IsLegible) :
    i.opcode.format.payload ≠ .method := by
  intro call
  have kind := hi.payload.kind_eq
  rw [call] at kind
  cases taken : i.payload with
  | method _ => exact (taken ▸ legible : Payload.IsLegible (.method _))
  | _ =>
    rw [taken] at kind
    contradiction

/-- An opcode that is no call fixes the number of its registers. -/
theorem IsWellFormed.length_regs_eq (hi : i.IsWellFormed) (hj : j.IsWellFormed)
    (opcodes : i.opcode = j.opcode) (legible : i.payload.IsLegible) :
    i.regs.length = j.regs.length := by
  obtain ⟨k, exactly⟩ := Opcode.exists_regs_eq_exactly (hi.format_ne_method legible)
  have count := hi.count
  have count' := hj.count
  rw [← opcodes] at count'
  rw [exactly, RegCount.accepts, beq_iff_eq] at count count'
  rw [count, count']

/-- Instructions that pass their check and whose payloads can be taken apart have the same text only
if they are the same, whatever strings and literals they carry. -/
theorem text_identifies (hi : i.check = .ok ()) (hj : j.check = .ok ()) (li : i.payload.IsLegible)
    (lj : j.payload.IsLegible) : i.text = j.text ↔ i = j := by
  refine ⟨fun same => ?_, congrArg text⟩
  rw [check_eq_ok_iff] at hi hj
  -- The mnemonic gives the opcode, and the opcode gives the number and the kind of the operands.
  have opcodes : i.opcode = j.opcode := opcode_eq_of_text_eq same
  have count : (i.regs.map Reg.text).length = (j.regs.map Reg.text).length := by
    rw [List.length_map, List.length_map, hi.length_regs_eq hj opcodes li]
  have kinds : i.payload.kind = j.payload.kind := by
    rw [← hi.payload.kind_eq, ← hj.payload.kind_eq, opcodes]
  have number : i.operandTexts.length = j.operandTexts.length := by
    rw [operandTexts, operandTexts, List.length_append, List.length_append, count,
      Payload.length_text?, Payload.length_text?, kinds]
  -- So the operands can be compared one by one.
  obtain ⟨names, written⟩ :=
    List.append_inj (operandTexts_eq_of_text_eq opcodes number same) count
  have regs : i.regs = j.regs := List.map_injective_iff.mpr Reg.text_injective names
  have payload : i.payload = j.payload := by
    apply Payload.text?_inj kinds li lj
    simpa using congrArg List.head? written
  calc
    i = ⟨i.opcode, i.regs, i.payload⟩ := rfl
    _ = ⟨j.opcode, j.regs, j.payload⟩ := by rw [opcodes, regs, payload]
    _ = j := rfl

/-- A NUL before a digit is written otherwise than a backslash before the digits of its escape. -/
theorem text_identifies_nul :
    let nul : Instruction := .constString ⟨0⟩ "\x001"
    let backslash : Instruction := .constString ⟨0⟩ "\\01"
    nul.check = .ok () ∧ backslash.check = .ok () ∧ nul.text ≠ backslash.text := by
  intro nul backslash
  have passes : nul.check = .ok () := by decide
  have passes' : backslash.check = .ok () := by decide
  have different : nul ≠ backslash := by decide
  exact ⟨passes, passes', fun same =>
    different ((text_identifies passes passes' trivial trivial).mp same)⟩

end Instruction

end DexPatch
