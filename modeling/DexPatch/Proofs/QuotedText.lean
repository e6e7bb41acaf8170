import DexPatch.Text.Quoted
import Mathlib.Data.List.Infix
import Mathlib.Data.Nat.Digits.Defs

/-!
# Numerals and quoted texts

A written form is of use only if it tells apart what it stands for. A numeral does, since it can be
read back digit by digit and a sign is written for negative numbers alone. A quoted string does,
since it can be read back character by character, whatever follows: an escape is a backslash with
one letter, which is never `u`, or it ends with the first closing brace. So a NUL before a digit is
not taken for another escape, nor a backslash before a letter for the escape with that letter.

## Main definitions

* `Text.hexValue`, `Text.meaningOf`, `Text.readCharacter` — numerals, short escapes and the first
  character of a quoted text, read back

## Main results

* `Text.hexValue_hexDigits`, `Text.readCharacter_escape_append` — reading undoes writing
* `Text.signedHex_injective` — two numbers have two numerals
* `Text.quote_injective` — two strings have two quoted forms
-/

namespace DexPatch.Text

/-! ### Numerals -/

/-- The value of a hexadecimal digit. -/
def hexDigitValue (c : Char) : Nat := if c.toNat < 0x3a then c.toNat - 0x30 else c.toNat - 0x57

/-- The number with the given hexadecimal digits. -/
def hexValue (digits : List Char) : Nat := digits.foldl (fun n c => 16 * n + hexDigitValue c) 0

theorem hexDigitValue_digitChar : ∀ d < 16, hexDigitValue (Nat.digitChar d) = d := by decide

theorem hexDigits_eq (n : Nat) :
    hexDigits n =
      if n < 16 then [Nat.digitChar n] else hexDigits (n / 16) ++ [Nat.digitChar (n % 16)] :=
  Nat.toDigits_eq_if (by decide)

/-- The digits of a number have its value. -/
theorem hexValue_hexDigits (n : Nat) : hexValue (hexDigits n) = n := by
  induction n using Nat.strongRecOn with
  | ind n ih =>
    rw [hexDigits_eq]
    split
    · rename_i small
      simp [hexValue, hexDigitValue_digitChar n small]
    · have smaller : n / 16 < n := by omega
      have last : hexDigitValue (Nat.digitChar (n % 16)) = n % 16 :=
        hexDigitValue_digitChar _ (Nat.mod_lt n (by decide))
      rw [hexValue, List.foldl_append, ← hexValue, ih _ smaller, List.foldl_cons, List.foldl_nil,
        last, Nat.div_add_mod]

theorem hexDigits_injective : Function.Injective hexDigits :=
  Function.LeftInverse.injective hexValue_hexDigits

/-- A numeral has digits only. -/
theorem exists_digit_of_mem_hexDigits {n : Nat} {c : Char} (member : c ∈ hexDigits n) :
    ∃ d < 16, c = Nat.digitChar d := by
  induction n using Nat.strongRecOn with
  | ind n ih =>
    rw [hexDigits_eq] at member
    split at member
    · rename_i small
      exact ⟨n, small, List.mem_singleton.mp member⟩
    · rcases List.mem_append.mp member with early | last
      · exact ih (n / 16) (by omega) early
      · exact ⟨n % 16, Nat.mod_lt n (by decide), List.mem_singleton.mp last⟩

theorem toList_hex (n : Nat) : (hex n).toList = '0' :: 'x' :: hexDigits n := by
  simp [hex]

theorem toList_signedHex (i : Int) :
    (signedHex i).toList =
      if i < 0 then '-' :: (hex i.natAbs).toList else (hex i.natAbs).toList := by
  unfold signedHex
  split
  · rw [String.toList_append]
    rfl
  · rfl

theorem hex_injective : Function.Injective hex := by
  intro m n same
  have digits := congrArg String.toList same
  rw [toList_hex, toList_hex] at digits
  exact hexDigits_injective (List.cons_injective (List.cons_injective digits))

/-- A sign is written for negative numbers alone. -/
theorem signedHex_injective : Function.Injective signedHex := by
  intro i j same
  have letters := congrArg String.toList same
  rw [toList_signedHex, toList_signedHex] at letters
  by_cases hi : i < 0 <;> by_cases hj : j < 0
  · rw [if_pos hi, if_pos hj] at letters
    have sizes := hex_injective (String.toList_injective (List.cons_injective letters))
    omega
  · rw [if_pos hi, if_neg hj, toList_hex j.natAbs] at letters
    exact absurd (List.cons_eq_cons.mp letters).1 (by decide)
  · rw [if_neg hi, if_pos hj, toList_hex i.natAbs] at letters
    exact absurd (List.cons_eq_cons.mp letters).1 (by decide)
  · rw [if_neg hi, if_neg hj] at letters
    have sizes := hex_injective (String.toList_injective letters)
    omega

/-- A number after a mark of its own, as registers and targets are written. -/
theorem append_toString_injective (mark : String) :
    Function.Injective fun n : Nat => mark ++ toString n := by
  intro m n same
  have digits := congrArg String.toList ((String.append_right_inj mark).mp same)
  simp only [Nat.toString_eq_repr, Nat.toList_repr] at digits
  rw [← Nat.ofDigitChars_ten_toDigits (n := m), digits, Nat.ofDigitChars_ten_toDigits]

/-! ### Escapes -/

variable {c d letter : Char}

/-- The character that a backslash and the letter stand for. -/
def meaningOf (letter : Char) : Char :=
  match letter with
  | '0' => '\x00'
  | 't' => '\t'
  | 'n' => '\n'
  | 'r' => '\x0d'
  | other => other

theorem meaningOf_of_shortEscape? (short : shortEscape? c = some letter) :
    meaningOf letter = c := by
  unfold shortEscape? at short
  split at short <;> cases short <;> rfl

theorem shortEscape?_ne_u : shortEscape? c ≠ some 'u' := by
  unfold shortEscape?
  split <;> simp

theorem escape_cases (c : Char) :
    (∃ letter, shortEscape? c = some letter ∧ escape c = ['\\', letter]) ∨
      escape c = ['\\', 'u', '\x7b'] ++ hexDigits c.toNat ++ ['\x7d'] ∨
      c ≠ '\\' ∧ escape c = [c] := by
  unfold escape
  cases short : shortEscape? c with
  | some letter => exact .inl ⟨letter, rfl, rfl⟩
  | none =>
    have plain : c ≠ '\\' := by
      rintro rfl
      cases short
    dsimp only
    split
    · exact .inr (.inl rfl)
    · exact .inr (.inr ⟨plain, rfl⟩)

/-- The first character that a quoted text stands for, with the text that is left. -/
def readCharacter : List Char → Option (Char × List Char)
  | '\\' :: 'u' :: '\x7b' :: rest =>
    some (Char.ofNat (hexValue (rest.takeWhile (· ≠ '\x7d'))), (rest.dropWhile (· ≠ '\x7d')).tail)
  | '\\' :: letter :: rest => some (meaningOf letter, rest)
  | c :: rest => some (c, rest)
  | [] => none

/-- The digits of an escape end at its brace. -/
theorem ne_brace_of_mem_hexDigits {n : Nat} (member : c ∈ hexDigits n) : c ≠ '\x7d' := by
  obtain ⟨d, small, rfl⟩ := exists_digit_of_mem_hexDigits member
  have digits : ∀ d < 16, Nat.digitChar d ≠ '\x7d' := by decide
  exact digits d small

/-- The written form of a character is read as this character, and reading goes no further. -/
theorem readCharacter_escape_append (c : Char) (rest : List Char) :
    readCharacter (escape c ++ rest) = some (c, rest) := by
  rcases escape_cases c with ⟨letter, short, written⟩ | written | ⟨plain, written⟩
  · have other : letter ≠ 'u' := fun same => shortEscape?_ne_u (same ▸ short)
    simp [written, readCharacter, other, meaningOf_of_shortEscape? short]
  · have digits : ∀ x ∈ hexDigits c.toNat, decide (x ≠ '\x7d') = true := fun x member =>
      decide_eq_true (ne_brace_of_mem_hexDigits member)
    simp only [written, readCharacter, List.append_assoc, List.cons_append, List.nil_append]
    rw [List.takeWhile_append_of_pos digits, List.dropWhile_append_of_pos digits]
    simp [hexValue_hexDigits]
  · simp [written, readCharacter, plain]

/-- The written form of a character can be told from what follows it. -/
theorem escape_append_inj {s t : List Char} (same : escape c ++ s = escape d ++ t) :
    c = d ∧ s = t := by
  have read := congrArg readCharacter same
  rw [readCharacter_escape_append, readCharacter_escape_append] at read
  exact Prod.mk.inj (Option.some.inj read)

theorem escape_append_ne_nil (c : Char) (rest : List Char) : escape c ++ rest ≠ [] := by
  intro nothing
  have read := readCharacter_escape_append c rest
  rw [nothing] at read
  contradiction

theorem flatMap_escape_injective : Function.Injective (List.flatMap escape) := by
  intro s t same
  induction s generalizing t with
  | nil =>
    cases t with
    | nil => rfl
    | cons d t => exact absurd same.symm (escape_append_ne_nil d _)
  | cons c s ih =>
    cases t with
    | nil => exact absurd same (escape_append_ne_nil c _)
    | cons d t =>
      obtain ⟨rfl, others⟩ := escape_append_inj same
      rw [ih others]

/-- Two strings have two quoted forms. -/
theorem quote_injective : Function.Injective quote := by
  intro s t same
  have inside := List.append_cancel_right (List.cons_injective (String.ofList_injective same))
  exact String.toList_injective (flatMap_escape_injective inside)

end DexPatch.Text
