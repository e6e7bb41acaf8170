import DexPatch.Text.Hex
import DexPatch.Text.Invisible

/-!
# Quoted texts

Listings show a string operand between double quotes. Quotes and backslashes are
escaped, the common controls have short escapes, and any other character without a
mark of its own is written by number.

## Main definitions

* `Text.escape` — the written form of one character
* `Text.quote` — the written form of a string
-/

namespace DexPatch.Text

/-- The letter of the short escape for a character, if it has one. -/
def shortEscape? (c : Char) : Option Char :=
  match c with
  | '\x00' => some '0'
  | '\t' => some 't'
  | '\n' => some 'n'
  | '\x0d' => some 'r'
  | '"' => some '"'
  | '\\' => some '\\'
  | _ => none

/-- One character inside quotes. -/
def escape (c : Char) : List Char :=
  match shortEscape? c with
  | some letter => ['\\', letter]
  | none =>
    if IsInvisible c then ['\\', 'u', '\x7b'] ++ hexDigits c.toNat ++ ['\x7d'] else [c]

/-- A string between double quotes, each character in its written form. -/
def quote (s : String) : String :=
  String.ofList ('"' :: s.toList.flatMap escape ++ ['"'])

end DexPatch.Text
