/-!
# Hexadecimal numerals

## Main definitions

* `Text.hexDigits` — the lower-case hexadecimal digits of a natural number
* `Text.hex` — a natural number as `0x…`
* `Text.signedHex` — an integer as its sign and the numeral of its size
-/

namespace DexPatch.Text

/-- The lower-case digits of `n` to base sixteen, without leading zeros. -/
def hexDigits (n : Nat) : List Char := Nat.toDigits 16 n

/-- `n` in hexadecimal, marked as such. -/
def hex (n : Nat) : String := "0x" ++ String.ofList (hexDigits n)

/-- A negative number is a minus sign before the numeral of its size. -/
def signedHex (i : Int) : String :=
  if i < 0 then "-" ++ hex i.natAbs else hex i.natAbs

end DexPatch.Text
