/-!
# Bare words

A listing may write a value as a bare word. What the word means depends on what is
wanted: the same word is a string where a string is wanted and a number where a number
is. This module says which words stand for nothing, for truth values and for numbers.

## Main definitions

* `Word.IsNull`, `Word.IsBoolean` — words for nothing and for truth values
* `Word.natural?`, `Word.integer?` — numbers in decimal or after `0x`, `0o`, `0b`
* `Word.HasLeadingZero` — digits that are no number because of a zero in front
* `Word.IsDecimal` — numbers with a fraction or an exponent, within binary64
-/

namespace DexPatch.Word

/-- The words for an absent value. -/
def IsNull (word : String) : Prop := word ∈ ["null", "Null", "NULL", "~"]

instance (word : String) : Decidable (IsNull word) := inferInstanceAs (Decidable (_ ∈ _))

/-- The words for truth values. -/
def IsBoolean (word : String) : Prop :=
  word ∈ ["true", "True", "TRUE", "false", "False", "FALSE"]

instance (word : String) : Decidable (IsBoolean word) := inferInstanceAs (Decidable (_ ∈ _))

/-! ### Integers -/

/-- The value of a digit, letters counting on from nine in either case. -/
def digitValue? (c : Char) : Option Nat :=
  if c.isDigit then some (c.toNat - '0'.toNat)
  else if c.isLower then some (c.toNat - 'a'.toNat + 10)
  else if c.isUpper then some (c.toNat - 'A'.toNat + 10)
  else none

/-- Digits to a base, read on from a value. -/
def readDigits (base value : Nat) : List Char → Option Nat
  | [] => some value
  | c :: rest =>
    match digitValue? c with
    | some d => if d < base then readDigits base (base * value + d) rest else none
    | none => none

/-- One or more digits to a base. -/
def numeral? (base : Nat) : List Char → Option Nat
  | [] => none
  | digits => readDigits base 0 digits

/-- An unsigned number: decimal without a leading zero, or with a mark for its base. -/
def magnitude? : List Char → Option Nat
  | '0' :: 'x' :: digits => numeral? 16 digits
  | '0' :: 'o' :: digits => numeral? 8 digits
  | '0' :: 'b' :: digits => numeral? 2 digits
  | '0' :: _ :: _ => none
  | digits => numeral? 10 digits

/-- A number that may have a plus sign. -/
def natural? (word : String) : Option Nat :=
  match word.toList with
  | '+' :: rest => magnitude? rest
  | rest => magnitude? rest

/-- A number that may have a sign. -/
def integer? (word : String) : Option Int :=
  match word.toList with
  | '+' :: rest => (magnitude? rest).map Int.ofNat
  | '-' :: rest => (magnitude? rest).map fun n => -Int.ofNat n
  | rest => (magnitude? rest).map Int.ofNat

/-- The word without its sign, if it has one. -/
def unsigned : List Char → List Char
  | '+' :: rest => rest
  | '-' :: rest => rest
  | word => word

/-- More than one digit, the first of them zero. -/
def HasLeadingZero (word : String) : Prop :=
  match unsigned word.toList with
  | '0' :: c :: rest => (c :: rest).all Char.isDigit = true
  | _ => False

instance (word : String) : Decidable (HasLeadingZero word) := by
  unfold HasLeadingZero
  split <;> infer_instance

/-! ### Decimal fractions -/

/-- A decimal number: its digits without the point, and the power of ten that they are
multiplied by. -/
structure Decimal where
  digits : Nat
  exponent : Int
deriving DecidableEq, Repr

/-- The part after the digits: nothing, or `e` with a signed number. -/
def exponent? : List Char → Option Int
  | [] => some 0
  | c :: rest =>
    if c = 'e' ∨ c = 'E' then
      match rest with
      | '-' :: digits => (numeral? 10 digits).map fun n => -Int.ofNat n
      | '+' :: digits => (numeral? 10 digits).map Int.ofNat
      | digits => (numeral? 10 digits).map Int.ofNat
    else none

/-- An unsigned decimal number: digits with at most one point among them, and perhaps an
exponent. -/
def decimal? (word : List Char) : Option Decimal := do
  let whole := word.takeWhile Char.isDigit
  let rest := word.dropWhile Char.isDigit
  let (fraction, rest) :=
    match rest with
    | '.' :: rest => (rest.takeWhile Char.isDigit, rest.dropWhile Char.isDigit)
    | rest => ([], rest)
  let digits ← numeral? 10 (whole ++ fraction)
  let exponent ← exponent? rest
  return ⟨digits, exponent - fraction.length⟩

/-- The least number that binary64 rounds to infinity. -/
def binary64Overflow : Nat := 1 <<< 1024 - 1 <<< 970

/-- The number rounds to a finite binary64. Far-off exponents decide without the power
of ten being worked out. -/
def Decimal.IsFinite (d : Decimal) : Prop :=
  if d.digits = 0 then True
  else
    -- The number lies between `10 ^ (size - 1)` and `10 ^ size`.
    let size : Int := (Nat.toDigits 10 d.digits).length + d.exponent
    if size ≤ 308 then True
    else if 310 ≤ size then False
    else if 0 ≤ d.exponent then d.digits * Nat.pow 10 d.exponent.toNat < binary64Overflow
    else d.digits < binary64Overflow * Nat.pow 10 (-d.exponent).toNat

instance (d : Decimal) : Decidable d.IsFinite := by
  unfold Decimal.IsFinite
  infer_instance

/-- The words for the values of binary64 that are no numbers or infinite. -/
def specialWords : List String :=
  [".inf", ".Inf", ".INF", "+.inf", "+.Inf", "+.INF", "-.inf", "-.Inf", "-.INF",
    ".nan", ".NaN", ".NAN"]

/-- A number with a fraction or exponent, finite in binary64, or one of the special
words. -/
def IsDecimal (word : String) : Prop :=
  word ∈ specialWords ∨ ∃ d ∈ decimal? (unsigned word.toList), d.IsFinite

instance (word : String) : Decidable (IsDecimal word) :=
  inferInstanceAs (Decidable (_ ∨ ∃ d ∈ decimal? (unsigned word.toList), d.IsFinite))

end DexPatch.Word
