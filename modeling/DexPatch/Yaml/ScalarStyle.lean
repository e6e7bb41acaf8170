import DexPatch.Listing.Word
import DexPatch.Text.Hex
import DexPatch.Yaml.Glyph

/-!
# Written scalars

A string is written in the plainest style that reads back as the same string: plain,
between single quotes, between double quotes, or as a literal block if it has lines.

## Main definitions

* `ScalarStyle`, `ScalarStyle.ofText` — the styles and the choice among them
* `writeScalar` — a string in its style
-/

namespace DexPatch.Yaml

/-- The ways to write a string. -/
inductive ScalarStyle
  | plain
  | singleQuoted
  | doubleQuoted
  | literal
deriving DecidableEq, Repr

/-! ### What stands in the way of a style -/

/-- Stands for itself in a document: a line feed or a character that shows. -/
def IsPrintable (c : Char) : Prop :=
  c = '\n' ∨ (' ' ≤ c ∧ c ≤ '~')
    ∨ ('\u00a0' ≤ c ∧ c ≠ '\ufeff' ∧ c ≠ '\ufffe' ∧ c ≠ '\uffff')

instance (c : Char) : Decidable (IsPrintable c) := inferInstanceAs (Decidable (_ ∨ _))

/-- A character of one class stands right before one of another. -/
def HasAdjacent (p q : Char → Prop) (cs : List Char) : Prop :=
  ∃ pair ∈ cs.zip cs.tail, p pair.1 ∧ q pair.2

instance (p q : Char → Prop) [DecidablePred p] [DecidablePred q] (cs : List Char) :
    Decidable (HasAdjacent p q cs) :=
  inferInstanceAs (Decidable (∃ pair ∈ cs.zip cs.tail, p pair.1 ∧ q pair.2))

/-- A space or the end of a line. -/
def IsWhite (c : Char) : Prop := c = ' ' ∨ IsBreak c

instance : DecidablePred IsWhite := fun _ => inferInstanceAs (Decidable (_ ∨ _))

/-- The characters that give another meaning to a text that they begin. -/
def leadingIndicators : List Char :=
  ['#', ',', '[', ']', '\x7b', '\x7d', '&', '*', '!', '|', '>', '\'', '"', '%', '@', '\x60']

/-- A text begins with a mark of YAML. -/
def StartsWithIndicator (cs : List Char) : Prop :=
  cs.take 3 = ['-', '-', '-'] ∨ cs.take 3 = ['.', '.', '.']
    ∨ (∃ c ∈ cs.head?, c ∈ leadingIndicators)
    ∨ ((∃ c ∈ cs.head?, c ∈ ['-', '?', ':']) ∧ ∀ d ∈ cs.tail.head?, IsWhite d)

instance (cs : List Char) : Decidable (StartsWithIndicator cs) :=
  inferInstanceAs (Decidable (_ ∨ _ ∨ (∃ c ∈ cs.head?, _) ∨
    ((∃ c ∈ cs.head?, _) ∧ ∀ d ∈ cs.tail.head?, _)))

/-- The text is a bare word for something else than a string. -/
def IsTaken (text : String) : Prop :=
  text = "" ∨ Word.IsNull text ∨ Word.IsBoolean text
    ∨ (∃ n ∈ Word.integer? text, -Int.ofNat (1 <<< 127) ≤ n ∧ n < Int.ofNat (1 <<< 128))
    ∨ Word.IsDecimal text ∨ Word.HasLeadingZero text

instance (text : String) : Decidable (IsTaken text) :=
  inferInstanceAs (Decidable (_ ∨ _ ∨ _ ∨ (∃ n ∈ Word.integer? text, _) ∨ _ ∨ _))

/-- The text may stand without quotes. -/
def AllowsPlain (cs : List Char) : Prop :=
  ¬ StartsWithIndicator cs
    ∧ (∀ c ∈ cs, ¬ IsBreak c)
    ∧ cs.head? ≠ some ' ' ∧ cs.getLast? ≠ some ' ' ∧ cs.getLast? ≠ some ':'
    ∧ ¬ HasAdjacent (· = ':') IsWhite cs ∧ ¬ HasAdjacent IsWhite (· = '#') cs

instance (cs : List Char) : Decidable (AllowsPlain cs) :=
  inferInstanceAs (Decidable (_ ∧ _))

/-- The text may stand between single quotes. -/
def AllowsSingleQuoted (cs : List Char) : Prop :=
  (∀ c ∈ cs, IsPrintable c)
    ∧ ¬ HasAdjacent (· = ' ') IsBreak cs ∧ ¬ HasAdjacent IsBreak (· = ' ') cs

instance (cs : List Char) : Decidable (AllowsSingleQuoted cs) :=
  inferInstanceAs (Decidable (_ ∧ _))

/-- The text may stand as a literal block. -/
def AllowsLiteral (cs : List Char) : Prop :=
  (∀ c ∈ cs, IsPrintable c) ∧ ¬ HasAdjacent (· = ' ') IsBreak cs ∧ cs.getLast? ≠ some ' '

instance (cs : List Char) : Decidable (AllowsLiteral cs) :=
  inferInstanceAs (Decidable (_ ∧ _))

/-- The style of a text. -/
def ScalarStyle.ofText (text : String) : ScalarStyle :=
  let cs := text.toList
  -- A text with lines is a literal block or nothing but escapes will do.
  if '\n' ∈ cs then
    if AllowsLiteral cs then .literal else .doubleQuoted
  else if ¬ AllowsSingleQuoted cs then .doubleQuoted
  else if IsTaken text ∨ ¬ AllowsPlain cs then .singleQuoted
  else .plain

/-! ### Writing in a style -/

/-- Every line that begins after a break is indented, unless it is empty. -/
def indentLines (indent : Nat) (atStart : Bool) : List Char → List Char
  | [] => []
  | c :: rest =>
    if IsBreak c then c :: indentLines indent true rest
    else
      (if atStart then List.replicate indent ' ' else []) ++ c :: indentLines indent false rest

/-- The letter of the short escape of a character, if it has one. -/
def escapeLetter? (c : Char) : Option Char :=
  [('\x00', '0'), ('\x07', 'a'), ('\x08', 'b'), ('\t', 't'), ('\n', 'n'), ('\x0b', 'v'),
    ('\x0c', 'f'), ('\r', 'r'), ('\x1b', 'e'), ('"', '"'), ('\\', '\\'), ('\u0085', 'N'),
    ('\u2028', 'L'), ('\u2029', 'P')].lookup c

/-- Upper-case hexadecimal digits, filled up with zeros to a width. -/
def paddedHex (width n : Nat) : List Char :=
  let digits := (Text.hexDigits n).map Char.toUpper
  List.replicate (width - digits.length) '0' ++ digits

/-- A character between double quotes. -/
def escapeDouble (c : Char) : List Char :=
  match escapeLetter? c with
  | some letter => ['\\', letter]
  | none =>
    if IsPrintable c then [c]
    else if c.toNat < 0x100 then '\\' :: 'x' :: paddedHex 2 c.toNat
    else '\\' :: 'u' :: paddedHex 4 c.toNat

/-- The marks of a literal block: the depth of its indentation if its text begins with
white space, and what becomes of the line breaks at its end. -/
def blockMarksOf (cs : List Char) : List Char :=
  let depth := if cs.head?.any (IsWhite ·) then ['2'] else []
  let chomp :=
    match cs.reverse with
    | last :: rest =>
      if ¬ IsBreak last then ['-']
      else if rest.head?.all (IsBreak ·) then ['+'] else []
    | [] => ['-']
  depth ++ chomp

/-- A text as a scalar whose further lines are indented, up to the end of its line. -/
def writeScalar (indent : Nat) (text : String) : String :=
  let cs := text.toList
  match ScalarStyle.ofText text with
  | .plain => text ++ "\n"
  | .singleQuoted =>
    let doubled := cs.flatMap fun c => if c = '\'' then ['\'', '\''] else [c]
    -- The closing quote is indented too if it comes first on its line.
    String.ofList ('\'' :: indentLines indent false (doubled ++ ['\''])) ++ "\n"
  | .doubleQuoted => String.ofList ('"' :: cs.flatMap escapeDouble ++ ['"']) ++ "\n"
  | .literal =>
    let lines := String.ofList (indentLines indent true cs)
    let ending := if cs.getLast?.any (IsBreak ·) then "" else "\n"
    "|" ++ String.ofList (blockMarksOf cs) ++ "\n" ++ lines ++ ending

end DexPatch.Yaml
