/-!
# Characters with their places

YAML gives meaning to line breaks and columns. A text is read as a list of characters
that know where they stand, with every way of ending a line made the same.

## Main definitions

* `YamlError` — why a text is no YAML document
* `IsBreak`, `IsBlank`, `IsAllowed` — the classes of characters
* `Glyph`, `Glyph.ofText` — characters with their places
* `Reading` — a value read from the front of a list
-/

namespace DexPatch

/-- Why a text is no YAML document. -/
inductive YamlError
  | forbiddenCharacter (c : Char)
  | strayCharacter (c : Char)
  | tabIndentation
  | misplacedEntry
  | misplacedKey
  | misplacedValue
  | missingColon
  | tightColon
  | unknownEscape
  | unclosedQuote
  | markerInQuote
  | malformedHeader
  | trailingText
  | malformedDirective
  | unsupportedVersion
  | repeatedDirective
  | missingStart
  | unexpectedToken
  | unexpectedEnd
  | moreDocuments
deriving DecidableEq, Repr

def YamlError.message : YamlError → String
  | forbiddenCharacter _ => "control characters are not allowed"
  | strayCharacter c => "character '" ++ c.toString ++ "' cannot start a value"
  | tabIndentation => "a tab cannot indent a line"
  | misplacedEntry => "a list entry is not allowed here"
  | misplacedKey => "a key is not allowed here"
  | misplacedValue => "a value is not allowed here"
  | missingColon => "expected ':' after a key"
  | tightColon => "expected a blank after ':'"
  | unknownEscape => "unknown escape"
  | unclosedQuote => "a quoted text does not end"
  | markerInQuote => "a document marker inside a quoted text"
  | malformedHeader => "malformed header of a block text"
  | trailingText => "expected a comment or the end of the line"
  | malformedDirective => "malformed directive"
  | unsupportedVersion => "unsupported version of YAML"
  | repeatedDirective => "a directive is repeated"
  | missingStart => "no document starts after a directive"
  | unexpectedToken => "a value or the end of a collection is missing"
  | unexpectedEnd => "the text ends too early"
  | moreDocuments => "more than one document"

namespace Yaml

/-- Ends a line. -/
def IsBreak (c : Char) : Prop := c = '\n' ∨ c = '\u2028' ∨ c = '\u2029'

instance (c : Char) : Decidable (IsBreak c) := inferInstanceAs (Decidable (_ ∨ _))

/-- Separates words on a line. -/
def IsBlank (c : Char) : Prop := c = ' ' ∨ c = '\t'

instance (c : Char) : Decidable (IsBlank c) := inferInstanceAs (Decidable (_ ∨ _))

/-- May occur in a document: any character but controls and the two noncharacters at the
end of the basic plane. -/
def IsAllowed (c : Char) : Prop :=
  c = '\t' ∨ c = '\n' ∨ c = '\r' ∨ c = '\u0085' ∨
    (' ' ≤ c ∧ c ≤ '~') ∨ ('\u00a0' ≤ c ∧ c ≠ '\ufffe' ∧ c ≠ '\uffff')

instance (c : Char) : Decidable (IsAllowed c) := inferInstanceAs (Decidable (_ ∨ _))

/-- A character with its place: its line, its column in the line, and the number of bytes
before it in the whole text. -/
structure Glyph where
  char : Char
  line : Nat
  column : Nat
  offset : Nat
deriving DecidableEq, Repr

namespace Glyph

/-- The characters of a text from a given place on. Carriage returns and next-line
characters become line feeds, but count with their own bytes. -/
def ofChars (line column offset : Nat) : List Char → Except YamlError (List Glyph)
  | [] => .ok []
  | '\r' :: '\n' :: rest => do
    return ⟨'\n', line, column, offset⟩ :: (← ofChars (line + 1) 0 (offset + 2) rest)
  | c :: rest =>
    if ¬ IsAllowed c then .error (.forbiddenCharacter c)
    else do
      let next := offset + c.utf8Size
      if c = '\r' ∨ c = '\u0085' then
        return ⟨'\n', line, column, offset⟩ :: (← ofChars (line + 1) 0 next rest)
      else if IsBreak c then
        return ⟨c, line, column, offset⟩ :: (← ofChars (line + 1) 0 next rest)
      else
        return ⟨c, line, column, offset⟩ :: (← ofChars line (column + 1) next rest)

/-- The characters of a text, without a byte order mark at its start. -/
def ofText (text : String) : Except YamlError (List Glyph) :=
  match text.toList with
  | '\ufeff' :: rest => ofChars 0 0 0 rest
  | chars => ofChars 0 0 0 chars

end Glyph

/-- A blank, a line break or the end of the text comes next. -/
def EndsWord : List Glyph → Prop
  | [] => True
  | g :: _ => IsBlank g.char ∨ IsBreak g.char

instance (gs : List Glyph) : Decidable (EndsWord gs) := by
  cases gs <;> unfold EndsWord <;> infer_instance

/-- One of the characters comes next. -/
def StartsWithAny (chars : List Char) : List Glyph → Prop
  | [] => False
  | g :: _ => g.char ∈ chars

instance (chars : List Char) (gs : List Glyph) : Decidable (StartsWithAny chars gs) := by
  cases gs <;> unfold StartsWithAny <;> infer_instance

/-- A line starts with three times the same mark and nothing attached. -/
def AtMarker (mark : Char) (gs : List Glyph) : Prop :=
  (∃ g ∈ gs.head?, g.column = 0) ∧ (gs.take 3).map Glyph.char = [mark, mark, mark]
    ∧ EndsWord (gs.drop 3)

instance (mark : Char) (gs : List Glyph) : Decidable (AtMarker mark gs) :=
  inferInstanceAs (Decidable ((∃ g ∈ gs.head?, g.column = 0) ∧ _ ∧ _))

/-- A line starts with the mark of the start or of the end of a document. -/
def AtAnyMarker (gs : List Glyph) : Prop := AtMarker '-' gs ∨ AtMarker '.' gs

instance (gs : List Glyph) : Decidable (AtAnyMarker gs) := inferInstanceAs (Decidable (_ ∨ _))

/-! ### Readings -/

section Lengths

variable {σ : Type} (a b : σ) (rest : List σ)

theorem length_lt_cons : rest.length < (a :: rest).length := Nat.lt_succ_self _

theorem length_le_cons : rest.length ≤ (a :: rest).length := Nat.le_succ _

theorem length_lt_cons_cons : rest.length < (a :: b :: rest).length :=
  Nat.lt_add_of_pos_right Nat.two_pos

theorem length_le_cons_cons : rest.length ≤ (a :: b :: rest).length := Nat.le_add_right _ 2

theorem length_drop_lt_cons_cons (n : Nat) : (rest.drop n).length < (a :: b :: rest).length :=
  Nat.lt_of_le_of_lt (rest.drop_sublist n).length_le (length_lt_cons_cons a b rest)

end Lengths

/-- A value read from the front of a list, with what is left of the list: no more than
`size` elements. -/
structure Reading (σ α : Type) (size : Nat) where
  value : α
  rest : List σ
  rest_le : rest.length ≤ size

namespace Reading

variable {σ α β : Type} {m n : Nat}

/-- The same reading with its value changed. -/
def map (f : α → β) (r : Reading σ α n) : Reading σ β n := ⟨f r.value, r.rest, r.rest_le⟩

/-- The same reading of a longer list. -/
def widen (h : n ≤ m) (r : Reading σ α n) : Reading σ α m :=
  ⟨r.value, r.rest, Nat.le_trans r.rest_le h⟩

/-- Nothing read. -/
def none (value : α) (rest : List σ) : Reading σ α rest.length := ⟨value, rest, Nat.le_refl _⟩

end Reading

end Yaml

end DexPatch
