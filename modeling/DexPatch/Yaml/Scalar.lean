import DexPatch.Listing.Word
import DexPatch.Yaml.Glyph

/-!
# YAML scalars

A scalar is quoted, plain or a literal block. Line breaks inside the first two fold: one
break is a space, and of several the first is dropped.

## Main definitions

* `Piece`, `Gap`, `fold` — the contents of a scalar and their folding
* `singleQuoted`, `doubleQuoted`, `plain` — the pieces of a scalar
* `BlockHeader`, `literal` — literal blocks
-/

namespace DexPatch.Yaml

/-! ### Folding -/

/-- A part of a scalar, as folding sees it. -/
inductive Piece
  | fixed (c : Char)
  | blank (c : Char)
  | lineBreak (c : Char)
  /-- A line break that is escaped: the next line goes on without a space. -/
  | joint
deriving DecidableEq, Repr

/-- A character as a piece. -/
def Piece.ofChar (c : Char) : Piece :=
  if IsBlank c then .blank c else if IsBreak c then .lineBreak c else .fixed c

/-- White space since the last fixed character. -/
inductive Gap
  | blanks (chars : List Char)
  /-- Line breaks; the first is missing after a joint. -/
  | breaks (first : Option Char) (others : List Char)
deriving DecidableEq, Repr

namespace Gap

/-- What a gap folds to. -/
def text : Gap → List Char
  | blanks chars => chars
  | breaks (some '\n') [] => [' ']
  | breaks (some '\n') others => others
  | breaks first others => first.toList ++ others

/-- The gap with one more blank; blanks count only where no line has ended. -/
def addBlank (c : Char) : Gap → Gap
  | blanks chars => blanks (chars ++ [c])
  | breaks first others => breaks first others

/-- The gap with one more line break. -/
def addBreak (c : Char) : Gap → Gap
  | blanks _ => breaks (some c) []
  | breaks first others => breaks first (others ++ [c])

/-- A line has ended in the gap. -/
def EndsLine : Gap → Prop
  | blanks _ => False
  | breaks _ _ => True

instance (g : Gap) : Decidable g.EndsLine := by
  cases g <;> unfold EndsLine <;> infer_instance

end Gap

/-- The folded text of pieces after a gap, and the gap at their end. -/
def fold : Gap → List Piece → List Char × Gap
  | gap, [] => ([], gap)
  | gap, .fixed c :: rest =>
    let (text, last) := fold (.blanks []) rest
    (gap.text ++ c :: text, last)
  | gap, .blank c :: rest => fold (gap.addBlank c) rest
  | gap, .lineBreak c :: rest => fold (gap.addBreak c) rest
  | gap, .joint :: rest =>
    let (text, last) := fold (.breaks none []) rest
    (gap.text ++ text, last)

/-- The text of a quoted scalar, white space at its end included. -/
def foldQuoted (pieces : List Piece) : String :=
  let (text, last) := fold (.blanks []) pieces
  String.ofList (text ++ last.text)

/-! ### Quoted scalars -/

/-- The inside of a single-quoted scalar, up to its end; a quote is written twice. -/
def singleQuoted : (gs : List Glyph) → Except YamlError (Reading Glyph (List Piece) gs.length)
  | [] => .error .unclosedQuote
  | g :: rest =>
    if AtAnyMarker (g :: rest) then .error .markerInQuote
    else if g.char = '\'' then
      -- A second quote makes this one a character of the text.
      match rest with
      | [] => .ok ⟨[], [], by simp⟩
      | h :: more =>
        if h.char = '\'' then do
          return ((← singleQuoted more).map (.fixed '\'' :: ·)).widen (by simp; omega)
        else .ok ⟨[], h :: more, by simp⟩
    else do
      return ((← singleQuoted rest).map (.ofChar g.char :: ·)).widen (by simp)

/-- The character of a short escape. -/
def shortEscape? (c : Char) : Option Char :=
  [('0', '\x00'), ('a', '\x07'), ('b', '\x08'), ('t', '\t'), ('\t', '\t'), ('n', '\n'),
    ('v', '\x0b'), ('f', '\x0c'), ('r', '\r'), ('e', '\x1b'), (' ', ' '), ('"', '"'),
    ('/', '/'), ('\\', '\\'), ('N', '\u0085'), ('_', '\u00a0'), ('L', '\u2028'),
    ('P', '\u2029')].lookup c

/-- The number of hexadecimal digits after the letter of a long escape. -/
def escapeWidth? (c : Char) : Option Nat := [('x', 2), ('u', 4), ('U', 8)].lookup c

/-- The character of a code point in hexadecimal digits of a given number. -/
def codePoint? (width : Nat) (digits : List Char) : Option Char := do
  let code ← Word.numeral? 16 digits
  if digits.length = width ∧ code.isValidChar then some (Char.ofNat code) else none

/-- The inside of a double-quoted scalar, up to its end. -/
def doubleQuoted (gs : List Glyph) : Except YamlError (Reading Glyph (List Piece) gs.length) :=
  match gs with
  | [] => .error .unclosedQuote
  | g :: rest =>
    if AtAnyMarker (g :: rest) then .error .markerInQuote
    else if g.char = '"' then .ok ⟨[], rest, length_le_cons g rest⟩
    else if g.char = '\\' then
      match rest with
      | [] => .error .unclosedQuote
      | h :: more =>
        if IsBreak h.char then do
          return ((← doubleQuoted more).map (.joint :: ·)).widen
            (length_le_cons_cons g h more)
        else
          match shortEscape? h.char, escapeWidth? h.char with
          | some c, _ => do
            return ((← doubleQuoted more).map (.fixed c :: ·)).widen
              (length_le_cons_cons g h more)
          | none, some width =>
            match codePoint? width ((more.take width).map Glyph.char) with
            | some c => do
              return ((← doubleQuoted (more.drop width)).map (.fixed c :: ·)).widen
                (Nat.le_of_lt (length_drop_lt_cons_cons g h more width))
            | none => .error .unknownEscape
          | none, none => .error .unknownEscape
    else do
      return ((← doubleQuoted rest).map (.ofChar g.char :: ·)).widen
        (length_le_cons g rest)
termination_by gs.length
decreasing_by
  · exact length_lt_cons_cons g h more
  · exact length_lt_cons_cons g h more
  · exact length_drop_lt_cons_cons g h more width
  · exact length_lt_cons g rest

/-! ### Plain scalars -/

/-- Where in a plain scalar the reader stands: in a word, after a blank or after a line
break. -/
inductive Spot
  | word
  | blank
  | line
deriving DecidableEq, Repr

/-- A plain scalar ends before these characters. Inside brackets the marks of the
collection end it; elsewhere a line that is not indented deeper than its block does. -/
def EndsPlain (inFlow : Bool) (indent : Nat) (spot : Spot) (gs : List Glyph) : Prop :=
  match gs with
  | [] => True
  | g :: rest =>
    (g.char = ':' ∧ EndsWord rest)
      ∨ (inFlow = true ∧ g.char ∈ [',', '[', ']', '\x7b', '\x7d'])
      ∨ (spot ≠ .word ∧ (g.char = '#' ∨ AtAnyMarker gs))
      ∨ (spot = .line ∧ inFlow = false ∧ g.column < indent)

instance (inFlow : Bool) (indent : Nat) (spot : Spot) (gs : List Glyph) :
    Decidable (EndsPlain inFlow indent spot gs) :=
  match gs with
  | [] => inferInstanceAs (Decidable True)
  | _ :: _ => inferInstanceAs (Decidable (_ ∨ _))

/-- The pieces of a plain scalar, white space after it included. -/
def plain (inFlow : Bool) (indent : Nat) :
    (spot : Spot) → (gs : List Glyph) →
      Except YamlError (Reading Glyph (List Piece) gs.length)
  | _, [] => .ok ⟨[], [], by simp⟩
  | spot, g :: rest =>
    if IsBlank g.char then
      if spot = .line ∧ g.char = '\t' ∧ g.column < indent then .error .tabIndentation
      else do
        -- Blanks after a line break belong to the new line.
        let next := if spot = .line then .line else .blank
        return ((← plain inFlow indent next rest).map (.blank g.char :: ·)).widen (by simp)
    else if IsBreak g.char then do
      return ((← plain inFlow indent .line rest).map (.lineBreak g.char :: ·)).widen (by simp)
    else if EndsPlain inFlow indent spot (g :: rest) then .ok ⟨[], g :: rest, by simp⟩
    else if inFlow ∧ g.char = ':' ∧ StartsWithAny [',', '?', '[', ']', '\x7b', '\x7d'] rest then
      .error .tightColon
    else do
      return ((← plain inFlow indent .word rest).map (.fixed g.char :: ·)).widen (by simp)

/-! ### Literal blocks -/

/-- What becomes of the line breaks at the end of a literal block. -/
inductive Chomp
  | strip
  | clip
  | keep
deriving DecidableEq, Repr

/-- The mark of a way to chomp. -/
def Chomp.ofMark? (c : Char) : Option Chomp := [('-', strip), ('+', keep)].lookup c

/-- The first line of a literal block: its marks. -/
structure BlockHeader where
  chomp : Chomp := .clip
  indent : Option Nat := none
deriving DecidableEq, Repr

/-- The digit of an indentation mark; zero is not allowed. -/
def indentMark (c : Char) : Except YamlError (Option Nat) :=
  if c = '0' then .error .malformedHeader
  else if c.isDigit then .ok (some (c.toNat - '0'.toNat))
  else .ok none

/-- The marks at the front of a block header, in either order. -/
def blockMarks (gs : List Glyph) : Except YamlError (Reading Glyph BlockHeader gs.length) := do
  match gs.head?.bind fun g => Chomp.ofMark? g.char with
  | some chomp =>
    match ← indentOf gs.tail with
    | none => return ⟨{ chomp }, gs.tail, by simp⟩
    | some indent => return ⟨{ chomp, indent }, gs.tail.tail, by simp; omega⟩
  | none =>
    match ← indentOf gs with
    | none => return ⟨{}, gs, by simp⟩
    | some indent =>
      match gs.tail.head?.bind fun g => Chomp.ofMark? g.char with
      | some chomp => return ⟨{ chomp, indent }, gs.tail.tail, by simp; omega⟩
      | none => return ⟨{ indent }, gs.tail, by simp⟩
where
  indentOf (gs : List Glyph) : Except YamlError (Option Nat) :=
    match gs with
    | [] => .ok none
    | g :: _ => indentMark g.char

/-- The rest of a line on which no text may follow: blanks and perhaps a comment. -/
def restOfLine (inComment : Bool) :
    (gs : List Glyph) → Except YamlError (Reading Glyph Unit gs.length)
  | [] => .ok ⟨(), [], by simp⟩
  | g :: rest =>
    if IsBreak g.char then .ok ⟨(), rest, by simp⟩
    else if inComment ∨ g.char = '#' then do
      return (← restOfLine true rest).widen (by simp)
    else if IsBlank g.char then do
      return (← restOfLine false rest).widen (by simp)
    else .error .trailingText

/-- The empty lines at the front of a literal block that does not state its indentation,
with the greatest column reached: that of the first text, unless an empty line goes
further. -/
def emptyLines (deepest : Nat) :
    (gs : List Glyph) → Except YamlError (Reading Glyph (List Char × Nat) gs.length)
  | [] => .ok ⟨([], deepest), [], by simp⟩
  | g :: rest =>
    if g.char = ' ' then do
      return (← emptyLines deepest rest).widen (by simp)
    else if g.char = '\t' then .error .tabIndentation
    else if IsBreak g.char then do
      let r ← emptyLines (max deepest g.column) rest
      return (r.map fun (breaks, column) => (g.char :: breaks, column)).widen (by simp)
    else .ok ⟨([], max deepest g.column), g :: rest, by simp⟩

/-- The lines of a literal block, without their indentation. -/
def literalLines (indent : Nat) (inLine : Bool) :
    (gs : List Glyph) → Except YamlError (Reading Glyph (List Char) gs.length)
  | [] => .ok ⟨[], [], by simp⟩
  | g :: rest =>
    if IsBreak g.char then do
      return ((← literalLines indent false rest).map (g.char :: ·)).widen (by simp)
    else if inLine ∨ indent ≤ g.column then do
      return ((← literalLines indent true rest).map (g.char :: ·)).widen (by simp)
    else if g.char = ' ' then do
      return (← literalLines indent false rest).widen (by simp)
    else if g.char = '\t' then .error .tabIndentation
    else .ok ⟨[], g :: rest, by simp⟩

/-- A text with the line breaks at its end kept as a header says: all, the first if there
is text before it, or none. -/
def Chomp.apply (chomp : Chomp) (text : List Char) : List Char :=
  let tail := (text.reverse.takeWhile fun c => IsBreak c).reverse
  let body := (text.reverse.dropWhile fun c => IsBreak c).reverse
  match chomp with
  | strip => body
  | keep => text
  | clip => if body.isEmpty then [] else body ++ tail.take 1

/-- A literal block after its mark. `outer` is the least column of what belongs to the
block around it. -/
def literal (outer : Nat) (gs : List Glyph) :
    Except YamlError (Reading Glyph String gs.length) := do
  let ⟨header, afterMarks, h₁⟩ ← blockMarks gs
  let ⟨(), lines, h₂⟩ ← restOfLine false afterMarks
  match header.indent with
  | some indent =>
    -- The mark counts from the column of the block around.
    let r ← literalLines (outer - 1 + indent) false lines
    let text := header.chomp.apply r.value
    return ⟨String.ofList text, r.rest, by have := r.rest_le; omega⟩
  | none =>
    -- The first text sets the indentation.
    let ⟨(breaks, column), start, h₃⟩ ← emptyLines 0 lines
    let r ← literalLines (max column (max outer 1)) false start
    let text := header.chomp.apply (breaks ++ r.value)
    return ⟨String.ofList text, r.rest, by have := r.rest_le; omega⟩

end DexPatch.Yaml
