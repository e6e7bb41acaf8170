import DexPatch.Yaml.Directive

/-!
# YAML tokens

A text is first cut into tokens. Indentation becomes marks for the start and the end of
blocks. That a value is a key shows only at the colon after it, so the place before a
value that may be a key is remembered, and the mark of the key is put there later.

## Main definitions

* `Token` — the tokens
* `KeySlot` — a place where a key may turn out to have begun
* `Layout` — the tokens so far, the open blocks and the open key slots
* `Token.ofGlyphs` — the tokens of a text
-/

namespace DexPatch.Yaml

/-- The parts of a document. -/
inductive Token
  | documentStart
  | documentEnd
  | listStart
  | mapStart
  | blockEnd
  /-- The dash of a list entry. -/
  | entry
  | key
  | value
  | openList
  | closeList
  | openMap
  | closeMap
  | comma
  /-- A scalar; a plain one is a bare word. -/
  | scalar (text : String) (isPlain : Bool)
  | directive (content : Directive)
deriving DecidableEq, Repr

/-- A place where a key may turn out to have begun: the number of tokens before it, and
where it stands in the text. It is required if nothing but a key can stand there. -/
structure KeySlot where
  position : Nat
  line : Nat
  column : Nat
  offset : Nat
  required : Bool
deriving DecidableEq, Repr

/-- The length that a key may have, in bytes. -/
def KeySlot.limit : Nat := 1024

/-- At a later place the key can no longer be one: keys are short and on one line. -/
def KeySlot.IsPast (slot : KeySlot) (g : Glyph) : Prop :=
  slot.line < g.line ∨ slot.offset + KeySlot.limit < g.offset

instance (slot : KeySlot) (g : Glyph) : Decidable (slot.IsPast g) :=
  inferInstanceAs (Decidable (_ ∨ _))

/-- What of the text before a place bears on it. -/
structure Layout where
  tokens : Array Token := #[]
  /-- The columns of the open blocks, the innermost first. -/
  blocks : List Nat := []
  slot : Option KeySlot := none
  /-- The slots outside the open brackets, one for each bracket, the innermost first. -/
  outerSlots : List (Option KeySlot) := []
  /-- A key may begin here. -/
  keyAllowed : Bool := true
deriving Repr

namespace Layout

/-- Brackets are open. -/
def inFlow (s : Layout) : Bool := !s.outerSlots.isEmpty

/-- The least column of what belongs to the innermost block. -/
def indent (s : Layout) : Nat :=
  match s.blocks with
  | [] => 0
  | column :: _ => column + 1

def push (s : Layout) (t : Token) : Layout := { s with tokens := s.tokens.push t }

/-! ### Blocks -/

/-- Closes the blocks at a column or deeper. -/
def closeFrom (s : Layout) (column : Nat) : Layout :=
  if s.inFlow then s
  else
    -- Columns grow from the outermost block to the innermost.
    let closed := s.blocks.takeWhile (column ≤ ·)
    { s with
      blocks := s.blocks.dropWhile (column ≤ ·)
      tokens := s.tokens ++ (closed.map fun _ => Token.blockEnd) }

/-- Opens a block at a column, unless it is open already; its mark comes at a given
position among the tokens. -/
def openBlock (s : Layout) (column : Nat) (mark : Token) (position : Nat) : Layout :=
  if s.inFlow ∨ column < s.indent then s
  else
    { s with
      blocks := column :: s.blocks
      tokens := s.tokens.insertIdxIfInBounds position mark }

/-! ### Key slots -/

/-- Gives up the slot of the innermost collection; a required key that did not come is an
error. -/
def clearSlot (s : Layout) : Except YamlError Layout :=
  if ∃ k ∈ s.slot, k.required then .error .missingColon else .ok { s with slot := none }

/-- Gives up the slot if a place is too far from it. The slots outside open brackets wait
until the brackets are closed: no colon can meet them before. -/
def expire (s : Layout) (g : Glyph) : Except YamlError Layout :=
  if ∃ k ∈ s.slot, k.IsPast g then s.clearSlot else .ok s

/-- Remembers the place before a value, which may be a key. -/
def saveSlot (s : Layout) (g : Glyph) : Except YamlError Layout := do
  if s.keyAllowed then
    let s ← s.clearSlot
    -- On the column of the keys of an open map only another key can stand.
    let required := !s.inFlow && s.indent == g.column + 1
    return { s with slot := some ⟨s.tokens.size, g.line, g.column, g.offset, required⟩ }
  else
    return s

/-! ### Tokens -/

/-- A bracket that opens a collection. -/
def opening (s : Layout) (g : Glyph) (t : Token) : Except YamlError Layout := do
  let s ← s.saveSlot g
  return { s.push t with slot := none, outerSlots := s.slot :: s.outerSlots, keyAllowed := true }

/-- A bracket that closes a collection. -/
def closing (s : Layout) (t : Token) : Except YamlError Layout := do
  let s ← s.clearSlot
  let s := { s.push t with keyAllowed := false }
  match s.outerSlots with
  | [] => return s
  | slot :: outerSlots => return { s with slot, outerSlots }

/-- A comma. -/
def separator (s : Layout) : Except YamlError Layout := do
  let s ← s.clearSlot
  return { s.push .comma with keyAllowed := true }

/-- What stands between documents: a directive, or the mark of a start or of an end. -/
def marker (s : Layout) (t : Token) : Except YamlError Layout := do
  let s ← (s.closeFrom 0).clearSlot
  return { s.push t with keyAllowed := false }

/-- A dash with a blank after it. -/
def listEntry (s : Layout) (g : Glyph) : Except YamlError Layout := do
  if ¬ s.inFlow ∧ ¬ s.keyAllowed then throw .misplacedEntry
  let s ← (s.openBlock g.column .listStart s.tokens.size).clearSlot
  return { s.push .entry with keyAllowed := true }

/-- A question mark before a key. -/
def keyMark (s : Layout) (g : Glyph) : Except YamlError Layout := do
  if ¬ s.inFlow ∧ ¬ s.keyAllowed then throw .misplacedKey
  let s ← (s.openBlock g.column .mapStart s.tokens.size).clearSlot
  return { s.push .key with keyAllowed := !s.inFlow }

/-- A colon. If a slot is open, what began there is the key; in a block it also opens the
map, unless that is open already. -/
def colon (s : Layout) (g : Glyph) : Except YamlError Layout := do
  match s.slot with
  | some slot =>
    -- The map's mark goes in front of the key's, so it is put in second.
    let s := { s with tokens := s.tokens.insertIdxIfInBounds slot.position .key }
    let s := s.openBlock slot.column .mapStart slot.position
    return { s.push .value with slot := none, keyAllowed := false }
  | none =>
    -- A colon without a key has an empty one, but only where a key could begin.
    if ¬ s.inFlow ∧ ¬ s.keyAllowed then throw .misplacedValue
    let s := s.openBlock g.column .mapStart s.tokens.size
    return { s.push .value with keyAllowed := !s.inFlow }

/-- A scalar on a line, which may be a key. -/
def lineScalar (s : Layout) (g : Glyph) (text : String) (isPlain : Bool) :
    Except YamlError Layout := do
  let s ← s.saveSlot g
  return { s.push (.scalar text isPlain) with keyAllowed := false }

/-- A literal block. -/
def blockScalar (s : Layout) (text : String) : Except YamlError Layout := do
  let s ← s.clearSlot
  return { s.push (.scalar text false) with keyAllowed := true }

/-- The end of the text. -/
def finish (s : Layout) : Except YamlError (Array Token) := do
  return (← (s.closeFrom 0).clearSlot).tokens

end Layout

/-- White space and comments before a token. Outside brackets a key may begin on a new
line, and a tab may not stand where a key may begin. -/
def skipBlanks (s : Layout) (inComment : Bool) :
    (gs : List Glyph) → Reading Glyph Layout gs.length
  | [] => .none s []
  | g :: rest =>
    if IsBreak g.char then
      (skipBlanks { s with keyAllowed := s.keyAllowed || !s.inFlow } false rest).widen (by simp)
    else if inComment ∨ g.char = '#' then
      (skipBlanks s true rest).widen (by simp)
    else if g.char = ' ' ∨ (g.char = '\t' ∧ (s.inFlow ∨ ¬ s.keyAllowed)) then
      (skipBlanks s false rest).widen (by simp)
    else .none s (g :: rest)

/-- The characters that start no plain scalar. -/
def indicators : List Char :=
  ['-', '?', ':', ',', '[', ']', '\x7b', '\x7d', '#', '&', '*', '!', '|', '>', '\'', '"',
    '%', '@', '\x60']

/-- A plain scalar begins with the character. The marks of entries, keys and values may
begin one where they are not set off by a blank. -/
def StartsPlain (inFlow : Bool) (g : Glyph) (rest : List Glyph) : Prop :=
  (¬ EndsWord [g] ∧ g.char ∉ indicators)
    ∨ (g.char = '-' ∧ ¬ EndsWord rest)
    ∨ (inFlow = false ∧ g.char ∈ ['?', ':'] ∧ ¬ EndsWord rest)

instance (inFlow : Bool) (g : Glyph) (rest : List Glyph) :
    Decidable (StartsPlain inFlow g rest) :=
  inferInstanceAs (Decidable (_ ∨ _))

/-- The token that begins with a character. -/
def readToken (s : Layout) (g : Glyph) (rest : List Glyph) :
    Except YamlError (Reading Glyph Layout rest.length) := do
  let indicator (s : Layout) : Reading Glyph Layout rest.length := .none s rest
  -- A document marker is three characters, of which `g` is the first.
  let marked (s : Layout) : Reading Glyph Layout rest.length := ⟨s, rest.drop 2, by simp⟩
  if g.column = 0 ∧ g.char = '%' then
    let r ← directive rest
    return ⟨← s.marker (.directive r.value), r.rest, r.rest_le⟩
  if AtMarker '-' (g :: rest) then return marked (← s.marker .documentStart)
  if AtMarker '.' (g :: rest) then return marked (← s.marker .documentEnd)
  match g.char with
  | '[' => return indicator (← s.opening g .openList)
  | '\x7b' => return indicator (← s.opening g .openMap)
  | ']' => return indicator (← s.closing .closeList)
  | '\x7d' => return indicator (← s.closing .closeMap)
  | ',' => return indicator (← s.separator)
  | '\'' =>
    let r ← singleQuoted rest
    return ⟨← s.lineScalar g (foldQuoted r.value) false, r.rest, r.rest_le⟩
  | '"' =>
    let r ← doubleQuoted rest
    return ⟨← s.lineScalar g (foldQuoted r.value) false, r.rest, r.rest_le⟩
  | c =>
    if c = '-' ∧ EndsWord rest then return indicator (← s.listEntry g)
    if c = '?' ∧ (s.inFlow ∨ EndsWord rest) then return indicator (← s.keyMark g)
    if c = ':' ∧ (s.inFlow ∨ EndsWord rest) then return indicator (← s.colon g)
    if c = '|' ∧ ¬ s.inFlow then
      let r ← literal s.indent rest
      return ⟨← s.blockScalar r.value, r.rest, r.rest_le⟩
    if ¬ StartsPlain s.inFlow g rest then throw (.strayCharacter c)
    let r ← plain s.inFlow s.indent .word rest
    let (text, gap) := fold (.blanks []) (.fixed c :: r.value)
    let s ← s.lineScalar g (String.ofList text) true
    -- Reading went on to the next text; if that is on a new line, a key may begin there.
    return ⟨{ s with keyAllowed := gap.EndsLine }, r.rest, r.rest_le⟩

/-- The tokens of a text from a place on. -/
def Layout.run (s : Layout) (gs : List Glyph) : Except YamlError (Array Token) :=
  match skipBlanks s false gs with
  | ⟨s, [], _⟩ => s.finish
  | ⟨s, g :: rest, _⟩ => do
    let s ← s.expire g
    -- Text that stands further left ends the blocks that it does not belong to.
    let r ← readToken (s.closeFrom (g.column + 1)) g rest
    Layout.run r.value r.rest
termination_by gs.length
decreasing_by
  have := r.rest_le
  simp_all
  omega

/-- The tokens of a text. -/
def Token.ofGlyphs (gs : List Glyph) : Except YamlError (List Token) := do
  return (← Layout.run {} gs).toList

end DexPatch.Yaml
