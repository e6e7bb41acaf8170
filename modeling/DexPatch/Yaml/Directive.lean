import DexPatch.Yaml.Scalar

/-!
# Directives

A line with a percent sign in front says something about the document after it: the
version of YAML, or a handle that stands for the beginning of tags. Listings use no tags,
so of a handle only its name matters, which may be given once.

## Main definitions

* `Directive` — what a line says
* `directive` — the directive after a percent sign
* `Directive.checkAll` — the directives of a document agree with each other
-/

namespace DexPatch.Yaml

/-- What is said about a document. -/
inductive Directive
  | version (major minor : Nat)
  | handle (name : String)
deriving DecidableEq, Repr

/-! ### Parts of a line -/

/-- The characters at the front that satisfy a condition. -/
def leading (p : Char → Bool) (gs : List Glyph) : Reading Glyph (List Char) gs.length :=
  ⟨(gs.takeWhile fun g => p g.char).map Glyph.char, gs.dropWhile fun g => p g.char,
    (List.dropWhile_suffix _).length_le⟩

/-- May occur in the name of a directive or of a handle. -/
def isNameChar (c : Char) : Bool := c.isAlphanum || c = '-' || c = '_'

/-- May occur in what a handle stands for; after a percent sign come two digits. -/
def isAddressChar (c : Char) : Bool := isNameChar c || c ∈ ";/?:@&=+$,.%!~*'()[]".toList

/-- The number of bytes in the encoding of a character that starts with a given byte. -/
def encodedSize? (byte : Nat) : Option Nat :=
  if byte < 0x80 then some 1
  else if 0xc0 ≤ byte ∧ byte < 0xe0 then some 2
  else if 0xe0 ≤ byte ∧ byte < 0xf0 then some 3
  else if 0xf0 ≤ byte ∧ byte < 0xf8 then some 4
  else none

/-- Every percent sign is followed by two digits of a byte, and the bytes come in
characters. `pending` counts the bytes that the last character still lacks. -/
def isWellEscaped (pending : Nat) : List Char → Bool
  | '%' :: a :: b :: rest =>
    match Word.numeral? 16 [a, b] with
    | none => false
    | some byte =>
      if pending = 0 then
        match encodedSize? byte with
        | none => false
        | some size => isWellEscaped (size - 1) rest
      else 0x80 ≤ byte && byte < 0xc0 && isWellEscaped (pending - 1) rest
  | '%' :: _ => false
  | _ :: rest => pending = 0 && isWellEscaped 0 rest
  | [] => pending = 0

/-- The greatest number of digits in a part of a version. -/
def versionDigits : Nat := 9

/-- A part of a version. -/
def versionPart (gs : List Glyph) : Except YamlError (Reading Glyph Nat gs.length) :=
  let r := leading Char.isDigit gs
  match Word.numeral? 10 r.value with
  | some n =>
    if r.value.length ≤ versionDigits then .ok ⟨n, r.rest, r.rest_le⟩
    else .error .malformedDirective
  | none => .error .malformedDirective

/-- The version after the name of its directive. -/
def versionOf (gs : List Glyph) : Except YamlError (Reading Glyph Directive gs.length) := do
  let ⟨_, digits, h₁⟩ := leading (IsBlank ·) gs
  let ⟨major, afterMajor, h₂⟩ ← versionPart digits
  if ¬ StartsWithAny ['.'] afterMajor then throw .malformedDirective
  let ⟨minor, rest, h₃⟩ ← versionPart afterMajor.tail
  return ⟨.version major minor, rest, by simp at h₃; omega⟩

/-- A handle is an exclamation mark alone or one on each side of a name. -/
def IsHandle (name : List Char) : Prop :=
  name = ['!'] ∨ (name.head? = some '!' ∧ name.getLast? = some '!' ∧ name.count '!' = 2)

instance (name : List Char) : Decidable (IsHandle name) :=
  inferInstanceAs (Decidable (_ ∨ _ ∧ _ ∧ _))

/-- The handle after the name of its directive, and what it stands for. -/
def handleOf (gs : List Glyph) : Except YamlError (Reading Glyph Directive gs.length) := do
  let ⟨_, start, h₁⟩ := leading (IsBlank ·) gs
  let ⟨name, afterName, h₂⟩ := leading (fun c => c = '!' || isNameChar c) start
  let ⟨gap, target, h₃⟩ := leading (IsBlank ·) afterName
  let ⟨address, rest, h₄⟩ := leading isAddressChar target
  if ¬ IsHandle name ∨ gap = [] then throw .malformedDirective
  if address = [] ∨ ¬ isWellEscaped 0 address ∨ ¬ EndsWord rest then throw .malformedDirective
  return ⟨.handle (String.ofList name), rest, by omega⟩

/-- The directive after a percent sign, up to the end of its line. -/
def directive (gs : List Glyph) : Except YamlError (Reading Glyph Directive gs.length) := do
  let ⟨name, content, h₁⟩ := leading isNameChar gs
  if ¬ EndsWord content then throw .malformedDirective
  let ⟨d, afterContent, h₂⟩ ←
    if name = "YAML".toList then versionOf content
    else if name = "TAG".toList then handleOf content
    else throw .malformedDirective
  let ⟨(), rest, h₃⟩ ← restOfLine false afterContent
  return ⟨d, rest, by omega⟩

namespace Directive

/-- The versions of YAML that documents may have. -/
def versions : List Directive := [version 1 1, version 1 2]

/-- What a directive settles: the version, or a handle. -/
def subject : Directive → Option String
  | version _ _ => none
  | handle name => some name

/-- The version is a known one, and nothing is settled twice. -/
def checkAll (ds : List Directive) : Except YamlError Unit := do
  if ∃ d ∈ ds, d.subject = none ∧ d ∉ versions then throw .unsupportedVersion
  if ¬ (ds.map subject).Nodup then throw .repeatedDirective

end Directive

end DexPatch.Yaml
