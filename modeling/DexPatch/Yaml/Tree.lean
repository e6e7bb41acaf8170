import DexPatch.Listing.Node
import DexPatch.Yaml.Token

/-!
# YAML documents as listing values

The tokens of a document form one value: a scalar, or a collection in blocks or in
brackets. A value that is left out is an empty bare word.

## Main definitions

* `Yaml.value` — the value at the front of a list of tokens
* `Node.ofTokens` — the value of a document
* `Node.ofYaml` — the value of a text
-/

namespace DexPatch

namespace Yaml

/-- A value that is left out. -/
def leftOut : Node := .plain ""

/-- A value in a block is left out before one of these. -/
def EndsBlockPart (t : Token) : Prop := t ∈ [.entry, .key, .value, .blockEnd]

/-- A key in a block is left out before one of these. A list may begin there. -/
def EndsBlockKey (t : Token) : Prop := t ∈ [.key, .value, .blockEnd]

/-- A value inside brackets is left out before one of these. -/
def EndsFlowPart (t : Token) : Prop := t ∈ [.value, .comma, .closeList, .closeMap]

instance : DecidablePred EndsBlockPart := fun _ => inferInstanceAs (Decidable (_ ∈ _))

instance : DecidablePred EndsBlockKey := fun _ => inferInstanceAs (Decidable (_ ∈ _))

instance : DecidablePred EndsFlowPart := fun _ => inferInstanceAs (Decidable (_ ∈ _))

mutual

/-- The value at the front of a list of tokens. -/
def value (inFlow : Bool) (ts : List Token) :
    Except YamlError (Reading Token Node (ts.length - 1)) :=
  match ts with
  | [] => .error .unexpectedEnd
  | .scalar text isPlain :: rest =>
    .ok ⟨if isPlain then .plain text else .text text, rest, Nat.le_refl rest.length⟩
  | .openList :: rest => do
    return ((← flowItems rest).map Node.list).widen (Nat.le_refl rest.length)
  | .openMap :: rest => do
    return ((← flowEntries rest).map Node.ofPairs).widen (Nat.le_refl rest.length)
  | .listStart :: rest => do
    if inFlow then throw .unexpectedToken
    return ((← blockItems rest).map Node.list).widen (Nat.le_refl rest.length)
  | .mapStart :: rest => do
    if inFlow then throw .unexpectedToken
    return ((← blockEntries rest).map Node.ofPairs).widen (Nat.le_refl rest.length)
  | .entry :: rest => do
    if inFlow then throw .unexpectedToken
    -- Items on the column of the key above them open no block of their own.
    return ((← bareItems (.entry :: rest)).map Node.list).widen (Nat.le_refl rest.length)
  | _ :: _ => .error .unexpectedToken
termination_by 4 * ts.length + 1

/-- A value that is left out before certain tokens. -/
def optionalValue (inFlow : Bool) (ends : Token → Prop) [DecidablePred ends]
    (ts : List Token) : Except YamlError (Reading Token Node ts.length) :=
  match ts with
  | [] => .error .unexpectedEnd
  | t :: rest => do
    if ends t then return .none leftOut (t :: rest)
    return (← value inFlow (t :: rest)).widen (Nat.sub_le _ 1)
termination_by 4 * ts.length + 2

/-- The value after a key, if the colon comes. -/
def entryValue (inFlow : Bool) (ends : Token → Prop) [DecidablePred ends]
    (ts : List Token) : Except YamlError (Reading Token Node ts.length) :=
  match ts with
  | .value :: rest => do
    return (← optionalValue inFlow ends rest).widen (by simp)
  | rest => .ok (.none leftOut rest)
termination_by 4 * ts.length

/-- The items of a list in a block of its own. -/
def blockItems (ts : List Token) :
    Except YamlError (Reading Token (List Node) ts.length) :=
  match ts with
  | .entry :: rest => do
    let item ← optionalValue false EndsBlockPart rest
    let others ← blockItems item.rest
    return (others.map (item.value :: ·)).widen (by have := item.rest_le; simp; omega)
  | .blockEnd :: rest => .ok ⟨[], rest, by simp⟩
  | _ => .error .unexpectedToken
termination_by 4 * ts.length
decreasing_by all_goals (try have := item.rest_le); (simp; try omega)

/-- The items of a list that is not indented under its key. -/
def bareItems (ts : List Token) :
    Except YamlError (Reading Token (List Node) (ts.length - 1)) :=
  match ts with
  | .entry :: rest => do
    let item ← optionalValue false EndsBlockPart rest
    match item.rest with
    | .entry :: _ =>
      let others ← bareItems item.rest
      return (others.map (item.value :: ·)).widen (by have := item.rest_le; simp; omega)
    | _ => return ⟨[item.value], item.rest, by simpa using item.rest_le⟩
  | _ => .error .unexpectedToken
termination_by 4 * ts.length
decreasing_by all_goals (try have := item.rest_le); (simp; try omega)

/-- The entries of a map in a block. -/
def blockEntries (ts : List Token) :
    Except YamlError (Reading Token (List (Node × Node)) ts.length) :=
  match ts with
  | .key :: rest => do
    let name ← optionalValue false EndsBlockKey rest
    let item ← entryValue false EndsBlockKey name.rest
    let others ← blockEntries item.rest
    return (others.map ((name.value, item.value) :: ·)).widen (by
      have := name.rest_le; have := item.rest_le; simp; omega)
  | .blockEnd :: rest => .ok ⟨[], rest, by simp⟩
  | _ => .error .unexpectedToken
termination_by 4 * ts.length
decreasing_by
  all_goals (try have := name.rest_le); (try have := item.rest_le); (simp; try omega)

/-- The items of a list in brackets. -/
def flowItems (ts : List Token) :
    Except YamlError (Reading Token (List Node) ts.length) :=
  match ts with
  | [] => .error .unexpectedEnd
  | .closeList :: rest => .ok ⟨[], rest, by simp⟩
  | .key :: rest => do
    let name ← optionalValue true EndsFlowPart rest
    let item ← entryValue true EndsFlowPart name.rest
    let others ← moreItems item.rest
    -- A pair among the items of a list is a map of its own.
    return (others.map (.ofPairs [(name.value, item.value)] :: ·)).widen (by
      have := name.rest_le; have := item.rest_le; simp; omega)
  | t :: rest => do
    let item ← value true (t :: rest)
    let others ← moreItems item.rest
    return (others.map (item.value :: ·)).widen (by have := item.rest_le; simp_all; omega)
termination_by 4 * ts.length + 2
decreasing_by
  all_goals (try have := name.rest_le); (try have := item.rest_le); (simp_all; try omega)

/-- The items of a list in brackets after one of them. -/
def moreItems (ts : List Token) :
    Except YamlError (Reading Token (List Node) ts.length) :=
  match ts with
  | .comma :: rest => do
    return (← flowItems rest).widen (by simp)
  | .closeList :: rest => .ok ⟨[], rest, by simp⟩
  | _ => .error .unexpectedToken
termination_by 4 * ts.length

/-- The entries of a map in braces. -/
def flowEntries (ts : List Token) :
    Except YamlError (Reading Token (List (Node × Node)) ts.length) :=
  match ts with
  | [] => .error .unexpectedEnd
  | .closeMap :: rest => .ok ⟨[], rest, by simp⟩
  | .key :: rest => do
    let name ← optionalValue true EndsFlowPart rest
    let item ← entryValue true EndsFlowPart name.rest
    let others ← moreEntries item.rest
    return (others.map ((name.value, item.value) :: ·)).widen (by
      have := name.rest_le; have := item.rest_le; simp; omega)
  | t :: rest => do
    let name ← value true (t :: rest)
    let others ← moreEntries name.rest
    return (others.map ((name.value, leftOut) :: ·)).widen (by
      have := name.rest_le; simp_all; omega)
termination_by 4 * ts.length + 2
decreasing_by
  all_goals (try have := name.rest_le); (try have := item.rest_le); (simp_all; try omega)

/-- The entries of a map in braces after one of them. -/
def moreEntries (ts : List Token) :
    Except YamlError (Reading Token (List (Node × Node)) ts.length) :=
  match ts with
  | .comma :: rest => do
    return (← flowEntries rest).widen (by simp)
  | .closeMap :: rest => .ok ⟨[], rest, by simp⟩
  | _ => .error .unexpectedToken
termination_by 4 * ts.length

end

end Yaml

namespace Node

open Yaml

/-- The value of a document. Directives may come first, and then its start is marked; its
end may be marked any number of times, and nothing may follow. A document without a value
is an empty bare word. -/
def ofTokens (ts : List Token) : Except YamlError Node :=
  match directives ts with
  | ([], []) => .ok leftOut
  | (ds, .documentStart :: rest) => do
    Directive.checkAll ds
    started rest
  | ([], rest) => single rest
  | (_, _) => .error .missingStart
where
  /-- The directives in front, and what comes after them. -/
  directives : List Token → List Directive × List Token
    | .directive d :: ts =>
      let (ds, rest) := directives ts
      (d :: ds, rest)
    | ts => ([], ts)
  started (ts : List Token) : Except YamlError Node :=
    match ts with
    | [] => .ok leftOut
    | .documentStart :: _ => .error .moreDocuments
    | .documentEnd :: rest => ended leftOut rest
    | ts => single ts
  single (ts : List Token) : Except YamlError Node := do
    let r ← value false ts
    ended r.value r.rest
  ended (n : Node) (ts : List Token) : Except YamlError Node :=
    match ts.dropWhile (· = .documentEnd) with
    | [] => .ok n
    | .documentStart :: _ => .error .moreDocuments
    | _ => .error .unexpectedToken

/-- The value of a text. -/
def ofYaml (text : String) : Except YamlError Node := do
  ofTokens (← Token.ofGlyphs (← Glyph.ofText text))

end Node

end DexPatch
