import DexPatch.Listing.Node

/-!
# Records

A record is written as a map from the names of its parts. The entries come in any order
and unknown ones are passed over. Of several defects the first in the order of the
entries counts, and what is missing shows only at their end. A row gives the parts in
their usual order, without the names.

## Main definitions

* `Record` — what is read from the entries of a map
* `Record.required`, `Record.defaulted`, `Record.optional` — the readings of a key
* `Record.ofNode` — reads a record from a value

## Main results

* `seq_ok` — parts that are read are put together
-/

namespace DexPatch

/-- The entries of a map, in order. -/
abbrev Entries := List (String × Node)

/-- A defect among entries, with the number of entries before it. -/
structure Defect where
  place : Nat
  cause : ListingError
deriving DecidableEq, Repr

/-- What is read from the entries of a map, or the first defect. -/
def Record (α : Type) : Type := Entries → Except Defect α

namespace Record

variable {α β : Type}

instance : Applicative Record where
  pure a _ := .ok a
  seq f x entries :=
    match f entries, x () entries with
    | .ok g, .ok a => .ok (g a)
    | .error d, .ok _ => .error d
    | .ok _, .error e => .error e
    | .error d, .error e => .error (if e.place < d.place then e else d)

@[simp] theorem pure_apply (a : α) (entries : Entries) :
    (pure a : Record α) entries = .ok a := rfl

theorem seq_ok {f : Record (α → β)} {x : Record α} {entries : Entries} {g : α → β} {a : α}
    (hf : f entries = .ok g) (hx : x entries = .ok a) : (f <*> x) entries = .ok (g a) := by
  simp only [Seq.seq, hf, hx]

theorem map_ok {x : Record α} {entries : Entries} {a : α} (f : α → β)
    (hx : x entries = .ok a) : (f <$> x) entries = .ok (f a) := by
  have h : f <$> x = pure f <*> x := rfl
  rw [h, seq_ok (pure_apply f entries) hx]

/-! ### Keys -/

/-- The value of a key, which may occur once at most. -/
def find (entries : Entries) (key : String) : Except ListingError (Option Node) :=
  -- Keys that nobody asks for may repeat.
  match entries.filter fun (k, _) => k = key with
  | [] => .ok none
  | [(_, value)] => .ok (some value)
  | _ => .error (.duplicate key)

/-- What is read from the value of a key, or what stands for a missing one. -/
def entry (key : String) (absent : Except ListingError α)
    (read : Node → Except ListingError α) : Record α := fun entries =>
  match find entries key with
  | .ok none => absent.mapError (⟨entries.length, ·⟩)
  | .ok (some value) => (read value).mapError (⟨entries.findIdx (·.1 = key), ·⟩)
  | .error cause => .error ⟨entries.findIdx (·.1 = key), cause⟩

/-- The value of a key that must be there. -/
def required (key : String) (read : Node → Except ListingError α) : Record α :=
  entry key (.error (.missing key)) read

/-- The value of a key that may be missing, and then has a usual value. -/
def defaulted (key : String) (usual : α) (read : Node → Except ListingError α) : Record α :=
  entry key (.ok usual) read

/-- The value of a key that may be missing or stand for nothing. -/
def optional (key : String) (read : Node → Except ListingError α) : Record (Option α) :=
  entry key (.ok none) fun value => if value.IsAbsent then .ok none else some <$> read value

/-- Every key is one of those known. -/
def known (keys : List String) : Record Unit := fun entries =>
  match entries.find? fun (key, _) => key ∉ keys with
  | some (key, _) => .error ⟨entries.findIdx (·.1 = key), .unknown key⟩
  | none => .ok ()

/-! ### Values -/

/-- Reads a record whose parts have the given keys, in their usual order. An empty bare
word is a map without entries. -/
def ofNode (keys : List String) (record : Record α) : Node → Except ListingError α
  | .map entries => read entries
  | .plain "" => read []
  | .row items => do
    let a ← read (keys.zip items)
    if keys.length < items.length then throw .excess
    return a
  | _ => .error (.expected "a map")
where
  read (entries : Entries) : Except ListingError α := (record entries).mapError Defect.cause

end Record

end DexPatch
