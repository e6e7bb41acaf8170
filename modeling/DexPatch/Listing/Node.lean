import DexPatch.Instruction
import DexPatch.Listing.Word

/-!
# Listing values

A listing is a tree of maps, lists and scalars. Reading a value from it asks for what is
wanted: a string, a number of some width, a list.

## Main definitions

* `Node` — a listing value
* `Node.ofPairs` — a map from its keys and values
* `ListingError` — why a listing does not read as what is wanted
* `Node.asText`, `Node.asInteger`, `Node.asNatural`, `Node.asList` — the readings of one
  value
-/

namespace DexPatch

/-- A value of a listing. -/
inductive Node
  | null
  | boolean (value : Bool)
  | integer (value : Int)
  /-- A number with a fraction or an exponent, as it is spelled. -/
  | decimal (spelling : String)
  | text (value : String)
  /-- A bare word, which means what is wanted of it. -/
  | plain (word : String)
  | list (items : List Node)
  /-- A list that may also stand for a record, by giving its parts without their names. -/
  | row (items : List Node)
  | map (entries : List (String × Node))
  /-- A map with collections among its keys. No reading accepts it. -/
  | pairs (entries : List (Node × Node))
deriving Repr, Inhabited

/-- Why a listing does not read as what is wanted. -/
inductive ListingError
  | expected (what : String)
  | missing (key : String)
  | duplicate (key : String)
  | unknown (key : String)
  | excess
  | instruction (cause : InstructionError)
deriving DecidableEq, Repr

def ListingError.message : ListingError → String
  | expected what => "expected " ++ what
  | missing key => "missing key `" ++ key ++ "`"
  | duplicate key => "duplicate key `" ++ key ++ "`"
  | unknown key => "unknown key `" ++ key ++ "`"
  | excess => "a row is too long"
  | instruction cause => cause.message

namespace Node

/-- The text of a key; a collection has none. -/
def keyText? : Node → Option String
  | text value => some value
  | plain word => some word
  | _ => none

/-- The map of keys and values of any kind. -/
def ofPairs (entries : List (Node × Node)) : Node :=
  match entries.mapM fun (key, value) => key.keyText?.map (·, value) with
  | some named => map named
  | none => pairs entries

/-- Stands for an absent value where one may be absent. -/
def IsAbsent : Node → Prop
  | null => True
  | plain word => word = "" ∨ Word.IsNull word
  | _ => False

instance (n : Node) : Decidable n.IsAbsent := by
  cases n <;> unfold IsAbsent <;> infer_instance

/-- A string; a bare word is the string of its letters. -/
def asText : Node → Except ListingError String
  | text value => .ok value
  | plain word => .ok word
  | _ => .error (.expected "a string")

/-- An integer from `low` to below `high`. -/
def asInteger (low high : Int) : Node → Except ListingError Int
  | integer value => bounded value
  | plain word =>
    match Word.integer? word with
    | some value => bounded value
    | none => .error (.expected "an integer")
  | _ => .error (.expected "an integer")
where
  bounded (value : Int) : Except ListingError Int :=
    if low ≤ value ∧ value < high then .ok value
    else .error (.expected "an integer in range")

/-- A natural number below `high`. -/
def asNatural (high : Nat) : Node → Except ListingError Nat
  | integer (.ofNat value) => bounded value
  | plain word =>
    match Word.natural? word with
    | some value => bounded value
    | none => .error (.expected "a natural number")
  | _ => .error (.expected "a natural number")
where
  bounded (value : Nat) : Except ListingError Nat :=
    if value < high then .ok value else .error (.expected "a natural number in range")

def asUInt16 (n : Node) : Except ListingError UInt16 := do
  return UInt16.ofNat (← n.asNatural UInt16.size)

def asUInt32 (n : Node) : Except ListingError UInt32 := do
  return UInt32.ofNat (← n.asNatural UInt32.size)

def asInt32 (n : Node) : Except ListingError Int32 := do
  return Int32.ofInt (← n.asInteger (-0x80000000) 0x80000000)

/-- An integer of 64 bits. -/
def asInt64 (n : Node) : Except ListingError Int :=
  n.asInteger (-0x8000000000000000) 0x8000000000000000

/-- A list whose items are read by `item`; an empty bare word is the empty list. -/
def asList {α : Type} (item : Node → Except ListingError α) :
    Node → Except ListingError (List α)
  | list items | row items => items.mapM item
  | plain "" => .ok []
  | _ => .error (.expected "a list")

end Node

end DexPatch
